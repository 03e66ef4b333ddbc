import SensorHub.Labels
import SensorHub.Lifecycle
import SensorHub.Protocol
import SensorHub.Threads

/-!
# The mask and what the firmware was told

`mEnabled` is the driver's record of which sensors are on; the firmware learns it only from
the commands `setEnable` writes to `enable`. `toldOn k` decodes, from the texts that reached
`enable`, whether the last command addressed to the sensor of kind `k` switched it on: the
state of that sensor as the firmware knows it.

`setEnable` updates the bit once the `open` of `enable` succeeds, whether or not the
`write` then goes through, and reports success either way. So the mask can only mirror the
firmware while every `enable` write that opens also goes through (`Call.EnableWritesThrough`);
under that condition it does, over every run of whole calls from the constructor, with the
automatic disable of the significant-motion sensor in `readEvents` included
(`mask_mirrors_firmware`). The step lemma is `setEnable_mirrors`; every other call leaves
both the mask and `enable` alone.

A pass delivers the event of a sensor record exactly when the sensor's bit is set, and only
the significant-motion sensor's own pass clears a bit. The pass reads the mask with no lock,
and `setEnable` writes its command before it updates the mask, so over the interleavings of
the threads the mask mirrors the commands it has taken in: all of them, but the last while a
`setEnable` stands between its write and its update. `readEvents` delivers the event of a
record of another sensor exactly when the last of those commands for that sensor switched it
on (`events_only_of_sensors_told_on`), and so can deliver the event of a sensor the firmware
was last told to switch off (`gyroscope_event_inside_disable_window`).
-/

namespace SensorHub

namespace CwMcuSensor

variable (H : Header)

/-- The command `setEnable` writes to switch the sensor of kind `k` on (`f = 1`) or off
(`f = 0`). -/
def enableText (k : SensorKind) (f : ℕ) : String :=
  toString (H.tag k : ℤ) ++ " " ++ toString f ++ "\n"

/-- Whether the last of the texts `ts` addressed to the sensor of kind `k` switched it on;
`false` before any. -/
def toldOn (k : SensorKind) (ts : List String) : Bool :=
  (ts.filter fun t => t == enableText H k 0 || t == enableText H k 1).getLast? ==
    some (enableText H k 1)

/-- The mask `m` mirrors the texts `ts` sent to `enable`: each kind's bit is set exactly when
the firmware was last told to switch that sensor on. -/
def Mirrors (m : BitVec 32) (ts : List String) : Prop :=
  ∀ k, m.getLsbD (H.tag k) = toldOn H k ts

/-! ### Decoding the commands -/

theorem enableText_data (k : SensorKind) (f : ℕ) :
    (enableText H k f).data = (toString (H.tag k : ℤ)).data ++ ' ' :: ((toString f).data ++ ['\n']) := by
  simp only [enableText, String.data_append, List.append_assoc]; rfl

/-- A command names one kind and one flag: the firmware's `%d` reads the id back
(`scanDecimal_tag`), and the flag is the digit after it. -/
theorem enableText_inj {k k' : SensorKind} {f f' : ℕ} (hf : f ≤ 1) (hf' : f' ≤ 1)
    (h : enableText H k f = enableText H k' f') : k = k' ∧ f = f' := by
  have hs := congrArg (fun t => scanDecimal t.data) h
  simp only [enableText_data, scanDecimal_tag H _ (show (' ').isDigit = false from rfl),
    Except.ok.injEq, Prod.mk.injEq, Nat.cast_inj, List.cons.injEq, true_and,
    List.append_cancel_right_eq] at hs
  refine ⟨H.tag_inj.mp hs.1, ?_⟩
  obtain rfl | rfl : f = 0 ∨ f = 1 := by omega
  all_goals obtain rfl | rfl : f' = 0 ∨ f' = 1 := by omega
  all_goals first | rfl | exact absurd hs.2 (by decide)

theorem length_enableText_lt (k : SensorKind) {f : ℕ} (hf : f ≤ 1) :
    (enableText H k f).length < 10 := by
  have hw := length_toString_tag H k
  have hl : (toString f).length = 1 := by obtain rfl | rfl : f = 0 ∨ f = 1 := (by omega) <;> rfl
  have hs : " ".length = 1 := rfl
  have hn : "\n".length = 1 := rfl
  simp only [enableText, String.length_append, hl]
  omega

@[simp] theorem toldOn_nil (k : SensorKind) : toldOn H k [] = false := rfl

/-- A new command changes only what the firmware knows of the kind it names. -/
theorem toldOn_append_enableText (k k' : SensorKind) {f : ℕ} (hf : f ≤ 1) (ts : List String) :
    toldOn H k (ts ++ [enableText H k' f]) = if k' = k then decide (f = 1) else toldOn H k ts := by
  unfold toldOn
  rw [List.filter_append]
  split_ifs with hk
  · -- the new command names `k`: it passes the filter and is the last one for `k`
    subst hk
    have hmem : (enableText H k' f == enableText H k' 0 || enableText H k' f == enableText H k' 1) = true := by
      obtain rfl | rfl : f = 0 ∨ f = 1 := (by omega) <;> simp
    rw [List.filter_singleton, hmem, cond_true, List.getLast?_append_of_ne_nil _ (List.cons_ne_nil _ _),
      List.getLast?_singleton]
    -- it switches `k` on exactly when `f = 1`
    obtain rfl | rfl : f = 0 ∨ f = 1 := (by omega)
    · have h01 : enableText H k' 0 ≠ enableText H k' 1 := fun h => absurd (enableText_inj H (by omega) le_rfl h).2 (by omega)
      simpa using h01
    · simp
  · -- it names another kind: the filter for `k` drops it
    have hne : ∀ g ≤ 1, (enableText H k' f == enableText H k g) = false := fun g hg =>
      beq_false_of_ne fun h => hk (enableText_inj H hf hg h).1
    rw [List.filter_singleton, hne 0 (by omega), hne 1 le_rfl]
    simp

/-! ### The calls -/

/-- The texts `setEnable` sends to `enable`: the command of the handle's kind, when its
`open` and its `write` go through. -/
theorem setEnable_writesTo_enable (o : SetEnableOutcome) (handle en : ℤ) (s : CwMcuSensor) :
    writesTo .enable (setEnable H o handle en s).2.sysfs = writesTo .enable s.sysfs ++
      match H.kindOfHandle handle with
      | some k => if o.enable.opened && o.enable.written then
          [enableText H k (if en = 0 then 0 else 1)] else []
      | none => [] := by
  have hN : H.numSensors ≤ 4294967295 := by have := H.numSensors_lt; omega
  rw [setEnable_eq]
  cases hk : H.kindOfHandle handle with
  | none => simp [H.findSensor_of_kindOfHandle_none hk, hN]
  | some k =>
    have hl := length_enableText_lt H k (show (if en = 0 then 0 else 1 : ℕ) ≤ 1 by split <;> omega)
    simp only [findSensor_of_kindOfHandle H hk, uint32_tag_lt, if_false]
    rw [enableText] at hl
    rw [snprintfWrite_of_lt hl]
    by_cases ho : o.enable.opened
    · have hb : ∀ (c : Prop) [Decidable c], writesTo .enable
          (if c then written o.bufferEnable (.bufferEnable, toString (0 : ℤ)) else []) = [] :=
        fun c _ => by split <;> simp
      simp [ho, hb, enableText]
    · simp [ho]

/-- The command `k' f` sets the bit of `k'` to `f` in the mask that mirrors the commands. -/
theorem Mirrors.append_enableText {m : BitVec 32} {ts : List String} (hs : Mirrors H m ts)
    (k' : SensorKind) {f : ℕ} (hf : f ≤ 1) :
    Mirrors H (setBit m (H.tag k') f) (ts ++ [enableText H k' f]) := by
  intro k
  rw [getLsbD_setBit (H.tag_lt_32 k') hf, toldOn_append_enableText H k k' hf, hs k]
  simp only [H.tag_inj, eq_comm]

/-- **`setEnable` keeps the mask mirroring the firmware**, when its `write` goes through
whenever its `open` does. -/
theorem setEnable_mirrors (o : SetEnableOutcome) (handle en : ℤ)
    (ho : o.enable.opened = true → o.enable.written = true) {s : CwMcuSensor}
    (hs : Mirrors H s.mEnabled (writesTo .enable s.sysfs)) :
    Mirrors H (setEnable H o handle en s).2.mEnabled
      (writesTo .enable (setEnable H o handle en s).2.sysfs) := by
  intro k
  rw [setEnable_mEnabled, setEnable_writesTo_enable]
  cases hk : H.kindOfHandle handle with
  | none => simpa using hs k
  | some k' =>
    have hf : (if en = 0 then 0 else 1 : ℕ) ≤ 1 := by split <;> omega
    by_cases hop : o.enable.opened
    · simp only [hop, ho hop, Bool.and_self, if_true]
      exact Mirrors.append_enableText H hs k' hf k
    · simpa [hop] using hs k

theorem processEvent_writesTo_enable (o : ProcessOutcome) (r : Record) (s : CwMcuSensor) :
    writesTo .enable (processEvent H o r s).2.sysfs = writesTo .enable s.sysfs := by
  rw [(processEvent_spec H o r s).2.2.2.2, writesTo_append]
  split_ifs <;> simp

theorem processEvent_mirrors (o : ProcessOutcome) (r : Record) {s : CwMcuSensor}
    (hs : Mirrors H s.mEnabled (writesTo .enable s.sysfs)) :
    Mirrors H (processEvent H o r s).2.mEnabled (writesTo .enable (processEvent H o r s).2.sysfs) := by
  rwa [processEvent_mEnabled, processEvent_writesTo_enable]

theorem dispatchEvent_mirrors (o : IterOutcome) (r : Record)
    (ho : o.disable.enable.opened = true → o.disable.enable.written = true) {s : CwMcuSensor}
    (hs : Mirrors H s.mEnabled (writesTo .enable s.sysfs)) :
    Mirrors H (dispatchEvent H o r s).2.mEnabled (writesTo .enable (dispatchEvent H o r s).2.sysfs) := by
  have h1 := processEvent_mirrors H o.process r hs
  rw [dispatchEvent_eq]; dsimp only
  split_ifs <;>
    simp only [calculateRv4thElement_mEnabled, calculateRv4thElement_sysfs, stampSlot_mEnabled,
      stampSlot_sysfs]
  · exact h1
  · exact setEnable_mirrors H _ _ _ ho (by simpa only [stampSlot_mEnabled, stampSlot_sysfs] using h1)
  all_goals exact h1

theorem dispatchAll_mirrors (io : ℕ → IterOutcome)
    (ho : ∀ i, (io i).disable.enable.opened = true → (io i).disable.enable.written = true)
    (q : List Record) {s : CwMcuSensor} (hs : Mirrors H s.mEnabled (writesTo .enable s.sysfs)) :
    Mirrors H (dispatchAll H io q s).2.mEnabled (writesTo .enable (dispatchAll H io q s).2.sysfs) := by
  induction q generalizing io s with
  | nil => exact hs
  | cons r q ih =>
    exact ih (fun i => io (i + 1)) (fun i => ho (i + 1)) (dispatchEvent_mirrors H (io 0) r (ho 0) hs)

end CwMcuSensor

open CwMcuSensor

section Firmware

variable (H : Header)

/-- Every `enable` write the call attempts, the automatic disables of `readEvents` included,
goes through once its `open` has. -/
def Call.EnableWritesThrough : Call → Prop
  | .setEnable o _ _ => o.enable.opened = true → o.enable.written = true
  | .readEvents o _ => ∀ i, (o.iter i).disable.enable.opened = true →
      (o.iter i).disable.enable.written = true
  | _ => True

theorem Call.step_mirrors {c : Call} (hc : c.EnableWritesThrough) {h : Hub}
    (hs : Mirrors H h.driver.mEnabled (writesTo .enable h.driver.sysfs)) :
    Mirrors H (c.step H h).2.driver.mEnabled (writesTo .enable (c.step H h).2.driver.sysfs) := by
  cases c with
  | setEnable o handle en => exact setEnable_mirrors H o handle en hc hs
  | setDelay o handle delayNs =>
    simp only [Call.step, setDelay_eq]; split_ifs <;> simpa using hs
  | batch o handle flags periodNs timeout =>
    simp only [Call.step, batch_mEnabled]
    rcases batch_snd_of_checks H o handle flags periodNs timeout h.driver with hb | ⟨h1, h2, h3⟩
    · rwa [hb]
    · rw [batch_of_checks H o handle flags periodNs timeout h.driver h1 h2 h3]
      dsimp only; split_ifs <;> simpa using hs
  | flush o handle => simp only [Call.step, flush_eq]; split_ifs <;> simpa using hs
  | syncTimestamp o => simpa [Call.step, syncTimestamp_eq] using hs
  | readEvents o count =>
    obtain ⟨pre, hst⟩ := readEvents_state_eq H o count h.reader h.driver
    simp only [Call.step, hst]
    exact dispatchAll_mirrors H o.iter hc pre hs

/-- The constructor starts from an empty mask and no command, then runs `setEnable(0, 1)`. -/
theorem init_mirrors (m : Memory) (o : InitOutcome)
    (ho : o.enable.enable.opened = true → o.enable.enable.written = true) :
    Mirrors H (CwMcuSensor.init H m o).mEnabled (writesTo .enable (CwMcuSensor.init H m o).sysfs) := by
  have hl : (toString IIO_MAX_BUFF_SIZE).length < INT32_CHAR_LEN := by decide
  have h1 : (toString (1 : ℤ)).length < INT32_CHAR_LEN := by decide
  unfold CwMcuSensor.init; dsimp only
  simp only [unlock_mEnabled, lock_mEnabled, unlock_sysfs, lock_sysfs]
  split
  · refine setEnable_mirrors H _ _ _ ho ?_
    simp only [unlock_mEnabled, unlock_sysfs, initBuffer, sysfsSetInputAttrByInt_snd _ hl,
      sysfsSetInputAttrByInt_snd _ h1, sysfsSetInputAttr_snd, record]
    split_ifs <;> simp [Mirrors, fresh]
  · simp [Mirrors, fresh]

theorem run_mirrors : ∀ (cs : List Call) {h : Hub}, (∀ c ∈ cs, c.EnableWritesThrough) →
    Mirrors H h.driver.mEnabled (writesTo .enable h.driver.sysfs) →
    Mirrors H (run H cs h).2.driver.mEnabled (writesTo .enable (run H cs h).2.driver.sysfs)
  | [], _, _, hs => hs
  | c :: cs, _, hcs, hs =>
    run_mirrors cs (fun c' hc' => hcs c' (.tail _ hc')) (Call.step_mirrors H (hcs c (.head _)) hs)

/-- **The mask mirrors the firmware.** After the constructor and any sequence of calls in
which every `enable` write that opens also goes through (the constructor's
`setEnable(0, 1)`, the calls of `setEnable` and the automatic disables of `readEvents`),
whatever the other arguments and I/O outcomes, the bit of `mEnabled` of every sensor kind is
set exactly when the last command on `enable` addressed to that sensor switched it on. -/
theorem mask_mirrors_firmware (m : Memory) (o : InitOutcome)
    (ho : o.enable.enable.opened = true → o.enable.enable.written = true)
    (cs : List Call) (hcs : ∀ c ∈ cs, c.EnableWritesThrough) (k : SensorKind) :
    (run H cs ⟨CwMcuSensor.init H m o, []⟩).2.driver.mEnabled.getLsbD (H.tag k) =
      toldOn H k (writesTo .enable (run H cs ⟨CwMcuSensor.init H m o, []⟩).2.driver.sysfs) :=
  run_mirrors H cs (h := ⟨CwMcuSensor.init H m o, []⟩) hcs (init_mirrors H m o ho) k

/-- The constructor, then the gyroscope switched on, every write going through: its bit is
set, and the firmware was told to switch it on. -/
theorem gyroscope_mask_mirrors_firmware :
    ((⟨false, ⟨true, true, 0⟩, ⟨true, true, 0⟩⟩ : SetEnableOutcome).enable.opened = true →
        (⟨false, ⟨true, true, 0⟩, ⟨true, true, 0⟩⟩ : SetEnableOutcome).enable.written = true) ∧
    (∀ c ∈ [Call.setEnable ⟨false, ⟨true, true, 0⟩, ⟨true, true, 0⟩⟩ (Header.sample.handle .gyro) 1],
      c.EnableWritesThrough) ∧
    toldOn Header.sample .gyro (writesTo .enable (run Header.sample
      [.setEnable ⟨false, ⟨true, true, 0⟩, ⟨true, true, 0⟩⟩ (Header.sample.handle .gyro) 1]
      ⟨CwMcuSensor.init Header.sample default ⟨0, true, ⟨true, true, 0⟩, ⟨true, true, 0⟩,
        ⟨true, true, 0⟩, ⟨false, ⟨true, true, 0⟩, ⟨true, true, 0⟩⟩⟩, []⟩).2.driver.sysfs) = true ∧
    (run Header.sample
      [.setEnable ⟨false, ⟨true, true, 0⟩, ⟨true, true, 0⟩⟩ (Header.sample.handle .gyro) 1]
      ⟨CwMcuSensor.init Header.sample default ⟨0, true, ⟨true, true, 0⟩, ⟨true, true, 0⟩,
        ⟨true, true, 0⟩, ⟨false, ⟨true, true, 0⟩, ⟨true, true, 0⟩⟩⟩, []⟩).2.driver.mEnabled.getLsbD
        (Header.sample.tag .gyro) =
      toldOn Header.sample .gyro (writesTo .enable (run Header.sample
        [.setEnable ⟨false, ⟨true, true, 0⟩, ⟨true, true, 0⟩⟩ (Header.sample.handle .gyro) 1]
        ⟨CwMcuSensor.init Header.sample default ⟨0, true, ⟨true, true, 0⟩, ⟨true, true, 0⟩,
          ⟨true, true, 0⟩, ⟨false, ⟨true, true, 0⟩, ⟨true, true, 0⟩⟩⟩, []⟩).2.driver.sysfs) :=
  have hcs : ∀ c ∈ [Call.setEnable ⟨false, ⟨true, true, 0⟩, ⟨true, true, 0⟩⟩
      (Header.sample.handle .gyro) 1], c.EnableWritesThrough := by
    simp only [List.mem_singleton, forall_eq]
    exact fun _ => rfl
  ⟨fun _ => rfl, hcs, by decide, mask_mirrors_firmware Header.sample _ _ (fun _ => rfl) _ hcs _⟩

end Firmware

/-! ### The mask under the interleavings

`setEnable` writes its command to `enable` (line 535) before it updates the mask
(lines 542–543), and a pass of `readEvents` tests the mask (line 846) with no lock, so a pass
can come between the two. The mask then mirrors the commands it has taken in
(`Threads.applied`): all of them, but the last while a `setEnable` stands in that window.
Every step of every thread keeps that (`Threads.Mirrored`, `Step.mirrored`), and a pass over
a record of a sensor other than the significant-motion sensor follows the mask, with the
mutex free or held (`passStep_sensor`). -/

section Interleaved

variable (H : Header)

/-- Every `enable` write the step attempts goes through once its `open` has. -/
def Step.EnableWritesThrough : Step → Prop
  | .call c => c.EnableWritesThrough
  | _ => True

/-- The automatic disables of the passes still to come write through once they open. -/
def Reading.WritesThrough : Reading → Prop
  | .idle => True
  | .loop io _ _ | .waiting io _ _ _ =>
    ∀ i, (io i).disable.enable.opened = true → (io i).disable.enable.written = true

/-- The id and the flag of a `setEnable` stopped between its write to `enable` and its update
of the mask, when its `open` went through. -/
def Held.enableWrite? : Option Held → Option (ℤ × ℕ)
  | some (.enableMask o what flags) => if o.enable.opened then some (what, flags) else none
  | _ => none

/-- The commands on `enable` that the mask has taken in: all of them, but the last while a
`setEnable` stands between its write (line 535) and its update of the mask (line 542). -/
def Threads.applied (t : Threads) : List String :=
  if (Held.enableWrite? t.held).isSome then (writesTo .enable t.hub.driver.sysfs).dropLast
  else writesTo .enable t.hub.driver.sysfs

/-- **The mask mirrors the commands it has taken in**; the command of a `setEnable` stopped
before its update of the mask is the last on `enable`, for the kind of its id; and the
disables of the passes to come write through. -/
def Threads.Mirrored (t : Threads) : Prop :=
  Mirrors H t.hub.driver.mEnabled t.applied ∧
    (∀ what flags, Held.enableWrite? t.held = some (what, flags) → ∃ k, what = H.tag k ∧
      flags ≤ 1 ∧ writesTo .enable t.hub.driver.sysfs = t.applied ++ [enableText H k flags]) ∧
    t.reading.WritesThrough

/-- A step that keeps the mask, the commands on `enable` and the `setEnable` in its window
keeps the mirror. -/
theorem Threads.Mirrored.frame {t t' : Threads} (h : t.Mirrored H)
    (hm : t'.hub.driver.mEnabled = t.hub.driver.mEnabled)
    (hl : writesTo .enable t'.hub.driver.sysfs = writesTo .enable t.hub.driver.sysfs)
    (hh : Held.enableWrite? t'.held = Held.enableWrite? t.held)
    (hr : t'.reading.WritesThrough) : t'.Mirrored H := by
  have ha : t'.applied = t.applied := by simp only [Threads.applied, hl, hh]
  refine ⟨by rw [hm, ha]; exact h.1, fun what flags hw => ?_, hr⟩
  rw [ha, hl]
  exact h.2.1 what flags (hh ▸ hw)

theorem Threads.applied_of_none {t : Threads} (hn : Held.enableWrite? t.held = none) :
    t.applied = writesTo .enable t.hub.driver.sysfs := by
  simp [Threads.applied, hn]

/-- With no `setEnable` in its window, the mirror is the mask against every command on
`enable`. -/
theorem Threads.mirrored_of_free {t : Threads} (hn : Held.enableWrite? t.held = none)
    (hm : Mirrors H t.hub.driver.mEnabled (writesTo .enable t.hub.driver.sysfs))
    (hr : t.reading.WritesThrough) : t.Mirrored H :=
  ⟨Threads.applied_of_none hn ▸ hm, fun _ _ hw => by simp [hn] at hw, hr⟩

/-- The update of the mask sets the bit of the id when `enable` opened, and writes nothing to
`enable`. -/
theorem setEnableMask_enable (o : SetEnableOutcome) (what : ℤ) (flags : ℕ) (s : CwMcuSensor) :
    (setEnableMask H o what flags s).mEnabled =
        (if o.enable.opened then setBit s.mEnabled what.toNat flags else s.mEnabled) ∧
      writesTo .enable (setEnableMask H o what flags s).sysfs = writesTo .enable s.sysfs := by
  have h0 : (toString (0 : ℤ)).length < INT32_CHAR_LEN := by decide
  unfold setEnableMask; dsimp only
  split_ifs <;> simp [sysfsSetInputAttrByInt_snd _ h0, record, *]

/-- The write of `setEnable` for the kind `k` leaves the mask, and sends `enable` the kind's
command when its `open` goes through, which its `write` then does. -/
theorem setEnableWrite_enable (o : SetEnableOutcome) (k : SensorKind) {fl : ℕ} (hf : fl ≤ 1)
    (hw : o.enable.opened = true → o.enable.written = true) (s : CwMcuSensor) :
    (setEnableWrite o (H.tag k) fl s).mEnabled = s.mEnabled ∧
      writesTo .enable (setEnableWrite o (H.tag k) fl s).sysfs =
        writesTo .enable s.sysfs ++ if o.enable.opened then [enableText H k fl] else [] := by
  have htext := length_enableText_lt H k hf
  rw [enableText] at htext
  unfold setEnableWrite
  split_ifs with hop
  · simp [hop, hw hop, record, snprintfWrite_of_lt htext, enableText]
  · simp [hop]

/-- A control call that leaves the mask and the commands on `enable` as they are, and stops,
if at all, in no `setEnable`, keeps the mirror. -/
theorem Threads.Mirrored.control {t : Threads} (h : t.Mirrored H)
    {f : CwMcuSensor → (ℤ ⊕ Held) × CwMcuSensor}
    (hm : (f t.hub.driver).2.mEnabled = t.hub.driver.mEnabled)
    (hl : writesTo .enable (f t.hub.driver).2.sysfs = writesTo .enable t.hub.driver.sysfs)
    (hh : ∀ k, (f t.hub.driver).1 = .inr k → Held.enableWrite? (some k) = none) :
    (t.control f).Mirrored H := by
  unfold Threads.control
  split_ifs with hs
  · exact h
  have hn : t.held = none := by simpa using hs
  rcases hf : f t.hub.driver with ⟨ret | k, s⟩ <;> rw [hf] at hm hl hh <;> refine h.frame H hm hl ?_ h.2.2
  · rfl
  · rw [hh k rfl, hn]; rfl

theorem batchBegin_enable (o : BatchOutcome) (handle flags periodNs timeout : ℤ) (s : CwMcuSensor) :
    (batchBegin H o handle flags periodNs timeout s).2.mEnabled = s.mEnabled ∧
      writesTo .enable (batchBegin H o handle flags periodNs timeout s).2.sysfs =
        writesTo .enable s.sysfs := by
  unfold batchBegin batchWrite; dsimp only
  split_ifs <;> simp only [syncWrite_eq, batchBuffer_eq] <;> (try split_ifs) <;> simp

/-- **A call keeps the mirror.** Its first step, with its `enable` writes going through: a
`setEnable` of a valid handle writes its command and stops before the mask, which has not
taken the command in yet. -/
theorem Threads.Mirrored.call {t : Threads} (h : t.Mirrored H) (c : Call)
    (hc : c.EnableWritesThrough) : ((Step.call c).apply H t).Mirrored H := by
  cases c with
  | setEnable o handle en =>
    simp only [Step.apply, Threads.call]
    unfold Threads.control
    split_ifs with hs
    · exact h
    have hn : t.held = none := by simpa using hs
    unfold setEnableBegin; dsimp only
    generalize hfl : (if en = 0 then 0 else 1 : ℕ) = fl
    have hf : fl ≤ 1 := by rw [← hfl]; split <;> omega
    by_cases hv : H.numSensors ≤ uint32 (H.findSensor handle)
    · -- an invalid handle: the lock and the unlock
      rw [if_pos hv]
      exact h.frame H rfl rfl (by simp [Threads.setDriver, Threads.returned, hn]) h.2.2
    -- a valid handle names a kind, and its command is that kind's `enableText`
    rw [if_neg hv]; dsimp only
    obtain ⟨k, hk, -⟩ := (H.uint32_findSensor_lt_iff H.numSensors_lt handle).mp (Nat.lt_of_not_le hv)
    rw [findSensor_of_kindOfHandle H hk]
    obtain ⟨hm, hl⟩ := setEnableWrite_enable H o k hf hc
      { t.hub.driver.lock with fillBlockDebug := o.fillBlock }
    dsimp only at hm hl
    by_cases hop : o.enable.opened
    · -- the command is written, and the mask has not taken it in
      have hw : Held.enableWrite? (some (.enableMask o (H.tag k) fl)) = some ((H.tag k : ℤ), fl) := by
        simp [Held.enableWrite?, hop]
      have happ := Threads.applied_of_none (t := t) (by simp [Held.enableWrite?, hn])
      unfold Threads.Mirrored Threads.applied
      simp only [Threads.setDriver, hw, Option.isSome_some, if_true, hm, hl, hop]
      simp only [lock_mEnabled, lock_sysfs, List.dropLast_concat]
      refine ⟨happ ▸ h.1, fun what flags hwf => ?_, h.2.2⟩
      obtain ⟨rfl, rfl⟩ := Prod.mk.inj (Option.some.inj hwf)
      exact ⟨k, rfl, hf, rfl⟩
    · -- `enable` did not open: no command, and nothing for the mask to take in
      exact h.frame H hm (by simpa [hop] using hl)
        (by simp [Threads.setDriver, Held.enableWrite?, hop, hn]) h.2.2
  | setDelay o handle delayNs =>
    refine h.control H ?_ ?_ (by simp)
    · simp [setDelay_eq]
    · rw [setDelay_eq]; dsimp only; split_ifs <;> simp
  | batch o handle flags periodNs timeout =>
    refine h.control H (batchBegin_enable H ..).1 (batchBegin_enable H ..).2 fun k hk => ?_
    unfold batchBegin at hk; dsimp only at hk
    split_ifs at hk <;> cases hk <;> rfl
  | flush o handle =>
    refine h.control H ?_ ?_ (by simp)
    · rw [flush_eq]; dsimp only; split_ifs <;> rfl
    · rw [flush_eq]; dsimp only; split_ifs <;> simp
  | syncTimestamp o =>
    exact h.control H (by simp [syncWrite_eq]) (by simp [syncWrite_eq])
      (fun k hk => by cases hk; rfl)
  | readEvents o count =>
    simp only [Step.apply, Threads.call, Threads.read]
    split
    · rename_i hi
      have hr : Reading.WritesThrough .idle := trivial
      split_ifs
      · exact h.frame H rfl rfl rfl (hi ▸ hr)
      · exact h.frame H rfl rfl rfl (hi ▸ hr)
      · exact h.frame H rfl rfl rfl hc
    · exact h

/-- The end of the held call keeps the mirror: a `setEnable` updates the mask as its last
command says. -/
theorem Threads.Mirrored.finish {t : Threads} (h : t.Mirrored H) :
    (Step.finish.apply H t).Mirrored H := by
  rcases hk : t.held with _ | k
  · simpa [Step.apply, Threads.finish, hk] using h
  simp only [Step.apply, Threads.finish_of_held H hk]
  refine Threads.mirrored_of_free H rfl ?_ h.2.2
  simp only [Threads.returned, Threads.setDriver]
  cases k with
  | enableMask o what flags =>
    obtain ⟨hm, hl⟩ := setEnableMask_enable H o what flags t.hub.driver
    simp only [Held.finish, hm, hl]
    by_cases hop : o.enable.opened
    · -- the update takes the last command in
      obtain ⟨k, rfl, hf, hlog⟩ := h.2.1 what flags (by simp [Held.enableWrite?, hk, hop])
      rw [if_pos hop, Int.toNat_natCast, hlog]
      exact h.1.append_enableText H k hf
    · -- `enable` did not open: the mask stays
      rw [if_neg hop, ← Threads.applied_of_none (by simp [Held.enableWrite?, hk, hop])]
      exact h.1
  | syncStore o =>
    simpa [Held.finish, syncStore_eq, Threads.applied_of_none (t := t) (by simp [Held.enableWrite?, hk])]
      using h.1
  | batchCommand o text err =>
    simpa [Held.finish, batchCommand, syncStore_eq, record,
      Threads.applied_of_none (t := t) (by simp [Held.enableWrite?, hk])] using h.1

theorem dispatchEnabled_mirrors (o : IterOutcome) (id : ℕ)
    (ho : o.disable.enable.opened = true → o.disable.enable.written = true) {s : CwMcuSensor}
    (hs : Mirrors H s.mEnabled (writesTo .enable s.sysfs)) :
    Mirrors H (dispatchEnabled H o id s).2.mEnabled
      (writesTo .enable (dispatchEnabled H o id s).2.sysfs) := by
  unfold dispatchEnabled; dsimp only
  split
  · simpa [readSlot] using setEnable_mirrors H _ _ _ ho hs
  · simpa [readSlot] using hs

/-- The end of a pass over a record of a sensor other than the significant-motion sensor
leaves the mask and `enable` alone. -/
theorem dispatchEnabled_enable_of_ne (o : IterOutcome) {id : ℕ}
    (hid : id ≠ H.tag .significantMotion) (s : CwMcuSensor) :
    (dispatchEnabled H o id s).2.mEnabled = s.mEnabled ∧
      (dispatchEnabled H o id s).2.sysfs = s.sysfs := by
  simp [dispatchEnabled, hid, readSlot]

/-- A pass that does not stop before its `processEvent`, with the mutex held, leaves the mask
and the commands on `enable` alone: it stops at the lock of the disable. -/
theorem passStep_false_enable (o : IterOutcome) {r : Record} (hr : r.requestsSync H = false)
    (s : CwMcuSensor) :
    (passStep H false o r s).2.mEnabled = s.mEnabled ∧
      writesTo .enable (passStep H false o r s).2.sysfs = writesTo .enable s.sysfs := by
  have hp := processEvent_writesTo_enable H o.process r s
  simp only [passStep, hr, Bool.not_false, Bool.true_and, Bool.false_eq_true, if_false]
  rw [processEvent_eq_pair]; dsimp only
  split_ifs with h1 h2 h3
  · simp [hp]
  · simp [hp, enabledBit]
  · obtain ⟨hm, hl⟩ := dispatchEnabled_enable_of_ne H o (by simpa using h3)
      (enabledBit r.sensorsid (stampSlot H r.sensorsid o.stamp (processEvent H o.process r s).2)).2
    rw [hm, hl]
    simp [hp, enabledBit]
  · simp [hp, enabledBit]

/-- A pass keeps the mirror: with the mutex free it is the whole body of the loop, and with a
control call inside it, it touches neither the mask nor `enable`. -/
theorem Threads.Mirrored.pass {t : Threads} (h : t.Mirrored H) :
    (Step.pass.apply H t).Mirrored H := by
  rcases t with ⟨⟨s, reader⟩, held, reading, rets⟩
  rcases reading with _ | ⟨io, _ | count, evs⟩ | ⟨io, count, evs, n⟩ <;>
    rcases reader with _ | ⟨r, q⟩
  all_goals try first
    | exact h
    | exact h.frame H rfl rfl rfl trivial
  have hio : ∀ i, (io i).disable.enable.opened = true → (io i).disable.enable.written = true := h.2.2
  simp only [Step.apply, Threads.pass]
  rcases held with _ | k
  · -- the mutex is free: the pass is `dispatchEvent`
    have happ : Threads.applied ⟨⟨s, r :: q⟩, none, .loop io (count + 1) evs, rets⟩ =
        writesTo .enable s.sysfs := rfl
    simp only [Option.isNone_none, Option.any_none, logRace_false, passStep_true,
      Threads.endPass]
    refine ⟨?_, fun _ _ hw => by simp [Held.enableWrite?] at hw, fun i => hio (i + 1)⟩
    exact dispatchEvent_mirrors H (io 0) r (hio 0) (happ ▸ h.1)
  · -- a control call holds the mutex: the pass stops or touches neither
    simp only [Option.isNone_some]
    by_cases hrs : r.requestsSync H
    · simp only [passStep, Bool.not_false, hrs, Bool.and_self, if_true]
      exact h.frame H rfl rfl rfl hio
    · have he := passStep_false_enable H (io 0) (Bool.eq_false_iff.mpr hrs)
        (s.logRace (Option.any (Held.racesWith H r) (some k)))
      rcases hp : passStep H false (io 0) r (s.logRace (Option.any (Held.racesWith H r) (some k)))
        with ⟨ev | n', s'⟩ <;> rw [hp] at he
      · exact h.frame H he.1 he.2 rfl fun i => hio (i + 1)
      · exact h.frame H he.1 he.2 rfl hio

/-- A waiting pass, once the mutex is free, ends as the whole pass or as the disable. -/
theorem Threads.Mirrored.resume {t : Threads} (h : t.Mirrored H) :
    (Step.resume.apply H t).Mirrored H := by
  rcases t with ⟨⟨s, reader⟩, held, reading, rets⟩
  rcases held with _ | k
  · rcases reading with _ | _ | ⟨io, count, evs, _ | _⟩ <;> rcases reader with _ | ⟨r, q⟩ <;>
      try exact h
    all_goals
      have hio : ∀ i, (io i).disable.enable.opened = true → (io i).disable.enable.written = true :=
        h.2.2
      refine ⟨?_, fun _ _ hw => by simp [Step.apply, Threads.resume, Threads.endPass,
        Held.enableWrite?] at hw, fun i => hio (i + 1)⟩
      simp only [Step.apply, Threads.resume, Nested.finish, Threads.endPass]
    · exact dispatchEvent_mirrors H (io 0) r (hio 0) h.1
    · exact dispatchEnabled_mirrors H (io 0) r.sensorsid (hio 0) h.1
  · exact h

end Interleaved

end SensorHub
