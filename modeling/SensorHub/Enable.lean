import SensorHub.System
import Mathlib.Data.List.Chain

/-!
# The enable mask

`mEnabled` records which sensor kinds the framework has switched on. Three operations
write it: `setEnable`, which sets or clears the kind's bit when the `open` of `enable`
succeeds, the significant-motion auto-disable of `readEvents`, which is a nested
`setEnable(ID_CW_SIGNIFICANT_MOTION, 0)`, and the constructor, which starts from `0`.

* Every reachable mask has bits only at the tags of sensor kinds
  (`Reachable.enabledAtKinds`).
* `setEnable` returns `0` for every handle of a kind, whether or not the `open` of
  `enable` succeeded and the mask changed (`setEnable_fst`, `setEnable_mEnabled`).
-/

namespace SensorHub

open CwMcuSensor

variable (H : Header)

/-- `m` has bits only at the tags of sensor kinds, the values `find_sensor` returns for
the handles of the kinds. -/
def EnabledAtKinds (m : BitVec 32) : Prop :=
  ∀ i, m.getLsbD i = true → ∃ k, H.tag k = i

theorem enabledAtKinds_setBit {m : BitVec 32} (hm : EnabledAtKinds H m) (k : SensorKind)
    {f : ℕ} (hf : f ≤ 1) : EnabledAtKinds H (setBit m (H.tag k) f) := by
  intro i hi
  rw [getLsbD_setBit (H.tag_lt_32 k) hf] at hi
  split_ifs at hi with h
  · exact ⟨k, h.symm⟩
  · exact hm i hi

theorem setEnable_enabledAtKinds (o : SetEnableOutcome) (handle en : ℤ) {s : CwMcuSensor}
    (hs : EnabledAtKinds H s.mEnabled) :
    EnabledAtKinds H (setEnable H o handle en s).2.mEnabled := by
  rw [setEnable_mEnabled]
  split
  · split
    · exact enabledAtKinds_setBit H hs _ (by split <;> omega)
    · exact hs
  · exact hs

theorem Call.step_enabledAtKinds (c : Call) {h : Hub} (hs : EnabledAtKinds H h.driver.mEnabled) :
    EnabledAtKinds H (c.step H h).2.driver.mEnabled := by
  cases c with
  | setEnable o handle en => exact setEnable_enabledAtKinds H o handle en hs
  | setDelay o handle delayNs => simpa [Call.step] using hs
  | batch o handle flags periodNs timeout => simpa [Call.step] using hs
  | flush o handle => simpa [Call.step] using hs
  | syncTimestamp o => simpa [Call.step] using hs
  | readEvents o count =>
    obtain ⟨pre, hst⟩ := readEvents_state_eq H o count h.reader h.driver
    intro i hi
    simp only [Call.step, hst] at hi
    exact hs i (dispatchAll_getLsbD_mEnabled H o.iter pre hi)

theorem init_enabledAtKinds (m : Memory) (o : InitOutcome) :
    EnabledAtKinds H (CwMcuSensor.init H m o).mEnabled := by
  have h0 : EnabledAtKinds H (0 : BitVec 32) := fun i hi => by simp at hi
  rw [init_eq]; split
  · obtain ⟨name, ws, t, hb⟩ := initBuffer_frame o (s := { fresh H m with dataFd := true }.lock) rfl
    refine setEnable_enabledAtKinds H _ _ _ ?_
    rw [unlock_mEnabled, hb]; exact h0
  · exact h0

/-- **The mask has bits only at sensor kinds.** -/
theorem Reachable.enabledAtKinds {h : Hub} (hr : Reachable H h) :
    EnabledAtKinds H h.driver.mEnabled := by
  induction hr with
  | init m o => exact init_enabledAtKinds H m o
  | step c _ ih => exact c.step_enabledAtKinds H ih

/-! ### What `setEnable` reports -/

/-- A `setEnable` on the handle of a kind whose `open` of `enable` fails returns `0` and
leaves the mask as it was. -/
theorem setEnable_failed_open {o : SetEnableOutcome} (ho : o.enable.opened = false)
    {handle : ℤ} {k : SensorKind} (hk : H.kindOfHandle handle = some k) (en : ℤ)
    (s : CwMcuSensor) :
    (setEnable H o handle en s).1 = 0 ∧ (setEnable H o handle en s).2.mEnabled = s.mEnabled := by
  simp [setEnable_fst, setEnable_mEnabled, hk, ho]

/-- From the constructor's state, `setEnable` of the gyroscope's handle with `en = 1`
whose `open` of `enable` fails returns `0` and leaves the gyroscope's bit clear. -/
theorem setEnable_reports_success_with_bit_clear :
    let h : Hub := ⟨CwMcuSensor.init Header.sample default .ok, []⟩
    let r := (Call.setEnable ⟨false, ⟨false, false, 2⟩, default⟩ 2 1).step Header.sample h
    r.1.1 = 0 ∧ r.2.driver.mEnabled.getLsbD (Header.sample.tag .gyro) = false := by
  have hoff : (CwMcuSensor.init Header.sample default .ok).mEnabled.getLsbD
      (Header.sample.tag .gyro) = false := by decide
  obtain ⟨h1, h2⟩ := setEnable_failed_open Header.sample (o := ⟨false, ⟨false, false, 2⟩, default⟩)
    rfl (show Header.sample.kindOfHandle 2 = some .gyro from rfl) 1
    (CwMcuSensor.init Header.sample default .ok)
  exact ⟨h1, by simp only [Call.step, h2, hoff]⟩

/-! ### The one-shot significant-motion sensor -/

/-- The passes that emitted an event for a `CW_SIGNIFICANT_MOTION` record. -/
def significantMotionEvents (ps : List (Record × Option SensorsEvent × CwMcuSensor)) : ℕ :=
  ps.countP fun p => p.1.sensorsid == H.tag .significantMotion && p.2.1.isSome

/-- The significant-motion bit of a mask, as a number. -/
def smBit (m : BitVec 32) : ℕ := (m.getLsbD (H.tag .significantMotion)).toNat

/-- A call that switches the significant-motion sensor on. -/
def Call.EnablesSignificantMotion : Call → Prop
  | .setEnable _ handle en => H.findSensor handle = H.tag .significantMotion ∧ en ≠ 0
  | _ => False

/-- Every auto-disable a call may run finds `enable` open. -/
def Call.DisablesOpen : Call → Prop
  | .readEvents o _ => ∀ i, (o.iter i).disable.enable.opened = true
  | _ => True

/-- A pass emits an event for a significant-motion record only while its bit is set, and
clears the bit when it does, if the `open` of the auto-disable succeeds. -/
theorem dispatchEvent_smBit (o : IterOutcome) (r : Record) (s : CwMcuSensor)
    (hopen : o.disable.enable.opened = true) :
    (if (r.sensorsid == H.tag .significantMotion && (dispatchEvent H o r s).1.isSome) = true
      then 1 else 0) + smBit H (dispatchEvent H o r s).2.mEnabled ≤ smBit H s.mEnabled := by
  by_cases hsm : r.sensorsid = H.tag .significantMotion
  · have hlt := H.tag_lt_32 .significantMotion
    have hne : r.sensorsid ≠ H.metaData := hsm ▸ H.tag_ne_metaData _
    rw [dispatchEvent_fst, dispatchEvent_mEnabled, if_neg hne, hsm, Nat.mod_eq_of_lt hlt,
      and_shiftLeft_ne_zero hlt]
    cases hb : s.mEnabled.getLsbD (H.tag .significantMotion) <;>
      simp [smBit, hb, hopen, getLsbD_setBit hlt]
  · cases hb : (dispatchEvent H o r s).2.mEnabled.getLsbD (H.tag .significantMotion)
    · simp [smBit, hsm, hb]
    · simp [smBit, hsm, hb, dispatchEvent_getLsbD_mEnabled H o r s hb]

theorem passes_smBit {io : ℕ → IterOutcome} (hopen : ∀ i, (io i).disable.enable.opened = true)
    (q : List Record) (s : CwMcuSensor) :
    significantMotionEvents H (passes H io q s) + smBit H (dispatchAll H io q s).2.mEnabled ≤
      smBit H s.mEnabled := by
  induction q generalizing io s with
  | nil => simp [passes, significantMotionEvents]
  | cons r q ih =>
    have h1 := dispatchEvent_smBit H (io 0) r s (hopen 0)
    have h2 := ih (fun i => hopen (i + 1)) (dispatchEvent H (io 0) r s).2
    simp only [significantMotionEvents, passes, List.countP_cons] at h2 ⊢
    rw [dispatchAll_cons]
    dsimp only
    omega

/-- A call that does not switch the sensor on emits a significant-motion event only while
the bit is set, and leaves it clear when it does. -/
theorem Call.smBit_step {c : Call} (hc : ¬ c.EnablesSignificantMotion H) (ho : c.DisablesOpen)
    (h : Hub) :
    significantMotionEvents H (c.passes H h) + smBit H (c.step H h).2.driver.mEnabled ≤
      smBit H h.driver.mEnabled := by
  cases c with
  | setEnable o handle en =>
    simp only [Call.passes, significantMotionEvents, List.countP_nil, zero_add, Call.step,
      setEnable_mEnabled]
    split
    · rename_i k hk
      split
      · rw [smBit, smBit, getLsbD_setBit (H.tag_lt_32 k) (by split <;> omega)]
        by_cases hsk : H.tag .significantMotion = H.tag k
        · have hen : en = 0 := by
            by_contra hen
            exact hc ⟨by rw [findSensor_of_kindOfHandle H hk, hsk], hen⟩
          simp [hsk, hen]
        · simp [hsk]
      · exact le_rfl
    · exact le_rfl
  | readEvents o count =>
    by_cases hcount : count < 1
    · simp [Call.passes, readEventsPasses, hcount, significantMotionEvents, Call.step,
        CwMcuSensor.readEvents]
    · obtain ⟨pre, hp, hd⟩ := readEvents_passes H o (show 1 ≤ count by omega) h.reader h.driver
      have hst : (CwMcuSensor.readEvents H o count h.reader h.driver).state =
          (dispatchAll H o.iter pre h.driver).2 := by rw [← hd]
      simp only [Call.passes, Call.step, hp, hst]
      exact passes_smBit H ho pre h.driver
  | setDelay o handle delayNs => simp [Call.passes, significantMotionEvents, Call.step]
  | batch o handle flags periodNs timeout => simp [Call.passes, significantMotionEvents, Call.step]
  | flush o handle => simp [Call.passes, significantMotionEvents, Call.step]
  | syncTimestamp o => simp [Call.passes, significantMotionEvents, Call.step]

theorem runPasses_smBit {cs : List Call}
    (hcs : ∀ c ∈ cs, ¬ c.EnablesSignificantMotion H ∧ c.DisablesOpen) (h : Hub) :
    significantMotionEvents H (runPasses H cs h) + smBit H (run H cs h).2.driver.mEnabled ≤
      smBit H h.driver.mEnabled := by
  induction cs generalizing h with
  | nil => simp [runPasses, significantMotionEvents, run]
  | cons c cs ih =>
    have h1 := Call.smBit_step H (hcs c (.head _)).1 (hcs c (.head _)).2 h
    have h2 := ih (fun c' hc' => hcs c' (.tail _ hc')) (c.step H h).2
    simp only [significantMotionEvents, runPasses, List.countP_append] at h1 h2 ⊢
    simp only [run]
    omega

/-- **The one-shot, when the auto-disable reaches the hub.** If the `open` of `enable` in
every significant-motion auto-disable succeeds, a `readEvents` call that emits an event for
a significant-motion record leaves the bit clear, and a run with no call switching the
sensor on emits at most one such event. -/
theorem significantMotion_one_shot_when_disable_opens :
    (∀ (o : ReadOutcome) (count : ℤ) (h : Hub), (Call.readEvents o count).DisablesOpen →
      0 < significantMotionEvents H ((Call.readEvents o count).passes H h) →
      ((Call.readEvents o count).step H h).2.driver.mEnabled.getLsbD
        (H.tag .significantMotion) = false) ∧
    ∀ (cs : List Call) (h : Hub),
      (∀ c ∈ cs, ¬ c.EnablesSignificantMotion H ∧ c.DisablesOpen) →
        significantMotionEvents H (runPasses H cs h) ≤ 1 := by
  refine ⟨fun o count h ho hpos => ?_, fun cs h hcs => ?_⟩
  · have := Call.smBit_step H (c := .readEvents o count) (fun h => h) ho h
    have hb : smBit H h.driver.mEnabled ≤ 1 := Bool.toNat_le _
    simp only [smBit] at this hb
    cases hx : ((Call.readEvents o count).step H h).2.driver.mEnabled.getLsbD
      (H.tag .significantMotion)
    · rfl
    · simp [hx] at this; omega
  · have := runPasses_smBit H hcs h
    have hb : smBit H h.driver.mEnabled ≤ 1 := Bool.toNat_le _
    omega

/-- From the constructor's state with the significant-motion sensor switched on, a
`readEvents` of two significant-motion records whose auto-disable opens `enable` emits an
event and clears the bit, and a run of two such calls emits one significant-motion event in
all. -/
theorem significantMotion_one_shot_on_two_records :
    let okE : SetEnableOutcome := ⟨false, ⟨true, true, 0⟩, ⟨true, true, 0⟩⟩
    let h : Hub := ((Call.setEnable okE 13 1).step Header.sample
      ⟨CwMcuSensor.init Header.sample default .ok, []⟩).2
    let sm : Record := ⟨20, fun _ => 0, fun _ => 0, 0⟩
    let c := Call.readEvents ⟨.read [sm, sm],
      fun _ => { (default : IterOutcome) with disable := okE }⟩ 2
    0 < significantMotionEvents Header.sample (c.passes Header.sample h) ∧
      (c.step Header.sample h).2.driver.mEnabled.getLsbD (Header.sample.tag .significantMotion) =
        false ∧
      significantMotionEvents Header.sample (runPasses Header.sample [c, c] h) ≤ 1 := by
  intro okE h sm c
  have hc : ∀ c' ∈ [c, c], ¬ c'.EnablesSignificantMotion Header.sample ∧ c'.DisablesOpen := by
    simp only [List.mem_cons, List.mem_singleton, List.not_mem_nil, or_false, or_self, forall_eq]
    exact ⟨id, fun _ => rfl⟩
  have hpos : 0 < significantMotionEvents Header.sample (c.passes Header.sample h) := by decide
  exact ⟨hpos, (significantMotion_one_shot_when_disable_opens Header.sample).1 _ _ _
    (fun _ => rfl) hpos, (significantMotion_one_shot_when_disable_opens Header.sample).2 _ _ hc⟩

/-- With the sensor switched on and the `open` of the auto-disable failing, one
`readEvents` call emits two significant-motion events and leaves the bit set. -/
theorem significantMotion_emitted_twice_when_disable_fails :
    let okE : SetEnableOutcome := ⟨false, ⟨true, true, 0⟩, ⟨true, true, 0⟩⟩
    let h : Hub := ((Call.setEnable okE 13 1).step Header.sample
      ⟨CwMcuSensor.init Header.sample default .ok, []⟩).2
    let sm : Record := ⟨20, fun _ => 0, fun _ => 0, 0⟩
    let c := Call.readEvents ⟨.read [sm, sm], fun _ => default⟩ 2
    significantMotionEvents Header.sample (c.passes Header.sample h) = 2 ∧
      (c.step Header.sample h).2.driver.mEnabled.getLsbD (Header.sample.tag .significantMotion) =
        true := by
  decide

/-! ### The IIO buffer -/

/-- A nonempty mask sits behind an enabled buffer: the last value written to
`buffer/enable` is `1`. -/
def BufferOn (s : CwMcuSensor) : Prop :=
  s.mEnabled ≠ 0#32 → lastWrite .bufferEnable s.sysfs = some "1"

/-- A call that switches a sensor on. -/
def Call.EnablesSensor : Call → Prop
  | .setEnable _ _ en => en ≠ 0
  | _ => False

/-- A `batch` call that passes the checks of `batch` and is not a dry run, so that it takes
the lock and reaches the writes to the buffer. -/
def Call.BatchTakesLock : Call → Prop
  | .batch _ handle flags _ timeout =>
    ¬ H.sensorsIdEnd ≤ uint32 (H.findSensor handle) ∧
      ¬ ((H.findSensor handle = H.tag .light ∨ H.findSensor handle = H.tag .significantMotion) ∧
        0 < timeout) ∧
      Int.land flags H.batchDryRun = 0
  | _ => False

/-- The write of `1` to `buffer/enable` that a `batch` call may make goes through. -/
def Call.BufferWriteOk : Call → Prop
  | .batch o _ _ _ _ => o.bufferEnable.opened = true ∧ o.bufferEnable.written = true
  | _ => True

theorem bufferOn_of_eq {s t : CwMcuSensor} (hs : BufferOn s) (hm : t.mEnabled = s.mEnabled)
    (hw : lastWrite .bufferEnable t.sysfs = lastWrite .bufferEnable s.sysfs) : BufferOn t :=
  fun h => hw ▸ hs (hm ▸ h)

/-- The stamp of a slot, the fourth element of a rotation vector and the fault log leave
the mask and the writes alone. -/
theorem bufferOn_with_faults (s : CwMcuSensor) (fs : List Fault) :
    BufferOn { s with faults := fs } ↔ BufferOn s := Iff.rfl

theorem bufferOn_stampSlot (id : ℕ) (t : ℤ) (s : CwMcuSensor) :
    BufferOn (s.stampSlot H id t) ↔ BufferOn s := Iff.rfl

theorem bufferOn_calculateRv4thElement (id : ℕ) (s : CwMcuSensor) :
    BufferOn (calculateRv4thElement H id s) ↔ BufferOn s := Iff.rfl

/-- `setEnable` writes to `buffer/enable` only when it leaves the mask empty. -/
theorem setEnable_lastWrite (o : SetEnableOutcome) (handle en : ℤ) (s : CwMcuSensor)
    (h : (setEnable H o handle en s).2.mEnabled ≠ 0#32) :
    lastWrite .bufferEnable (setEnable H o handle en s).2.sysfs =
      lastWrite .bufferEnable s.sysfs := by
  rw [setEnable_eq] at h ⊢
  dsimp only at h ⊢
  by_cases hv : H.numSensors ≤ uint32 (H.findSensor handle)
  · simp only [hv, if_true]
  · by_cases ho : o.enable.opened = true
    · simp only [hv, ho, if_true, if_false] at h ⊢
      simp [h, lastWrite_append]
    · simp [hv, ho]

/-- Clearing a bit leaves an empty mask empty. -/
theorem setEnable_zero_mEnabled (o : SetEnableOutcome) (handle : ℤ) (s : CwMcuSensor)
    (h : (setEnable H o handle 0 s).2.mEnabled ≠ 0#32) : s.mEnabled ≠ 0#32 := by
  rw [setEnable_mEnabled] at h
  intro hs
  apply h
  split
  · split
    · rw [hs]; simp [setBit]
    · exact hs
  · exact hs

theorem setEnable_bufferOn_of_zero (o : SetEnableOutcome) (handle : ℤ) {s : CwMcuSensor}
    (hs : BufferOn s) : BufferOn (setEnable H o handle 0 s).2 :=
  fun h => (setEnable_lastWrite H o handle 0 s h).trans (hs (setEnable_zero_mEnabled H o handle s h))

theorem setEnable_bufferOn_of_lastWrite (o : SetEnableOutcome) (handle en : ℤ) {s : CwMcuSensor}
    (hw : lastWrite .bufferEnable s.sysfs = some "1") : BufferOn (setEnable H o handle en s).2 :=
  fun h => (setEnable_lastWrite H o handle en s h).trans hw

theorem processEvent_bufferOn (o : ProcessOutcome) (r : Record) {s : CwMcuSensor}
    (hs : BufferOn s) : BufferOn (processEvent H o r s).2 := by
  refine bufferOn_of_eq hs (processEvent_mEnabled H o r s) ?_
  rw [(processEvent_spec H o r s).2.2.2.2, lastWrite_append]
  split_ifs <;> simp

theorem dispatchEvent_bufferOn (o : IterOutcome) (r : Record) {s : CwMcuSensor}
    (hs : BufferOn s) : BufferOn (dispatchEvent H o r s).2 := by
  have h1 := processEvent_bufferOn H o.process r hs
  rw [dispatchEvent_eq]; dsimp only
  split_ifs
  · exact h1
  · rw [bufferOn_with_faults, bufferOn_calculateRv4thElement]
    refine setEnable_bufferOn_of_zero H o.disable _ ?_
    rw [bufferOn_with_faults, bufferOn_stampSlot]; exact h1
  · rw [bufferOn_with_faults, bufferOn_calculateRv4thElement, bufferOn_with_faults,
      bufferOn_stampSlot]
    exact h1
  · rw [bufferOn_with_faults, bufferOn_stampSlot]; exact h1

theorem dispatchAll_bufferOn (io : ℕ → IterOutcome) (q : List Record) {s : CwMcuSensor}
    (hs : BufferOn s) : BufferOn (dispatchAll H io q s).2 := by
  induction q generalizing io s with
  | nil => exact hs
  | cons r q ih => exact ih (fun i => io (i + 1)) (dispatchEvent_bufferOn H (io 0) r hs)

theorem batch_bufferOn (o : BatchOutcome) (handle flags periodNs timeout : ℤ) {s : CwMcuSensor}
    (hs : BufferOn s) : BufferOn (batch H o handle flags periodNs timeout s).2 := by
  rcases batch_snd_of_checks H o handle flags periodNs timeout s with h | ⟨h1, h2, h3⟩
  · rw [h]; exact hs
  rw [batch_of_checks H o handle flags periodNs timeout s h1 h2 h3]; dsimp only
  by_cases hm : s.mEnabled = 0#32
  · intro hne; exact absurd hm hne
  · exact bufferOn_of_eq hs rfl (by simp [hm, lastWrite_append])

/-- After a `batch` call that takes the lock, with its write to the buffer going through,
the last value written to `buffer/enable` is `1`. -/
theorem batch_lastWrite (o : BatchOutcome) {handle flags : ℤ} (periodNs : ℤ) {timeout : ℤ}
    (hc : (Call.batch o handle flags periodNs timeout).BatchTakesLock H)
    (hok : o.bufferEnable.opened = true ∧ o.bufferEnable.written = true) {s : CwMcuSensor}
    (hs : BufferOn s) :
    lastWrite .bufferEnable (batch H o handle flags periodNs timeout s).2.sysfs = some "1" := by
  obtain ⟨h1, h2, h3⟩ := hc
  rw [batch_of_checks H o handle flags periodNs timeout s h1 h2 h3]; dsimp only
  by_cases hm : s.mEnabled = 0#32
  · simp [hm, lastWrite_append, hok.1, hok.2]; rfl
  · simp [hm, lastWrite_append, hs hm]

/-- A call that switches no sensor on keeps a nonempty mask behind an enabled buffer, with
every outcome of its I/O. -/
theorem Call.step_bufferOn {c : Call} (hc : ¬ c.EnablesSensor) {h : Hub}
    (hs : BufferOn h.driver) : BufferOn (c.step H h).2.driver := by
  cases c with
  | setEnable o handle en =>
    have : en = 0 := by by_contra hen; exact hc hen
    subst this
    exact setEnable_bufferOn_of_zero H o handle hs
  | setDelay o handle delayNs =>
    refine bufferOn_of_eq hs (by simp [Call.step]) ?_
    simp only [Call.step, setDelay_eq]; split_ifs <;> simp [lastWrite_append]
  | batch o handle flags periodNs timeout => exact batch_bufferOn H o handle flags periodNs timeout hs
  | flush o handle =>
    simp only [Call.step, flush_eq]
    split
    · exact hs
    · exact bufferOn_of_eq hs rfl (by simp [lastWrite_append])
  | syncTimestamp o =>
    exact bufferOn_of_eq hs (by simp [Call.step])
      (by simp [Call.step, syncTimestamp_eq, lastWrite_append])
  | readEvents o count =>
    obtain ⟨pre, hst⟩ := readEvents_state_eq H o count h.reader h.driver
    simp only [Call.step, hst]
    exact dispatchAll_bufferOn H o.iter pre hs

/-- The constructor's block writes `1` to `buffer/enable` last, when that write goes
through. -/
theorem initBuffer_lastWrite {o : InitOutcome}
    (hok : o.bufferEnable.opened = true ∧ o.bufferEnable.written = true) (s : CwMcuSensor) :
    lastWrite .bufferEnable (initBuffer o s).sysfs = some "1" := by
  have hl : (toString IIO_MAX_BUFF_SIZE).length < INT32_CHAR_LEN := by decide
  have h1 : (toString (1 : ℤ)).length < INT32_CHAR_LEN := by decide
  simp only [initBuffer, sysfsSetInputAttrByInt_snd _ hl, sysfsSetInputAttrByInt_snd _ h1,
    sysfsSetInputAttr_snd, record]
  split_ifs <;> simp [lastWrite_append, hok.1, hok.2] <;> rfl

theorem init_bufferOn (m : Memory) {o : InitOutcome}
    (ho : o.dataFd = true → o.bufferEnable.opened = true ∧ o.bufferEnable.written = true) :
    BufferOn (CwMcuSensor.init H m o) := by
  rw [init_eq]; split
  · exact setEnable_bufferOn_of_lastWrite H o.enable 0 1 (initBuffer_lastWrite (ho ‹_›) _)
  · intro hne; exact absurd rfl hne

/-- The invariant along a run in which every call switching a sensor on comes directly after
a `batch` that takes the lock. -/
theorem run_bufferOn {cs : List Call} (hok : ∀ c ∈ cs, c.BufferWriteOk)
    (hchain : cs.Chain' fun a b => b.EnablesSensor → a.BatchTakesLock H) {h : Hub}
    (hs : BufferOn h.driver)
    (hfirst : ∀ c ∈ cs.head?, c.EnablesSensor → lastWrite .bufferEnable h.driver.sysfs = some "1") :
    BufferOn (run H cs h).2.driver := by
  induction cs generalizing h with
  | nil => exact hs
  | cons c cs ih =>
    have hs' : BufferOn (c.step H h).2.driver := by
      by_cases he : c.EnablesSensor
      · cases c with
        | setEnable o handle en =>
          exact setEnable_bufferOn_of_lastWrite H o handle en (hfirst _ rfl he)
        | _ => exact he.elim
      · exact c.step_bufferOn H he hs
    refine ih (fun c' hc' => hok c' (.tail _ hc')) hchain.tail hs' fun c' hc' he' => ?_
    have hb : c.BatchTakesLock H := hchain.rel_head? hc' he'
    cases c with
    | batch o handle flags periodNs timeout =>
      exact batch_lastWrite H o periodNs hb (hok _ (.head _)) hs
    | _ => exact hb.elim

/-- **An enabled sensor never sits behind a disabled buffer, when enabling follows
batching.** From the constructor's state, with the writes of `1` to `buffer/enable` going
through, along a run in which every call switching a sensor on comes directly after a
`batch` call that takes the lock, a nonempty mask always has `1` as the last value written to
`buffer/enable`. -/
theorem buffer_enabled_when_enable_follows_batch (m : Memory) (o : InitOutcome)
    (ho : o.dataFd = true → o.bufferEnable.opened = true ∧ o.bufferEnable.written = true)
    (cs : List Call) (hok : ∀ c ∈ cs, c.BufferWriteOk)
    (hfirst : ∀ c ∈ cs.head?, ¬ c.EnablesSensor)
    (hchain : cs.Chain' fun a b => b.EnablesSensor → a.BatchTakesLock H) :
    BufferOn (run H cs ⟨CwMcuSensor.init H m o, []⟩).2.driver :=
  run_bufferOn H hok hchain (init_bufferOn H m ho) fun c hc he => absurd he (hfirst c hc)

theorem buffer_enabled_after_batch_then_enable :
    let ok : SysfsOutcome := ⟨true, true, 0⟩
    let okE : SetEnableOutcome := ⟨false, ok, ok⟩
    let okB : BatchOutcome := ⟨ok, ok, ok, ⟨ok, 0⟩, ok⟩
    BufferOn (run Header.sample [.batch okB 2 0 0 0, .setEnable okE 2 1]
      ⟨CwMcuSensor.init Header.sample default ⟨0, true, ok, ok, ok, okE⟩, []⟩).2.driver :=
  buffer_enabled_when_enable_follows_batch Header.sample default _ (fun _ => ⟨rfl, rfl⟩) _
    (by simp [Call.BufferWriteOk]) (by simp [Call.EnablesSensor])
    (.cons (fun _ => ⟨by decide, by decide, by decide⟩) .nil)

/-- With every sysfs write going through, a `batch` of the gyroscope while the accelerometer
the constructor enabled is on, then the accelerometer switched off (which empties the mask
and writes `0` to `buffer/enable`), then the gyroscope switched on, leaves a nonempty mask
with `0` the last value written to `buffer/enable`. -/
theorem enabled_sensor_behind_disabled_buffer :
    let ok : SysfsOutcome := ⟨true, true, 0⟩
    let okE : SetEnableOutcome := ⟨false, ok, ok⟩
    let okB : BatchOutcome := ⟨ok, ok, ok, ⟨ok, 0⟩, ok⟩
    let h := (run Header.sample [.batch okB 2 0 0 0, .setEnable okE 0 0, .setEnable okE 2 1]
      ⟨CwMcuSensor.init Header.sample default ⟨0, true, ok, ok, ok, okE⟩, []⟩).2
    h.driver.mEnabled ≠ 0#32 ∧ lastWrite .bufferEnable h.driver.sysfs = some "0" := by
  decide

end SensorHub
