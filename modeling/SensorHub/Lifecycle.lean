import SensorHub.System

/-!
# The driver's lifetime: the trigger and the pending mask

What the constructor sets up once and what the calls after it can and cannot undo.

* **The trigger is written once.** The constructor names the trigger
  `CwMcuSensor-dev<dev_num>` and writes that name to `trigger/current_trigger`, setting
  `init_trigger_done` when the write goes through; `batch` retries the write, while no
  sensor is on, until one goes through. Over every run, the attribute receives exactly one
  write that reaches it when `init_trigger_done` is set and none otherwise, and that write
  is the constructor's name (`trigger_written_once`). When the data device does not open,
  the constructor never names the trigger, and `mTriggerName` keeps what memory held.
* **Pending events never drain.** Nothing clears a bit of `mPendingMask`, and the
  constructor does not initialise it: `hasPendingEvents()` starts as memory had it and,
  once true, stays true over every run (`hasPendingEvents_stays_true`).
-/

namespace SensorHub

namespace CwMcuSensor

variable (H : Header)

/-! ### The writes to one attribute -/

/-- The texts that reached the attribute `attr`, oldest first. -/
def writesTo (attr : Attr) (log : List (Attr × String)) : List String :=
  (log.filter fun w => w.1 == attr).map Prod.snd

@[simp] theorem writesTo_nil (attr : Attr) : writesTo attr [] = [] := rfl

@[simp] theorem writesTo_append (attr : Attr) (l l' : List (Attr × String)) :
    writesTo attr (l ++ l') = writesTo attr l ++ writesTo attr l' := by
  simp [writesTo, List.filter_append]

@[simp] theorem writesTo_written (attr : Attr) (o : SysfsOutcome) (w : Attr × String) :
    writesTo attr (written o w) = if o.opened && o.written && w.1 == attr then [w.2] else [] := by
  unfold written
  by_cases ho : (o.opened && o.written) = true <;> by_cases ha : w.1 = attr <;>
    simp [writesTo, ho, ha]

/-! ### The trigger -/

/-- `t` keeps the trigger of `s`: its name, `init_trigger_done`, and the writes that reached
`trigger/current_trigger`. -/
def KeepsTrigger (s t : CwMcuSensor) : Prop :=
  t.mTriggerName = s.mTriggerName ∧ t.initTriggerDone = s.initTriggerDone ∧
    writesTo .currentTrigger t.sysfs = writesTo .currentTrigger s.sysfs

theorem KeepsTrigger.refl (s : CwMcuSensor) : KeepsTrigger s s := ⟨rfl, rfl, rfl⟩

theorem KeepsTrigger.trans {s t u : CwMcuSensor} (h₁ : KeepsTrigger s t) (h₂ : KeepsTrigger t u) :
    KeepsTrigger s u :=
  ⟨h₂.1.trans h₁.1, h₂.2.1.trans h₁.2.1, h₂.2.2.trans h₁.2.2⟩

theorem keepsTrigger_setEnable (o : SetEnableOutcome) (handle en : ℤ) (s : CwMcuSensor) :
    KeepsTrigger s (setEnable H o handle en s).2 := by
  obtain ⟨_, _, _, h⟩ := setEnable_frame H o handle en s
  refine ⟨by rw [h], by rw [h], ?_⟩
  rw [setEnable_eq]; dsimp only; split_ifs <;> simp

theorem keepsTrigger_processEvent (o : ProcessOutcome) (r : Record) (s : CwMcuSensor) :
    KeepsTrigger s (processEvent H o r s).2 := by
  obtain ⟨_, _, _, _, _, _, _, _, h⟩ := processEvent_frame H o r s
  refine ⟨by rw [h], by rw [h], ?_⟩
  rw [(processEvent_spec H o r s).2.2.2.2]
  split_ifs <;> simp

theorem keepsTrigger_dispatchEvent (o : IterOutcome) (r : Record) (s : CwMcuSensor) :
    KeepsTrigger s (dispatchEvent H o r s).2 := by
  have h1 := keepsTrigger_processEvent H o.process r s
  rw [dispatchEvent_eq]; dsimp only
  split_ifs
  · exact h1
  · exact h1.trans (keepsTrigger_setEnable H _ _ _ _)
  · exact h1
  · exact h1

theorem keepsTrigger_dispatchAll (io : ℕ → IterOutcome) (q : List Record) (s : CwMcuSensor) :
    KeepsTrigger s (dispatchAll H io q s).2 := by
  induction q generalizing io s with
  | nil => exact .refl s
  | cons r q ih =>
    exact (keepsTrigger_dispatchEvent H (io 0) r s).trans (ih (fun i => io (i + 1)) _)

/-- The driver holds the trigger name `name`, and `trigger/current_trigger` has received one
write, of `name`, when `init_trigger_done` is set and none otherwise. -/
def TriggerLog (name : String) (s : CwMcuSensor) : Prop :=
  s.mTriggerName = name ∧
    writesTo .currentTrigger s.sysfs = if s.initTriggerDone then [name] else []

theorem TriggerLog.of_keepsTrigger {name : String} {s t : CwMcuSensor} (hs : TriggerLog name s)
    (h : KeepsTrigger s t) : TriggerLog name t :=
  ⟨h.1.trans hs.1, by rw [h.2.2, h.2.1, hs.2]⟩

/-- `batch` writes the trigger only while `init_trigger_done` is clear and no sensor is on,
and sets the flag when that write goes through. -/
theorem batch_triggerLog (o : BatchOutcome) (handle flags periodNs timeout : ℤ) {name : String}
    {s : CwMcuSensor} (hs : TriggerLog name s) :
    TriggerLog name (batch H o handle flags periodNs timeout s).2 := by
  rcases batch_snd_of_checks H o handle flags periodNs timeout s with h | ⟨h1, h2, h3⟩
  · rw [h]; exact hs
  rw [batch_of_checks H o handle flags periodNs timeout s h1 h2 h3]
  obtain ⟨rfl, hw⟩ := hs
  refine ⟨rfl, ?_⟩
  dsimp only
  cases hi : s.initTriggerDone <;> by_cases hm : s.mEnabled = 0#32 <;> simp_all

/-- The constructor's block names the trigger and writes it once. -/
theorem initBuffer_triggerLog (o : InitOutcome) {s : CwMcuSensor}
    (hw : writesTo .currentTrigger s.sysfs = []) (hd : s.initTriggerDone = false) :
    TriggerLog ("CwMcuSensor-dev" ++ toString o.devNum) (initBuffer o s) := by
  have hl : (toString IIO_MAX_BUFF_SIZE).length < INT32_CHAR_LEN := by decide
  have h1 : (toString (1 : ℤ)).length < INT32_CHAR_LEN := by decide
  simp only [initBuffer, sysfsSetInputAttrByInt_snd _ hl, sysfsSetInputAttrByInt_snd _ h1]
  refine ⟨by split_ifs <;> rfl, ?_⟩
  split_ifs with hrc <;>
    simp_all [record, sysfsPath, sysfsSetInputAttr_snd, sysfsSetInputAttr_fst_lt_zero]

/-- The name the constructor gives the trigger: `CwMcuSensor-dev<dev_num>` when the data
device opened, and otherwise the contents `mTriggerName` had in memory. -/
def initTriggerName (m : Memory) (o : InitOutcome) : String :=
  if o.dataFd then "CwMcuSensor-dev" ++ toString o.devNum else m.triggerName

end CwMcuSensor

open CwMcuSensor

section Lifetime

variable (H : Header)

theorem Call.step_triggerLog (c : Call) {name : String} {h : Hub} (hs : TriggerLog name h.driver) :
    TriggerLog name (c.step H h).2.driver := by
  cases c with
  | setEnable o handle en => exact hs.of_keepsTrigger (keepsTrigger_setEnable H o handle en _)
  | setDelay o handle delayNs =>
    refine hs.of_keepsTrigger ?_
    simp only [Call.step, setDelay_eq]; split_ifs <;> simp [KeepsTrigger]
  | batch o handle flags periodNs timeout => exact batch_triggerLog H o handle flags periodNs timeout hs
  | flush o handle =>
    refine hs.of_keepsTrigger ?_
    simp only [Call.step, flush_eq]; split_ifs <;> simp [KeepsTrigger]
  | syncTimestamp o =>
    exact hs.of_keepsTrigger (by simp [KeepsTrigger, Call.step, syncTimestamp_eq])
  | readEvents o count =>
    obtain ⟨pre, hst⟩ := readEvents_state_eq H o count h.reader h.driver
    simp only [Call.step, hst]
    exact hs.of_keepsTrigger (keepsTrigger_dispatchAll H o.iter pre _)

theorem init_triggerLog (m : Memory) (o : InitOutcome) :
    TriggerLog (initTriggerName m o) (CwMcuSensor.init H m o) := by
  rw [init_eq]; unfold initTriggerName
  split
  · have hb := initBuffer_triggerLog (s := { fresh H m with dataFd := true }.lock) o
      (by rfl) (by rfl)
    have hu : TriggerLog _ (initBuffer o _).unlock := hb.of_keepsTrigger ⟨rfl, rfl, rfl⟩
    exact hu.of_keepsTrigger (keepsTrigger_setEnable H _ _ _ _)
  · exact ⟨rfl, rfl⟩

/-- **The trigger is written once.** After the constructor and any sequence of calls, with
every argument and every I/O outcome, the driver holds the trigger name the constructor
gave, and `trigger/current_trigger` has received exactly one write that reached it, of that
name, when `init_trigger_done` is set, and none otherwise. When the data device did not
open, that name is what memory held in `mTriggerName`. -/
theorem trigger_written_once (m : Memory) (o : InitOutcome) (cs : List Call) :
    let s := (run H cs ⟨CwMcuSensor.init H m o, []⟩).2.driver
    s.mTriggerName = initTriggerName m o ∧
      writesTo .currentTrigger s.sysfs =
        if s.initTriggerDone then [initTriggerName m o] else [] :=
  run_preserves H (P := fun h => TriggerLog (initTriggerName m o) h.driver)
    (fun c _ hs => c.step_triggerLog H hs) cs (init_triggerLog H m o)

/-! ### The pending mask -/

theorem hasPendingEvents_iff (s : CwMcuSensor) :
    hasPendingEvents s = true ↔ ∃ i, s.mPendingMask.getLsbD i = true := by
  rw [hasPendingEvents, bne_iff_ne, ne_eq, ← not_forall_not]
  refine not_congr ⟨fun h i => by simp [h], fun h => ?_⟩
  ext i; simpa using h i

/-- **Pending events never drain.** The constructor leaves `hasPendingEvents()` as the
memory of `mPendingMask` had it, and once it is true it stays true over every sequence of
calls, whatever their arguments and I/O outcomes. -/
theorem hasPendingEvents_stays_true :
    (∀ m o, hasPendingEvents (CwMcuSensor.init H m o) = (m.pendingMask != 0)) ∧
    ∀ (cs : List Call) (h : Hub), hasPendingEvents h.driver = true →
      hasPendingEvents (run H cs h).2.driver = true := by
  refine ⟨fun m o => ?_, fun cs h hp => ?_⟩
  · obtain ⟨name, ws, t, hb⟩ :=
      initBuffer_frame o (s := { fresh H m with dataFd := true }.lock) rfl
    rw [init_eq]; unfold hasPendingEvents
    split
    · rw [hb]; simp [lock, unlock, fresh]
    · rfl
  · obtain ⟨i, hi⟩ := (hasPendingEvents_iff h.driver).1 hp
    exact (hasPendingEvents_iff _).2
      ⟨i, run_preserves H (P := fun h => h.driver.mPendingMask.getLsbD i = true)
        (fun c _ hc => c.step_mPendingMask H hc) cs hi⟩

/-- From the constructor's state on zeroed memory, a `readEvents` of one accelerometer
record makes `hasPendingEvents()` true, and it is still true after the accelerometer is
switched off and an empty read. -/
theorem hasPendingEvents_after_disable_and_empty_read :
    let ok : SysfsOutcome := ⟨true, true, 0⟩
    let h : Hub := ((Call.readEvents ⟨.read [⟨0, fun _ => 0, fun _ => 0, 0⟩], fun _ => default⟩ 1).step
      Header.sample ⟨CwMcuSensor.init Header.sample default .ok, []⟩).2
    let cs := [Call.setEnable ⟨false, ok, ok⟩ 0 0, .readEvents ⟨.read [], fun _ => default⟩ 1]
    hasPendingEvents h.driver = true ∧ hasPendingEvents (run Header.sample cs h).2.driver = true :=
  ⟨by decide, (hasPendingEvents_stays_true Header.sample).2 _ _ (by decide)⟩

end Lifetime

end SensorHub
