import SensorHub.Enable
import SensorHub.Frame

/-!
# What an emitted event carries: its header and its timestamp

The header of a `sensors_event_t`, its `version`, `sensor` and `type`, tells the framework
what an event is. The constructor writes it once: in the slot of each sensor kind the
kind's handle and type, in the flush event `META_DATA_VERSION` and
`SENSOR_TYPE_META_DATA`. Every later write goes to the payload or the timestamp, so the
headers never change (`SameHeaders`, kept by each operation of the driver and by every
call), and every reachable state carries the constructor's labels (`Reachable.labelled`).

An emitted event is the flush event or the slot its record's tag names, with the header
that slot had (`dispatchEvent_header`). With `Reachable.enabledAtKinds` this labels every
event `readEvents` emits by its record (`readEvents_event_header`):

* the flush-complete event of a `CW_META_DATA` record carries the meta-data header;
* the event of a record tagged with a sensor kind carries that kind's handle and type;
* a record of any other tag below 32 emits nothing, its bit of `mEnabled` being clear;
* a tag of 32 or more tests the bit of its value mod 32, and when that is a kind's bit
  the pass emits a slot past the kinds, labelled by whatever memory held there, after
  logging the shift `1 << id` as undefined behaviour.

The timestamps come from neither the records nor the sync protocol (`event_timestamps`):
a sensor event is stamped with the host clock its own pass reads, after `processEvent` has
written the record's time to the same slot, and the flush event keeps, over every run, the
timestamp its memory held when the constructor ran, which writes only its header.
-/

namespace SensorHub

namespace CwMcuSensor

variable (H : Header)

/-! ### Writes that keep the headers -/

/-- `t` carries the headers of `s`: in every slot of the table and in the flush event. -/
def SameHeaders (s t : CwMcuSensor) : Prop :=
  (∀ i, (t.mPendingEvents i).header = (s.mPendingEvents i).header) ∧
    t.mPendingEventsFlush.header = s.mPendingEventsFlush.header

namespace SameHeaders

theorem refl (s : CwMcuSensor) : SameHeaders s s := ⟨fun _ => rfl, rfl⟩

theorem trans {s t u : CwMcuSensor} (h₁ : SameHeaders s t) (h₂ : SameHeaders t u) :
    SameHeaders s u :=
  ⟨fun i => (h₂.1 i).trans (h₁.1 i), h₂.2.trans h₁.2⟩

/-- A write that leaves the table and the flush event as they were. -/
theorem of_eq {s t : CwMcuSensor} (he : t.mPendingEvents = s.mPendingEvents)
    (hf : t.mPendingEventsFlush = s.mPendingEventsFlush) : SameHeaders s t :=
  ⟨fun _ => by rw [he], by rw [hf]⟩

end SameHeaders

theorem sameHeaders_stampSlot (id : ℕ) (t : ℤ) (s : CwMcuSensor) :
    SameHeaders s (s.stampSlot H id t) := by
  refine ⟨fun i => ?_, rfl⟩
  by_cases h : i = id <;> simp [stampSlot, Function.update_apply, h]

theorem modifySlot_header {f : SensorsEvent → SensorsEvent} (hf : ∀ e, (f e).header = e.header)
    (k : SensorKind) (s : CwMcuSensor) (i : ℕ) :
    ((s.modifySlot H k f).mPendingEvents i).header = (s.mPendingEvents i).header := by
  by_cases h : i = H.tag k
  · subst h; simp [modifySlot, hf]
  · simp [modifySlot, Function.update_apply, h]

@[simp] theorem setScaled_header (c : BitVec 32) (v : Fin 3 → BitVec 16) (first : ℕ)
    (e : SensorsEvent) : (setScaled H c v first e).header = e.header := rfl

/-- Every `case` of a sensor kind writes payloads and timestamps alone. -/
theorem sameHeaders_decodeSample (o : ProcessOutcome) (k : SensorKind) (r : Record)
    (s : CwMcuSensor) : SameHeaders s (decodeSample H o k r s) := by
  refine ⟨fun i => ?_, by obtain ⟨_, h⟩ := decodeSample_frame H o k r s; rw [h]⟩
  cases k <;> unfold decodeSample <;> dsimp only
  case stepDetector =>
    exact (modifySlot_header H (fun _ => by simp) _ _ i).trans
      (modifySlot_header H (fun _ => by simp) _ _ i)
  all_goals exact modifySlot_header H (fun _ => by simp) _ _ i

theorem sameHeaders_processEvent (o : ProcessOutcome) (r : Record) (s : CwMcuSensor) :
    SameHeaders s (processEvent H o r s).2 := by
  refine (sameHeaders_stampSlot H r.sensorsid r.time.toInt s).trans ?_
  unfold processEvent; dsimp only
  split
  · exact sameHeaders_decodeSample H o _ r _
  · exact ⟨fun _ => rfl, SensorsEvent.setMeta_header _ _ _⟩
  · split <;> exact .of_eq rfl rfl
  · split
    · exact .of_eq (by rw [syncTimestamp_eq]) (by rw [syncTimestamp_eq])
    · exact .refl _
  · exact .refl _

theorem sameHeaders_calculateRv4thElement (id : ℕ) (s : CwMcuSensor) :
    SameHeaders s (calculateRv4thElement H id s) := by
  refine ⟨fun i => ?_, rfl⟩
  unfold calculateRv4thElement
  split
  · split
    · by_cases h : i = id <;> simp [Function.update_apply, h, rv4thElement]
    · rfl
  · rfl

@[simp] theorem setEnable_mPendingEventsFlush (o : SetEnableOutcome) (handle en : ℤ)
    (s : CwMcuSensor) : (setEnable H o handle en s).2.mPendingEventsFlush = s.mPendingEventsFlush := by
  obtain ⟨_, _, _, h⟩ := setEnable_frame H o handle en s; rw [h]

theorem sameHeaders_setEnable (o : SetEnableOutcome) (handle en : ℤ) (s : CwMcuSensor) :
    SameHeaders s (setEnable H o handle en s).2 :=
  .of_eq (setEnable_mPendingEvents H o handle en s) (setEnable_mPendingEventsFlush H o handle en s)

/-- A pass of the loop keeps every header. -/
theorem sameHeaders_dispatchEvent (o : IterOutcome) (r : Record) (s : CwMcuSensor) :
    SameHeaders s (dispatchEvent H o r s).2 := by
  have h1 := sameHeaders_processEvent H o.process r s
  have h2 := h1.trans (sameHeaders_stampSlot H r.sensorsid o.stamp _)
  refine ⟨fun i => ?_, by rw [(dispatchEvent_snd_of_processEvent H o r s).2.2.2]; exact h1.2⟩
  rw [dispatchEvent_mPendingEvents]; dsimp only
  split_ifs
  · exact h1.1 i
  · exact ((sameHeaders_calculateRv4thElement H _ _).1 i).trans (h2.1 i)
  · exact h2.1 i

theorem sameHeaders_dispatchAll (io : ℕ → IterOutcome) (q : List Record) (s : CwMcuSensor) :
    SameHeaders s (dispatchAll H io q s).2 := by
  induction q generalizing io s with
  | nil => exact .refl s
  | cons r q ih =>
    exact (sameHeaders_dispatchEvent H (io 0) r s).trans (ih (fun i => io (i + 1)) _)

/-- **The header of an emitted event.** A pass emits, for a `CW_META_DATA` record, the flush
event with the header it had before the pass; for any other record whose tag's bit mod 32
is set, the slot the tag names, with the header that slot had. -/
theorem dispatchEvent_header {o : IterOutcome} {r : Record} {s : CwMcuSensor} {e : SensorsEvent}
    (he : (dispatchEvent H o r s).1 = some e) :
    (r.sensorsid = H.metaData ∧ e.header = s.mPendingEventsFlush.header) ∨
      (r.sensorsid ≠ H.metaData ∧ s.mEnabled.getLsbD (r.sensorsid % 32) = true ∧
        e.header = (s.mPendingEvents r.sensorsid).header) := by
  have hs := sameHeaders_dispatchEvent H o r s
  rw [dispatchEvent_fst] at he
  split_ifs at he with hm hb <;> cases he
  · exact .inl ⟨hm, (sameHeaders_processEvent H o.process r s).2⟩
  · rw [and_shiftLeft_ne_zero (Nat.mod_lt _ (by decide))] at hb
    exact .inr ⟨hm, hb, hs.1 _⟩

/-- A pass on a tag of 32 or more other than `CW_META_DATA` logs the shift `1 << id`. -/
theorem dispatchEvent_shiftAmount (o : IterOutcome) {r : Record} (s : CwMcuSensor)
    (h : 32 ≤ r.sensorsid) (hm : r.sensorsid ≠ H.metaData) :
    Fault.shiftAmount r.sensorsid ∈ (dispatchEvent H o r s).2.faults := by
  have hd : decide (r.sensorsid < 32) = false := by simpa using h
  rw [dispatchEvent_eq]; dsimp only
  rw [if_neg hm]
  split_ifs <;> simp [mem_logUnless, hd, mem_setEnable_faults]

/-! ### Writes that keep the timestamps -/

theorem calculateRv4thElement_timestamp (id i : ℕ) (s : CwMcuSensor) :
    ((calculateRv4thElement H id s).mPendingEvents i).timestamp = (s.mPendingEvents i).timestamp := by
  unfold calculateRv4thElement
  split
  · split
    · by_cases h : i = id <;> simp [Function.update_apply, h, rv4thElement]
    · rfl
  · rfl

/-- The event of a sensor record carries the `getTimestamp()` its own pass reads after
`processEvent`: the timestamp `processEvent` wrote from the record is overwritten first. -/
theorem dispatchEvent_timestamp {o : IterOutcome} {r : Record} {s : CwMcuSensor} {e : SensorsEvent}
    (he : (dispatchEvent H o r s).1 = some e) (hm : r.sensorsid ≠ H.metaData) :
    e.timestamp = o.stamp := by
  rw [dispatchEvent_fst, if_neg hm] at he
  split_ifs at he with hb
  cases he
  rw [dispatchEvent_mPendingEvents]; dsimp only
  rw [if_neg hm, if_pos hb, calculateRv4thElement_timestamp]
  simp [stampSlot]

/-- No pass writes the timestamp of the flush event. -/
theorem dispatchEvent_flush_timestamp (o : IterOutcome) (r : Record) (s : CwMcuSensor) :
    (dispatchEvent H o r s).2.mPendingEventsFlush.timestamp = s.mPendingEventsFlush.timestamp := by
  rw [(dispatchEvent_snd_of_processEvent H o r s).2.2.2, (processEvent_spec H o.process r s).2.2.2.1]
  split_ifs <;> simp [SensorsEvent.setMeta]

end CwMcuSensor

open CwMcuSensor

/-! ### The constructor's labels over every run -/

section Runs

variable (H : Header)

/-- The constructor's labels: the slot of each sensor kind carries the kind's handle and
type under `sizeof(sensors_event_t)`, and the flush event the meta-data header. -/
def Labelled (s : CwMcuSensor) : Prop :=
  (∀ k, (s.mPendingEvents (H.tag k)).header = (H.eventVersion, H.handle k, H.sensorType k)) ∧
    s.mPendingEventsFlush.header = (H.metaDataVersion, 0, H.typeMetaData)

theorem Labelled.of_sameHeaders {s t : CwMcuSensor} (hs : Labelled H s) (h : SameHeaders s t) :
    Labelled H t :=
  ⟨fun k => (h.1 _).trans (hs.1 k), h.2.trans hs.2⟩

theorem initSlot_header (k : SensorKind) (e : SensorsEvent) :
    (initSlot H k e).header = (H.eventVersion, H.handle k, H.sensorType k) := by
  cases k <;> rfl

theorem init_labelled (m : Memory) (o : InitOutcome) : Labelled H (CwMcuSensor.init H m o) := by
  have hf : Labelled H (fresh H m) :=
    ⟨fun k => by simp [fresh, initTable, initSlot_header], rfl⟩
  refine hf.of_sameHeaders H ?_
  obtain ⟨name, ws, t, hb⟩ := initBuffer_frame o (s := { fresh H m with dataFd := true }.lock) rfl
  rw [init_eq]
  split
  · rw [hb]
    exact sameHeaders_setEnable H _ _ _ _
  · exact .refl _

/-- A call other than `readEvents` leaves the table and the flush event as they are;
`readEvents` leaves the state of its loop over a prefix of the buffered records. -/
theorem Call.step_events (c : Call) (h : Hub) :
    ((c.step H h).2.driver.mPendingEvents = h.driver.mPendingEvents ∧
      (c.step H h).2.driver.mPendingEventsFlush = h.driver.mPendingEventsFlush) ∨
    ∃ io pre, (c.step H h).2.driver = (dispatchAll H io pre h.driver).2 := by
  cases c with
  | setEnable o handle en => exact .inl ⟨by simp [Call.step], by simp [Call.step]⟩
  | setDelay o handle delayNs => exact .inl ⟨by simp [Call.step, setDelay_eq], by simp [Call.step, setDelay_eq]⟩
  | batch o handle flags periodNs timeout =>
    obtain ⟨_, _, _, _, _, hb⟩ := batch_frame H o handle flags periodNs timeout h.driver
    exact .inl ⟨by simp [Call.step, hb], by simp [Call.step, hb]⟩
  | flush o handle =>
    exact .inl ⟨by simp only [Call.step, flush_eq]; split_ifs <;> rfl,
      by simp only [Call.step, flush_eq]; split_ifs <;> rfl⟩
  | syncTimestamp o =>
    exact .inl ⟨by simp [Call.step, syncTimestamp_eq], by simp [Call.step, syncTimestamp_eq]⟩
  | readEvents o count =>
    obtain ⟨pre, hst⟩ := readEvents_state_eq H o count h.reader h.driver
    exact .inr ⟨o.iter, pre, hst⟩

/-- **No call touches a header.** Whatever its arguments and I/O outcomes, a call leaves
the header of every slot of the table and of the flush event as it found it. -/
theorem Call.step_sameHeaders (c : Call) (h : Hub) : SameHeaders h.driver (c.step H h).2.driver := by
  rcases c.step_events H h with ⟨he, hf⟩ | ⟨io, pre, hst⟩
  · exact .of_eq he hf
  · rw [hst]; exact sameHeaders_dispatchAll H io pre h.driver

theorem Reachable.labelled {h : Hub} (hr : Reachable H h) : Labelled H h.driver := by
  induction hr with
  | init m o => exact init_labelled H m o
  | step c _ ih => exact ih.of_sameHeaders H (c.step_sameHeaders H _)

/-- A property every pass keeps holds of the state each pass of the loop starts from. -/
theorem mem_passes_of_forall_dispatchEvent {P : CwMcuSensor → Prop}
    (hP : ∀ o r s, P s → P (dispatchEvent H o r s).2) {io : ℕ → IterOutcome} {q : List Record}
    {s : CwMcuSensor} (hs : P s) {p : Record × Option SensorsEvent × CwMcuSensor}
    (hp : p ∈ passes H io q s) : ∃ o s', P s' ∧ p.2 = dispatchEvent H o p.1 s' := by
  induction q generalizing io s with
  | nil => simp [passes] at hp
  | cons r q ih =>
    rcases List.mem_cons.mp hp with rfl | hp
    · exact ⟨_, _, hs, rfl⟩
    · exact ih (hP _ _ _ hs) hp

/-- The same for the passes a call runs, from a hub whose driver has the property. -/
theorem Call.mem_passes_of_forall_dispatchEvent {P : CwMcuSensor → Prop}
    (hP : ∀ o r s, P s → P (dispatchEvent H o r s).2) (c : Call) {h : Hub} (hs : P h.driver)
    {p : Record × Option SensorsEvent × CwMcuSensor} (hp : p ∈ c.passes H h) :
    ∃ o s', P s' ∧ p.2 = dispatchEvent H o p.1 s' := by
  cases c with
  | readEvents o count =>
    by_cases hc : count < 1
    · simp [Call.passes, readEventsPasses, hc] at hp
    · obtain ⟨pre, hps, -⟩ := readEvents_passes H o (show 1 ≤ count by omega) h.reader h.driver
      rw [Call.passes, hps] at hp
      exact SensorHub.mem_passes_of_forall_dispatchEvent H hP hs hp
  | _ => simp [Call.passes] at hp

/-- The same for the passes of a whole run, when every call keeps the property too. -/
theorem mem_runPasses_of_forall_step {P : CwMcuSensor → Prop}
    (hP : ∀ o r s, P s → P (dispatchEvent H o r s).2)
    (hc : ∀ (c : Call) (h : Hub), P h.driver → P (c.step H h).2.driver) (cs : List Call)
    {h : Hub} (hs : P h.driver) {p : Record × Option SensorsEvent × CwMcuSensor}
    (hp : p ∈ runPasses H cs h) : ∃ o s', P s' ∧ p.2 = dispatchEvent H o p.1 s' := by
  induction cs generalizing h with
  | nil => simp [runPasses] at hp
  | cons c cs ih =>
    rcases List.mem_append.mp hp with hp | hp
    · exact c.mem_passes_of_forall_dispatchEvent H hP hs hp
    · exact ih (hc c h hs) hp

/-- An event from a labelled state whose mask has bits only at sensor kinds carries the
header of its record's kind, or the meta-data header, or comes from a tag of 32 or more. -/
theorem dispatchEvent_labelled {o : IterOutcome} {r : Record} {s : CwMcuSensor}
    (hl : Labelled H s) (hm : EnabledAtKinds H s.mEnabled) {e : SensorsEvent}
    (he : (dispatchEvent H o r s).1 = some e) :
    (r.sensorsid = H.metaData ∧ e.header = (H.metaDataVersion, 0, H.typeMetaData)) ∨
      (∃ k, H.tag k = r.sensorsid ∧ e.header = (H.eventVersion, H.handle k, H.sensorType k)) ∨
      (32 ≤ r.sensorsid ∧ Fault.shiftAmount r.sensorsid ∈ (dispatchEvent H o r s).2.faults) := by
  rcases dispatchEvent_header H he with ⟨hmd, heq⟩ | ⟨hmd, hb, heq⟩
  · exact .inl ⟨hmd, heq.trans hl.2⟩
  · by_cases h32 : r.sensorsid < 32
    · obtain ⟨k, hk⟩ := hm _ hb
      rw [Nat.mod_eq_of_lt h32] at hk
      exact .inr (.inl ⟨k, hk, by rw [heq, ← hk, hl.1 k]⟩)
    · exact .inr (.inr ⟨by omega, dispatchEvent_shiftAmount H o s (by omega) hmd⟩)

/-- **Every event is labelled by its record.** In every call from every reachable hub, a
pass of `readEvents` that emits an event emits, for a `CW_META_DATA` record, the flush
event with the meta-data header, and for a record tagged with a sensor kind an event with
that kind's handle and type. A record of any other tag emits only when the tag is 32 or
more, after logging the shift `1 << id` as undefined behaviour. -/
theorem readEvents_event_header {h : Hub} (hr : Reachable H h) (c : Call) :
    ∀ p ∈ c.passes H h, ∀ e, p.2.1 = some e →
      (p.1.sensorsid = H.metaData ∧ e.header = (H.metaDataVersion, 0, H.typeMetaData)) ∨
      (∃ k, H.tag k = p.1.sensorsid ∧ e.header = (H.eventVersion, H.handle k, H.sensorType k)) ∨
      (32 ≤ p.1.sensorsid ∧ Fault.shiftAmount p.1.sensorsid ∈ p.2.2.faults) := by
  intro p hp e he
  have hP : ∀ o r s, Labelled H s ∧ EnabledAtKinds H s.mEnabled →
      Labelled H (dispatchEvent H o r s).2 ∧ EnabledAtKinds H (dispatchEvent H o r s).2.mEnabled :=
    fun o r s hs => ⟨hs.1.of_sameHeaders H (sameHeaders_dispatchEvent H o r s),
      fun i hi => hs.2 i (dispatchEvent_getLsbD_mEnabled H o r s hi)⟩
  obtain ⟨o', s', ⟨hl, hm⟩, hd⟩ :=
    c.mem_passes_of_forall_dispatchEvent H hP ⟨hr.labelled H, hr.enabledAtKinds H⟩ hp
  rw [hd] at he ⊢
  exact dispatchEvent_labelled H hl hm he

/-- From the constructor's state with the accelerometer switched on, the pass of an
accelerometer record emits an event labelled with the accelerometer's handle and type. -/
theorem readEvents_event_header_of_accelerometer :
    let h : Hub := ((Call.setEnable ⟨false, ⟨true, true, 0⟩, ⟨true, true, 0⟩⟩ 0 1).step
      Header.sample ⟨CwMcuSensor.init Header.sample default .ok, []⟩).2
    let c := Call.readEvents ⟨.read [⟨0, fun _ => 0, fun _ => 0, 0⟩], fun _ => default⟩ 1
    ((c.passes Header.sample h).map fun p => p.2.1.isSome) = [true] ∧
    ∀ p ∈ c.passes Header.sample h, ∀ e, p.2.1 = some e →
      (p.1.sensorsid = Header.sample.metaData ∧
          e.header = (Header.sample.metaDataVersion, 0, Header.sample.typeMetaData)) ∨
      (∃ k, Header.sample.tag k = p.1.sensorsid ∧
          e.header = (Header.sample.eventVersion, Header.sample.handle k,
            Header.sample.sensorType k)) ∨
      (32 ≤ p.1.sensorsid ∧ Fault.shiftAmount p.1.sensorsid ∈ p.2.2.faults) :=
  ⟨by decide, readEvents_event_header Header.sample (.step _ (.init default .ok)) _⟩

/-! ### Where the timestamps come from -/

theorem dispatchAll_flush_timestamp (io : ℕ → IterOutcome) (q : List Record) (s : CwMcuSensor) :
    (dispatchAll H io q s).2.mPendingEventsFlush.timestamp = s.mPendingEventsFlush.timestamp := by
  induction q generalizing io s with
  | nil => rfl
  | cons r q ih => exact (ih (fun i => io (i + 1)) _).trans (dispatchEvent_flush_timestamp H (io 0) r s)

theorem Call.step_flush_timestamp (c : Call) (h : Hub) :
    (c.step H h).2.driver.mPendingEventsFlush.timestamp = h.driver.mPendingEventsFlush.timestamp := by
  rcases c.step_events H h with ⟨-, hf⟩ | ⟨io, pre, hst⟩
  · rw [hf]
  · rw [hst]; exact dispatchAll_flush_timestamp H io pre h.driver

/-- **Where the timestamps of the events come from.** The event of a sensor record carries
the host clock read in its own pass, never the time the record brings from the hub nor the
synchronised `g_timestamp`. Over every run from the constructor, every flush-complete event
carries the timestamp `mPendingEventsFlush` held in memory when the driver was built: no
code ever writes it. -/
theorem event_timestamps :
    (∀ (o : IterOutcome) (r : Record) (s : CwMcuSensor) (e : SensorsEvent),
      (dispatchEvent H o r s).1 = some e → r.sensorsid ≠ H.metaData → e.timestamp = o.stamp) ∧
    ∀ (m : Memory) (o : InitOutcome) (cs : List Call),
      ∀ p ∈ runPasses H cs ⟨CwMcuSensor.init H m o, []⟩, ∀ e, p.2.1 = some e →
        p.1.sensorsid = H.metaData → e.timestamp = m.pendingEventsFlush.timestamp := by
  refine ⟨fun o r s e he hm => dispatchEvent_timestamp H he hm, fun m o cs p hp e he hm => ?_⟩
  have hinit : (CwMcuSensor.init H m o).mPendingEventsFlush.timestamp =
      m.pendingEventsFlush.timestamp := by
    obtain ⟨name, ws, t, hb⟩ := initBuffer_frame o (s := { fresh H m with dataFd := true }.lock) rfl
    rw [init_eq]
    split
    · rw [hb]; simp [lock, unlock, fresh]
    · rfl
  obtain ⟨o', s', hs', hd⟩ := mem_runPasses_of_forall_step H
    (P := fun s => s.mPendingEventsFlush.timestamp = m.pendingEventsFlush.timestamp)
    (fun o r s hs => (dispatchEvent_flush_timestamp H o r s).trans hs)
    (fun c h hs => (c.step_flush_timestamp H h).trans hs) cs hinit hp
  rw [hd, dispatchEvent_fst, if_pos hm] at he
  cases he
  rw [← hs', (processEvent_spec H o'.process p.1 s').2.2.2.1]
  split_ifs <;> simp [SensorsEvent.setMeta]

/-- From the constructor's state with the accelerometer switched on, the event of an
accelerometer record that carries the device time `5` through a pass whose clock reads `7`
is stamped `7`. From the constructor on a memory whose `mPendingEventsFlush` is stamped `3`,
a `flush` of the gyroscope and then a `readEvents` of the `CW_META_DATA` record that answers
it, through a pass whose clock reads `7` too, emit a flush-complete event stamped `3`. -/
theorem events_stamped_by_pass_and_by_memory :
    let ok : SysfsOutcome := ⟨true, true, 0⟩
    let s := (setEnable Header.sample ⟨false, ok, ok⟩ 0 1
      (CwMcuSensor.init Header.sample default .ok)).2
    let r : Record := ⟨0, fun _ => 0, fun _ => 0, 5⟩
    let o : IterOutcome := ⟨default, 7, default⟩
    let m : Memory := { (default : Memory) with
      pendingEventsFlush := { (default : SensorsEvent) with timestamp := 3 } }
    let cs := [Call.flush ok (Header.sample.handle .gyro),
      .readEvents ⟨.read [⟨99, fun _ => 2, fun _ => 0, 5⟩], fun _ => o⟩ 1]
    (∃ e, ((dispatchEvent Header.sample o r s).1 = some e ∧ r.sensorsid ≠ Header.sample.metaData) ∧
      e.timestamp = 7) ∧
    ∃ p ∈ runPasses Header.sample cs ⟨CwMcuSensor.init Header.sample m .ok, []⟩, ∃ e,
      (p.2.1 = some e ∧ p.1.sensorsid = Header.sample.metaData) ∧ e.timestamp = 3 := by
  intro ok s r o m cs
  have he : (dispatchEvent Header.sample o r s).1.isSome := by decide
  -- the one pass of the run: over the `CW_META_DATA` record, and it emits
  obtain ⟨hne, hf, hm⟩ : ∃ h, ((runPasses Header.sample cs
      ⟨CwMcuSensor.init Header.sample m .ok, []⟩).head h).2.1.isSome ∧
      ((runPasses Header.sample cs ⟨CwMcuSensor.init Header.sample m .ok, []⟩).head h).1.sensorsid =
        Header.sample.metaData :=
    ⟨List.ne_nil_of_length_pos (by decide), by decide, by decide⟩
  have hp := List.head_mem hne
  exact ⟨⟨_, ⟨(Option.some_get he).symm, by decide⟩,
      (event_timestamps Header.sample).1 o r s _ (Option.some_get he).symm (by decide)⟩,
    _, hp, _, ⟨(Option.some_get hf).symm, hm⟩,
      (event_timestamps Header.sample).2 m .ok cs _ hp _ (Option.some_get hf).symm hm⟩

end Runs

end SensorHub
