import SensorHub.Dispatch

/-!
# The pending samples, kind by kind

Each sensor kind has one slot of `mPendingEvents`, which the records of that kind update
and the dispatch loop copies out. A slot is written by `processEvent` (the timestamp write
at the record's tag and the `case` of its kind), by the loop's own timestamp write, and by
`calculate_rv_4th_element` for a rotation vector whose bit of `mEnabled` is set. Apart from
timestamps, which come from the clock, the content of a slot is therefore a function of the
records whose `case` writes it (`writesSlotOf`), in order:

* a record whose `case` does not write slot `k` leaves it as it was
  (`dispatchEvent_slot_of_not_writesSlotOf`);
* two states whose slot `k` agrees apart from its timestamp still agree after the same
  record, whatever the clock (`sameSlot_dispatchEvent`);
* hence a pass over a stream leaves slot `k` as a pass over the records that write it does
  (`sameSlot_dispatchAll_filter`).

The records that write slot `k` are those of kind `k` and, for `CW_STEP_COUNTER`, those of
`CW_STEP_DETECTOR` too, whose `case` stores a float in `data[0]` of the step counter's slot,
the low word of `u64.step_counter`. A step-counter event is still right when it is emitted:
only a record of its own kind emits it, right after its `case` wrote the count
(`dispatchEvent_stepCounter`).
-/

namespace SensorHub

namespace CwMcuSensor

variable (H : Header)

/-! ### Samples apart from their timestamp -/

/-- The pending sample of kind `k` apart from its timestamp. -/
def untimedSlot (k : SensorKind) (s : CwMcuSensor) : SensorsEvent :=
  (s.mPendingEvents (H.tag k)).setTimestamp 0

/-- `f₁` and `f₂` map samples that agree apart from the timestamp to samples that agree
apart from the timestamp. -/
def UntimedCongr (f₁ f₂ : SensorsEvent → SensorsEvent) : Prop :=
  ∀ e e', e.setTimestamp 0 = e'.setTimestamp 0 → (f₁ e).setTimestamp 0 = (f₂ e').setTimestamp 0

/-- A write that neither reads nor writes the timestamp. -/
theorem untimedCongr_of_commute {f : SensorsEvent → SensorsEvent}
    (hf : ∀ e, (f e).setTimestamp 0 = f (e.setTimestamp 0)) : UntimedCongr f f :=
  fun e e' h => by rw [hf, hf, h]

theorem untimedCongr_setTimestamp (t₁ t₂ : ℤ) :
    UntimedCongr (SensorsEvent.setTimestamp t₁) (SensorsEvent.setTimestamp t₂) :=
  fun _ _ h => h

theorem untimedCongr_rv4thElement : UntimedCongr (rv4thElement H) (rv4thElement H) :=
  untimedCongr_of_commute fun _ => rfl

section Congr

variable {k : SensorKind} {s₁ s₂ : CwMcuSensor}

theorem untimedSlot_stampSlot (h : untimedSlot H k s₁ = untimedSlot H k s₂) (id : ℕ)
    (t₁ t₂ : ℤ) : untimedSlot H k (s₁.stampSlot H id t₁) = untimedSlot H k (s₂.stampSlot H id t₂) := by
  unfold untimedSlot stampSlot
  by_cases hk : H.tag k = id
  · subst hk; simpa using h
  · simpa [Function.update_apply, hk] using h

theorem untimedSlot_modifySlot {f₁ f₂ : SensorsEvent → SensorsEvent} (hf : UntimedCongr f₁ f₂)
    (j : SensorKind) (h : untimedSlot H k s₁ = untimedSlot H k s₂) :
    untimedSlot H k (s₁.modifySlot H j f₁) = untimedSlot H k (s₂.modifySlot H j f₂) := by
  unfold untimedSlot modifySlot
  by_cases hk : k = j
  · subst hk; simpa using hf _ _ h
  · simpa [Function.update_apply, H.tag_inj, hk] using h

/-- Every `case` of a sensor kind writes its slots without reading a timestamp. -/
theorem untimedSlot_decodeSample (o₁ o₂ : ProcessOutcome) (j : SensorKind) (r : Record)
    (h : untimedSlot H k s₁ = untimedSlot H k s₂) :
    untimedSlot H k (decodeSample H o₁ j r s₁) = untimedSlot H k (decodeSample H o₂ j r s₂) := by
  cases j <;> unfold decodeSample <;> dsimp only
  case stepDetector =>
    refine untimedSlot_modifySlot H (untimedCongr_setTimestamp _ _) _
      (untimedSlot_modifySlot H (untimedCongr_of_commute fun _ => ?_) _ h)
    rfl
  all_goals
    refine untimedSlot_modifySlot H (untimedCongr_of_commute fun _ => ?_) _ h
    rfl

/-- The table after `processEvent`: the timestamp write, then the `case` of a sensor kind;
the other cases write no slot. -/
theorem processEvent_mPendingEvents (o : ProcessOutcome) (r : Record) (s : CwMcuSensor) :
    (processEvent H o r s).2.mPendingEvents =
      match H.decodeTag r.sensorsid with
      | some (.sensor j) => (decodeSample H o j r (s.stampSlot H r.sensorsid r.time.toInt)).mPendingEvents
      | _ => (s.stampSlot H r.sensorsid r.time.toInt).mPendingEvents := by
  unfold processEvent; dsimp only
  split
  next j h => simp only [h]
  next h => simp only [h]
  next h => simp only [h]; split <;> rfl
  next h => simp only [h]; split <;> simp [syncTimestamp_eq]
  next h => simp only [h]

theorem untimedSlot_processEvent (o₁ o₂ : ProcessOutcome) (r : Record)
    (h : untimedSlot H k s₁ = untimedSlot H k s₂) :
    untimedSlot H k (processEvent H o₁ r s₁).2 = untimedSlot H k (processEvent H o₂ r s₂).2 := by
  have hs := untimedSlot_stampSlot H h r.sensorsid r.time.toInt r.time.toInt
  unfold untimedSlot at hs ⊢
  rw [processEvent_mPendingEvents, processEvent_mPendingEvents]
  split
  · exact untimedSlot_decodeSample H o₁ o₂ _ r hs
  · exact hs

theorem untimedSlot_calculateRv4thElement (id : ℕ) (h : untimedSlot H k s₁ = untimedSlot H k s₂) :
    untimedSlot H k (calculateRv4thElement H id s₁) =
      untimedSlot H k (calculateRv4thElement H id s₂) := by
  by_cases hk : H.tag k = id
  · subst hk
    unfold untimedSlot calculateRv4thElement
    simp only [Header.decodeTag_tag]
    split
    · simpa using untimedCongr_rv4thElement H _ _ h
    · exact h
  · unfold untimedSlot
    rw [calculateRv4thElement_slot H hk, calculateRv4thElement_slot H hk]
    exact h

/-- `calculate_rv_4th_element` writes slot `k` only when called on it for a rotation
vector. -/
theorem calculateRv4thElement_slot_of_not {id : ℕ} (h : ¬ (id = H.tag k ∧ isRotationVector k))
    (s : CwMcuSensor) :
    (calculateRv4thElement H id s).mPendingEvents (H.tag k) = s.mPendingEvents (H.tag k) := by
  by_cases hk : id = H.tag k
  · subst hk
    unfold calculateRv4thElement
    simp only [Header.decodeTag_tag]
    rw [if_neg (by simpa using h : ¬ isRotationVector k = true)]
  · exact calculateRv4thElement_slot H (Ne.symm hk) s

end Congr

/-! ### One pass -/

/-- The table after a pass of the loop. -/
theorem dispatchEvent_mPendingEvents (o : IterOutcome) (r : Record) (s : CwMcuSensor) :
    (dispatchEvent H o r s).2.mPendingEvents =
      let t := (processEvent H o.process r s).2
      if r.sensorsid = H.metaData then t.mPendingEvents
      else if s.mEnabled &&& 1#32 <<< (r.sensorsid % 32) != 0 then
        (calculateRv4thElement H r.sensorsid (t.stampSlot H r.sensorsid o.stamp)).mPendingEvents
      else (t.stampSlot H r.sensorsid o.stamp).mPendingEvents := by
  rw [dispatchEvent_eq]; simp only [processEvent_mEnabled]
  split_ifs
  · rfl
  · exact calculateRv4thElement_mPendingEvents_congr H (setEnable_mPendingEvents ..) _
  · rfl
  · rfl

/-- Slot `k` after a pass that does not complete it as a rotation vector. -/
theorem dispatchEvent_slot_of_not {k : SensorKind} {r : Record}
    (hrv : ¬ (r.sensorsid = H.tag k ∧ isRotationVector k)) (o : IterOutcome) (s : CwMcuSensor) :
    (dispatchEvent H o r s).2.mPendingEvents (H.tag k) =
      (if r.sensorsid = H.metaData then (processEvent H o.process r s).2
        else (processEvent H o.process r s).2.stampSlot H r.sensorsid o.stamp).mPendingEvents
        (H.tag k) := by
  rw [dispatchEvent_mPendingEvents]; dsimp only
  split_ifs
  · rfl
  · exact calculateRv4thElement_slot_of_not H hrv _
  · rfl

/-- A pass changes `mEnabled` only at the significant-motion bit. -/
theorem dispatchEvent_getLsbD_of_ne (o : IterOutcome) (r : Record) (s : CwMcuSensor) {i : ℕ}
    (hi : i ≠ H.tag .significantMotion) :
    (dispatchEvent H o r s).2.mEnabled.getLsbD i = s.mEnabled.getLsbD i := by
  rw [dispatchEvent_mEnabled]
  split_ifs
  · rw [getLsbD_setBit (H.tag_lt_32 _) (Nat.zero_le _), if_neg hi]
  · rfl

/-- The records whose `case` writes the slot of kind `k`. -/
def writesSlotOf (k : SensorKind) (r : Record) : Bool :=
  match H.decodeTag r.sensorsid with
  | some (.sensor j) => decide (WritesSlot j k)
  | _ => false

/-- **Frame.** A record whose `case` does not write slot `k` leaves it, timestamp included. -/
theorem dispatchEvent_slot_of_not_writesSlotOf {k : SensorKind} {r : Record}
    (hr : writesSlotOf H k r = false) (o : IterOutcome) (s : CwMcuSensor) :
    (dispatchEvent H o r s).2.mPendingEvents (H.tag k) = s.mPendingEvents (H.tag k) := by
  have hid : r.sensorsid ≠ H.tag k := by
    rintro hk; simp [writesSlotOf, hk, WritesSlot] at hr
  have hstamp : ∀ (t : CwMcuSensor) (x : ℤ),
      (t.stampSlot H r.sensorsid x).mPendingEvents (H.tag k) = t.mPendingEvents (H.tag k) :=
    fun t x => by simp [stampSlot, Function.update_apply, Ne.symm hid]
  have hp : (processEvent H o.process r s).2.mPendingEvents (H.tag k) = s.mPendingEvents (H.tag k) := by
    rw [processEvent_mPendingEvents]
    split
    next j hj =>
      have hw : ¬ WritesSlot j k := by simpa [writesSlotOf, hj] using hr
      rw [decodeSample_slot H _ r _ fun j' hj' he => hw (by rw [← H.tag_inj.mp he]; exact hj'),
        hstamp]
    next => exact hstamp s _
  rw [dispatchEvent_slot_of_not H (fun h => hid h.1)]
  split_ifs
  · exact hp
  · rw [hstamp, hp]

/-- Slot `k` agrees apart from its timestamp, and so does the bit that decides whether
`calculate_rv_4th_element` completes it. -/
def SameSlot (k : SensorKind) (s₁ s₂ : CwMcuSensor) : Prop :=
  untimedSlot H k s₁ = untimedSlot H k s₂ ∧
    (isRotationVector k → s₁.mEnabled.getLsbD (H.tag k) = s₂.mEnabled.getLsbD (H.tag k))

theorem SameSlot.trans {k : SensorKind} {s₁ s₂ s₃ : CwMcuSensor} (h₁ : SameSlot H k s₁ s₂)
    (h₂ : SameSlot H k s₂ s₃) : SameSlot H k s₁ s₃ :=
  ⟨h₁.1.trans h₂.1, fun hk => (h₁.2 hk).trans (h₂.2 hk)⟩

theorem isRotationVector_ne_significantMotion {k : SensorKind} (hk : isRotationVector k) :
    H.tag k ≠ H.tag .significantMotion := by
  rw [Ne, H.tag_inj]; rintro rfl; exact absurd hk (by decide)

theorem sameSlot_of_not_writesSlotOf {k : SensorKind} {r : Record}
    (hr : writesSlotOf H k r = false) (o : IterOutcome) (s : CwMcuSensor) :
    SameSlot H k (dispatchEvent H o r s).2 s :=
  ⟨by rw [untimedSlot, dispatchEvent_slot_of_not_writesSlotOf H hr]; rfl,
   fun hk => dispatchEvent_getLsbD_of_ne H o r s (isRotationVector_ne_significantMotion H hk)⟩

/-- **Congruence.** The same record keeps two states' slot `k` in agreement, whatever the
clock and the nested `setEnable` report. -/
theorem sameSlot_dispatchEvent {k : SensorKind} {s₁ s₂ : CwMcuSensor} (h : SameSlot H k s₁ s₂)
    (o₁ o₂ : IterOutcome) (r : Record) :
    SameSlot H k (dispatchEvent H o₁ r s₁).2 (dispatchEvent H o₂ r s₂).2 := by
  refine ⟨?_, fun hk => ?_⟩
  · have hp := untimedSlot_processEvent H o₁.process o₂.process r h.1
    have hs := untimedSlot_stampSlot H hp r.sensorsid o₁.stamp o₂.stamp
    unfold untimedSlot at hp hs ⊢
    by_cases hrv : r.sensorsid = H.tag k ∧ isRotationVector k
    · -- the bit that decides the completion is the same on both sides
      have hlt := H.tag_lt_32 k
      have hen : (s₁.mEnabled &&& 1#32 <<< (r.sensorsid % 32) != 0) =
          (s₂.mEnabled &&& 1#32 <<< (r.sensorsid % 32) != 0) := by
        rw [hrv.1, Nat.mod_eq_of_lt hlt, and_shiftLeft_ne_zero hlt, and_shiftLeft_ne_zero hlt,
          h.2 hrv.2]
      rw [dispatchEvent_mPendingEvents, dispatchEvent_mPendingEvents]; dsimp only
      rw [hen]
      split_ifs
      · exact hp
      · exact untimedSlot_calculateRv4thElement H _ hs
      · exact hs
    · rw [dispatchEvent_slot_of_not H hrv, dispatchEvent_slot_of_not H hrv]
      split_ifs
      · exact hp
      · exact hs
  · rw [dispatchEvent_getLsbD_of_ne H _ _ _ (isRotationVector_ne_significantMotion H hk),
      dispatchEvent_getLsbD_of_ne H _ _ _ (isRotationVector_ne_significantMotion H hk)]
    exact h.2 hk

/-! ### A whole pass -/

/-- A pass over a stream leaves slot `k` as a pass over the records that write it does,
whatever the clock. -/
theorem sameSlot_dispatchAll_filter (k : SensorKind) (io io' : ℕ → IterOutcome)
    (q : List Record) {s₁ s₂ : CwMcuSensor} (h : SameSlot H k s₁ s₂) :
    SameSlot H k (dispatchAll H io q s₁).2 (dispatchAll H io' (q.filter (writesSlotOf H k)) s₂).2 := by
  induction q generalizing io io' s₁ s₂ with
  | nil => exact h
  | cons r q ih =>
    rw [dispatchAll_cons]
    cases hw : writesSlotOf H k r
    · rw [List.filter_cons_of_neg (by simp [hw])]
      exact ih _ _ ((sameSlot_of_not_writesSlotOf H hw (io 0) s₁).trans H h)
    · rw [List.filter_cons_of_pos hw, dispatchAll_cons]
      exact ih _ _ (sameSlot_dispatchEvent H h (io 0) (io' 0) r)

/-! ### The step counter -/

/-- A pass over a step-counter record emits the count it carries. -/
theorem dispatchEvent_stepCounter {o : IterOutcome} {r : Record} {s : CwMcuSensor}
    (hr : r.sensorsid = H.tag .stepCounter) {e : SensorsEvent}
    (he : (dispatchEvent H o r s).1 = some e) : e.stepCounter = r.dataUInt32.zeroExtend 64 := by
  rw [dispatchEvent_fst, if_neg (hr ▸ H.tag_ne_metaData _)] at he
  split_ifs at he
  cases he
  have hrv : ¬ (r.sensorsid = H.tag .stepCounter ∧ isRotationVector .stepCounter) := by
    simp [isRotationVector]
  rw [hr, dispatchEvent_slot_of_not H hrv]
  simp [hr, H.tag_ne_metaData, stampSlot, processEvent_mPendingEvents, decodeSample, modifySlot]

theorem mem_passes {io : ℕ → IterOutcome} {q : List Record} {s : CwMcuSensor}
    {p : Record × Option SensorsEvent × CwMcuSensor} (hp : p ∈ passes H io q s) :
    ∃ o s', p.2 = dispatchEvent H o p.1 s' := by
  induction q generalizing io s with
  | nil => simp [passes] at hp
  | cons r q ih =>
    rcases List.mem_cons.mp hp with rfl | hp
    · exact ⟨_, _, rfl⟩
    · exact ih hp

/-- **The pending samples, kind by kind.** A record changes the sample of another kind
only when its `case` writes that kind's slot, which happens for the step detector's record
and the step counter's slot alone. Apart from timestamps, a pass over any stream leaves the
slot of kind `k` as a pass over the records that write it does, whatever the clock. Every
step-counter event `readEvents` emits carries the count of the record it is emitted for,
the latest step-counter record. -/
theorem pendingSlot_depends_only_on_its_writers :
    (∀ (o : IterOutcome) (r : Record) (s : CwMcuSensor) (j k : SensorKind),
      H.decodeTag r.sensorsid = some (.sensor j) → ¬ WritesSlot j k →
        (dispatchEvent H o r s).2.mPendingEvents (H.tag k) = s.mPendingEvents (H.tag k)) ∧
    (∀ (io io' : ℕ → IterOutcome) (q : List Record) (s : CwMcuSensor) (k : SensorKind),
      untimedSlot H k (dispatchAll H io q s).2 =
        untimedSlot H k (dispatchAll H io' (q.filter (writesSlotOf H k)) s).2) ∧
    (∀ (o : ReadOutcome) (count : ℤ) (reader : List Record) (s : CwMcuSensor),
      ∀ p ∈ readEventsPasses H o count reader s, p.1.sensorsid = H.tag .stepCounter →
        ∀ e, p.2.1 = some e → e.stepCounter = p.1.dataUInt32.zeroExtend 64) := by
  refine ⟨fun o r s j k hj hw => dispatchEvent_slot_of_not_writesSlotOf H
      (by simp [writesSlotOf, hj, hw]) o s,
    fun io io' q s k => (sameSlot_dispatchAll_filter H k io io' q ⟨rfl, fun _ => rfl⟩).1,
    fun o count reader s p hp hr e he => ?_⟩
  unfold readEventsPasses at hp
  split_ifs at hp
  · simp at hp
  · obtain ⟨o', s', h⟩ := mem_passes H hp
    rw [h] at he
    exact dispatchEvent_stepCounter H hr he

theorem pendingSlot_depends_only_on_its_writers_at_stepDetector :
    let sd : Record := ⟨21, fun _ => 1, fun _ => 0, 0⟩
    let s := init Header.sample default .ok
    Header.sample.decodeTag sd.sensorsid = some (.sensor .stepDetector) ∧
      ¬ WritesSlot .stepDetector .acceleration ∧
      (dispatchEvent Header.sample default sd s).2.mPendingEvents
          (Header.sample.tag .acceleration) =
        s.mPendingEvents (Header.sample.tag .acceleration) :=
  ⟨by decide, by decide,
    (pendingSlot_depends_only_on_its_writers Header.sample).1 _ _ _ .stepDetector _ (by decide)
      (by decide)⟩

/-- Two streams that differ by a step-detector record after a step-counter record: the
step counter's slot differs apart from its timestamp from the one a pass over the
step-counter record alone leaves. -/
theorem stepDetector_overwrites_stepCounter_slot :
    let sc : Record := ⟨22, fun i => if i = 0 then 5 else 0, fun _ => 0, 0⟩
    let sd : Record := ⟨21, fun _ => 1, fun _ => 0, 0⟩
    let s := init Header.sample default .ok
    let whole := (dispatchAll Header.sample (fun _ => default) [sc, sd] s).2
    let alone := (dispatchAll Header.sample (fun _ => default)
      ([sc, sd].filter fun r => r.sensorsid = Header.sample.tag .stepCounter) s).2
    (alone.mPendingEvents (Header.sample.tag .stepCounter)).stepCounter = 5 ∧
      (whole.mPendingEvents (Header.sample.tag .stepCounter)).stepCounter ≠
        (alone.mPendingEvents (Header.sample.tag .stepCounter)).stepCounter := by
  decide

end CwMcuSensor

end SensorHub
