import SensorHub.Decode

/-!
# The dispatch loop

`readEvents(data, count)` fills the reader from the device, then runs its loop: while the
budget `count` is not spent and a record is buffered, it processes the record with
`processEvent`, emits the flush event for a `CW_META_DATA` record, or stamps the slot and
emits a copy of it when the kind's bit of `mEnabled` is set, and advances the reader.

The reader is an `InputEventCircularReader`, whose code is not among the sources. Its two
operations are modelled from the spec: `fill` appends the records the device delivered
(`FillOutcome`) or fails with a negative error, and the loop's `readEvent`/`next` pair
reads and then drops the oldest buffered record. The buffered records are passed beside
the driver's state.

`readLoop` is the loop as written; `dispatchAll` is the same loop without a budget, run
over a given list of records. `readLoop_spec` says that the loop is `dispatchAll` over a
prefix of the buffered records: the shortest one that yields `count` events, or all of them.
-/

namespace SensorHub

namespace CwMcuSensor

variable (H : Header)

/-- The outcomes of one pass of the loop of `readEvents`. -/
structure IterOutcome where
  /-- The outcomes of `processEvent`. -/
  process : ProcessOutcome
  /-- `getTimestamp()` for the slot of the record. -/
  stamp : ℤ
  /-- The outcomes of `setEnable(ID_CW_SIGNIFICANT_MOTION, 0)`. -/
  disable : SetEnableOutcome
  deriving Inhabited

/-- Modelled from the spec: the outcome of `InputEventCircularReader::fill`, the records
the device delivered, oldest first, or a negative error. -/
inductive FillOutcome
  | read (recs : List Record)
  | failed (err : ℤ) (neg : err < 0)

/-- The records a fill delivered. -/
def FillOutcome.records : FillOutcome → List Record
  | .read recs => recs
  | .failed _ _ => []

/-- The records a fill on the data device delivered: none when the device did not open. -/
def FillOutcome.delivered (dataFd : Bool) (o : FillOutcome) : List Record :=
  if dataFd then o.records else []

/-- Modelled from the spec: `mInputReader.fill(data_fd)` appends the records read to the
buffered ones and returns their number, or returns the error. On the descriptor of a
data device that did not open, the read fails (`EBADF`). -/
def fill (dataFd : Bool) (o : FillOutcome) (reader : List Record) : ℤ × List Record :=
  if !dataFd then (-EBADF, reader) else
  match o with
  | .read recs => (recs.length, reader ++ recs)
  | .failed err _ => (err, reader)

/-- The end of a pass for a record whose kind's bit of `mEnabled` is set (lines 847–852):
the significant-motion auto-disable, the fourth element of a rotation vector, and the copy
of the slot. -/
def dispatchEnabled (o : IterOutcome) (id : ℕ) (s : CwMcuSensor) : SensorsEvent × CwMcuSensor :=
  let s :=
    if id = H.tag .significantMotion then
      (setEnable H o.disable (H.handle .significantMotion) 0 s).2
    else s
  let s := calculateRv4thElement H id s
  s.readSlot H id

/-- The body of the loop of `readEvents` for the record `r`: the event it writes to
`*data`, if any. -/
def dispatchEvent (o : IterOutcome) (r : Record) (s : CwMcuSensor) :
    Option SensorsEvent × CwMcuSensor :=
  let (id, s) := processEvent H o.process r s
  if id = H.metaData then (some s.mPendingEventsFlush, s) else
  let s := s.stampSlot H id o.stamp
  let (enabled, s) := s.enabledBit id
  if enabled then
    let (e, s) := dispatchEnabled H o id s
    (some e, s)
  else (none, s)

/-- `while (count && mInputReader.readEvent(&event)) { ...; mInputReader.next(); }`, over
the buffered records `q`: the events written and the records left. The `i`-th pass sees
the outcomes `io i`. -/
def readLoop (io : ℕ → IterOutcome) :
    List Record → ℕ → CwMcuSensor → List SensorsEvent × List Record × CwMcuSensor
  | [], _, s => ([], [], s)
  | r :: q, count, s =>
    if count = 0 then ([], r :: q, s) else
    match dispatchEvent H (io 0) r s with
    | (some e, s) =>
      let (evs, rest, s) := readLoop (fun i => io (i + 1)) q (count - 1) s
      (e :: evs, rest, s)
    | (none, s) => readLoop (fun i => io (i + 1)) q count s

/-- The outcomes of `readEvents`: the fill and each pass of the loop. -/
structure ReadOutcome where
  fill : FillOutcome
  iter : ℕ → IterOutcome

/-- What `readEvents` returns, the events it wrote to `data`, and the reader and the state
it leaves. -/
structure ReadResult where
  ret : ℤ
  events : List SensorsEvent
  reader : List Record
  state : CwMcuSensor

/-- `readEvents(data, count)`, with `reader` the records buffered in `mInputReader`. -/
def readEvents (o : ReadOutcome) (count : ℤ) (reader : List Record) (s : CwMcuSensor) :
    ReadResult :=
  if count < 1 then ⟨-EINVAL, [], reader, s⟩ else
  let (n, reader) := fill s.dataFd o.fill reader
  if n < 0 then ⟨n, [], reader, s⟩ else
  let (evs, reader, s) := readLoop H o.iter reader count.toNat s
  ⟨evs.length, evs, reader, s⟩

/-- The loop without a budget: every record of the list in turn. -/
def dispatchAll (io : ℕ → IterOutcome) : List Record → CwMcuSensor → List SensorsEvent × CwMcuSensor
  | [], s => ([], s)
  | r :: q, s =>
    let (ev, s) := dispatchEvent H (io 0) r s
    let (evs, s) := dispatchAll (fun i => io (i + 1)) q s
    (ev.toList ++ evs, s)

/-- The passes of the loop over `q`: each record, with the event its pass wrote and the
state it left. -/
def passes (io : ℕ → IterOutcome) :
    List Record → CwMcuSensor → List (Record × Option SensorsEvent × CwMcuSensor)
  | [], _ => []
  | r :: q, s =>
    (r, dispatchEvent H (io 0) r s) :: passes (fun i => io (i + 1)) q (dispatchEvent H (io 0) r s).2

/-- The passes a `readEvents(data, count)` call ran: those over the records it consumed. -/
def readEventsPasses (o : ReadOutcome) (count : ℤ) (reader : List Record) (s : CwMcuSensor) :
    List (Record × Option SensorsEvent × CwMcuSensor) :=
  if count < 1 then [] else
  let q := reader ++ o.fill.delivered s.dataFd
  passes H o.iter (q.take (q.length - (readEvents H o count reader s).reader.length)) s

/-- `readEvents` called once for each entry of `calls`, with its outcomes and its `count`:
the events of all the calls, and the reader and the state they leave. -/
def readEventsSeq : List (ReadOutcome × ℤ) → List Record → CwMcuSensor →
    List SensorsEvent × List Record × CwMcuSensor
  | [], reader, s => ([], reader, s)
  | (o, count) :: calls, reader, s =>
    let res := readEvents H o count reader s
    let (evs, reader, s) := readEventsSeq calls res.reader res.state
    (res.events ++ evs, reader, s)

/-! ### One pass of the loop -/

/-- `dispatchEvent` with the results of its calls taken apart. -/
theorem dispatchEvent_eq (o : IterOutcome) (r : Record) (s : CwMcuSensor) :
    dispatchEvent H o r s =
      let s1 := (processEvent H o.process r s).2
      let id := r.sensorsid
      if id = H.metaData then (some s1.mPendingEventsFlush, s1) else
      let s2 := { s1.stampSlot H id o.stamp with
        faults := logUnless (id < 32) (.shiftAmount id) (s1.stampSlot H id o.stamp).faults }
      if s1.mEnabled &&& 1#32 <<< (id % 32) != 0 then
        let s3 := if id = H.tag .significantMotion then
          (setEnable H o.disable (H.handle .significantMotion) 0 s2).2 else s2
        let s4 := calculateRv4thElement H id s3
        (some (s4.mPendingEvents id),
          { s4 with faults := logUnless (id < H.numSensors) (.tableIndex id) s4.faults })
      else (none, s2) := by
  rw [dispatchEvent, processEvent_eq_pair]; rfl

section Pass

variable (o : IterOutcome) (r : Record) (s : CwMcuSensor)

/-- **The event of a pass**: the flush event for a `CW_META_DATA` record; otherwise the
slot the record names, as the pass leaves it, when the test of `mEnabled` passes. -/
theorem dispatchEvent_fst :
    (dispatchEvent H o r s).1 =
      if r.sensorsid = H.metaData then some (processEvent H o.process r s).2.mPendingEventsFlush
      else if s.mEnabled &&& 1#32 <<< (r.sensorsid % 32) != 0 then
        some ((dispatchEvent H o r s).2.mPendingEvents r.sensorsid)
      else none := by
  rw [dispatchEvent_eq]; simp only [processEvent_mEnabled]; split_ifs <;> rfl

/-- A pass clears the significant-motion bit after an event of that kind, when the `open`
of `enable` in the nested `setEnable` succeeds, and changes `mEnabled` in no other way. -/
theorem dispatchEvent_mEnabled :
    (dispatchEvent H o r s).2.mEnabled =
      if r.sensorsid = H.tag .significantMotion ∧ s.mEnabled.getLsbD r.sensorsid = true ∧
          o.disable.enable.opened = true then
        setBit s.mEnabled (H.tag .significantMotion) 0
      else s.mEnabled := by
  rw [dispatchEvent_eq]
  by_cases hsm : r.sensorsid = H.tag .significantMotion
  · have hlt := H.tag_lt_32 .significantMotion
    have hne : H.tag .significantMotion ≠ H.metaData := H.tag_ne_metaData _
    simp only [hsm, hne, if_false, processEvent_mEnabled, Nat.mod_eq_of_lt hlt,
      and_shiftLeft_ne_zero hlt, if_true, true_and]
    cases s.mEnabled.getLsbD (H.tag .significantMotion) <;>
      simp [setEnable_eq, calculateRv4thElement, stampSlot, uint32_tag_lt]
  · simp only [hsm, false_and, if_false]
    split_ifs <;> simp [calculateRv4thElement, stampSlot]

/-- The fields `processEvent` writes and the rest of a pass leaves alone. -/
theorem dispatchEvent_snd_of_processEvent :
    let s' := (dispatchEvent H o r s).2
    let s1 := (processEvent H o.process r s).2
    s'.mPendingMask = s1.mPendingMask ∧ s'.lTimestamp = s1.lTimestamp ∧
      s'.gTimestamp = s1.gTimestamp ∧ s'.mPendingEventsFlush = s1.mPendingEventsFlush := by
  rw [dispatchEvent_eq]; dsimp only
  split_ifs <;> simp [setEnable_eq, calculateRv4thElement, stampSlot, uint32_tag_lt]

@[simp] theorem dispatchEvent_dataFd : (dispatchEvent H o r s).2.dataFd = s.dataFd := by
  rw [dispatchEvent_eq]; dsimp only; split_ifs <;> simp

/-- A pass only ever clears a bit of `mEnabled`. -/
theorem dispatchEvent_getLsbD_mEnabled {i : ℕ}
    (hi : (dispatchEvent H o r s).2.mEnabled.getLsbD i = true) : s.mEnabled.getLsbD i = true := by
  rw [dispatchEvent_mEnabled] at hi
  split_ifs at hi
  · rw [getLsbD_setBit (H.tag_lt_32 _) (Nat.zero_le _)] at hi
    split_ifs at hi <;> simp_all
  · exact hi

/-- From a free mutex, the end of a pass for an enabled kind leaves it free and logs no
fault of the lock discipline. -/
theorem dispatchEnabled_appendsClean (id : ℕ) (hs : s.sysFsMutex = false) :
    AppendsClean s (dispatchEnabled H o id s).2 := by
  have hset : AppendsClean s
      (if id = H.tag .significantMotion then
        (setEnable H o.disable (H.handle .significantMotion) 0 s).2 else s) := by
    split
    · obtain ⟨n, hn⟩ := setEnable_faults H o.disable (H.handle .significantMotion) 0 s
      exact appendsClean_pathFaults (setEnable_sysFsMutex ..) (by simpa [hs] using hn)
    · exact .refl hs
  exact hset.trans (appendsClean_logUnless hset.1 rfl rfl)

/-- **A pass keeps the lock discipline.** From a free mutex, a pass leaves it free and logs
no fault of the lock discipline; a tag past the table is logged as an index out of it. -/
theorem dispatchEvent_mutex (hs : s.sysFsMutex = false) :
    AppendsClean s (dispatchEvent H o r s).2 ∧
      (H.numSensors ≤ r.sensorsid → Fault.tableIndex r.sensorsid ∈ (dispatchEvent H o r s).2.faults) := by
  obtain ⟨hm, hf⟩ := processEvent_mutex H o.process r hs
  have hT : logUnless (r.sensorsid < H.numSensors) (.tableIndex r.sensorsid) s.faults =
      s.faults ++ logUnless (r.sensorsid < H.numSensors) (.tableIndex r.sensorsid) [] := by
    simpa using logUnless_append _ _ s.faults []
  have h1 : AppendsClean s (processEvent H o.process r s).2 :=
    ⟨hm, _, by rw [hf, hT, List.append_assoc], fun f h => by
      rcases List.mem_append.mp h with h | h
      · cases hlt : decide (r.sensorsid < H.numSensors) <;> simp_all [logUnless, Fault.isMutex]
      · exact processFaults_isMutex H h⟩
  have hin : H.numSensors ≤ r.sensorsid →
      Fault.tableIndex r.sensorsid ∈ (processEvent H o.process r s).2.faults := fun h => by
    simp [hf, mem_logUnless, h]
  -- past `processEvent`: the stamp of the slot and the test of the mask log an index and a
  -- shift, and the end of the pass for an enabled kind no fault of the lock discipline
  have hrest : AppendsClean (processEvent H o.process r s).2 (dispatchEvent H o r s).2 := by
    have h2 : AppendsClean (processEvent H o.process r s).2 (((processEvent H o.process r s).2.stampSlot
        H r.sensorsid o.stamp).enabledBit r.sensorsid).2 :=
      (appendsClean_logUnless (t := (processEvent H o.process r s).2.stampSlot H r.sensorsid o.stamp)
        hm rfl rfl).trans (appendsClean_logUnless hm rfl rfl)
    rw [dispatchEvent, processEvent_eq_pair]; dsimp only
    split_ifs
    · exact .refl hm
    · exact h2.trans (dispatchEnabled_appendsClean H o _ _ h2.1)
    · exact h2
  exact ⟨h1.trans hrest, fun h => hrest.mem (hin h)⟩

end Pass

/-! ### The loop is a pass over a prefix -/

@[simp] theorem dispatchAll_nil (io : ℕ → IterOutcome) (s : CwMcuSensor) :
    dispatchAll H io [] s = ([], s) := rfl

theorem dispatchAll_cons (io : ℕ → IterOutcome) (r : Record) (q : List Record)
    (s : CwMcuSensor) :
    dispatchAll H io (r :: q) s =
      ((dispatchEvent H (io 0) r s).1.toList ++
        (dispatchAll H (fun i => io (i + 1)) q (dispatchEvent H (io 0) r s).2).1,
       (dispatchAll H (fun i => io (i + 1)) q (dispatchEvent H (io 0) r s).2).2) := rfl

@[simp] theorem dispatchAll_dataFd (io : ℕ → IterOutcome) (q : List Record) (s : CwMcuSensor) :
    (dispatchAll H io q s).2.dataFd = s.dataFd := by
  induction q generalizing io s with
  | nil => rfl
  | cons r q ih => rw [dispatchAll_cons, ih, dispatchEvent_dataFd]

/-- A pass reads the outcomes of its own passes only. -/
theorem dispatchAll_congr {io io' : ℕ → IterOutcome} {q : List Record}
    (h : ∀ i < q.length, io i = io' i) (s : CwMcuSensor) :
    dispatchAll H io q s = dispatchAll H io' q s := by
  induction q generalizing io io' s with
  | nil => rfl
  | cons r q ih =>
    have h0 : io 0 = io' 0 := h 0 (by simp)
    rw [dispatchAll_cons, dispatchAll_cons, h0,
      ih (fun i hi => h (i + 1) (by simp; omega))]

/-- A pass over `p ++ q` is a pass over `p`, then over `q` with the outcomes that follow. -/
theorem dispatchAll_append (io : ℕ → IterOutcome) (p q : List Record) (s : CwMcuSensor) :
    dispatchAll H io (p ++ q) s =
      ((dispatchAll H io p s).1 ++
          (dispatchAll H (fun i => io (i + p.length)) q (dispatchAll H io p s).2).1,
        (dispatchAll H (fun i => io (i + p.length)) q (dispatchAll H io p s).2).2) := by
  induction p generalizing io s with
  | nil => rfl
  | cons r p ih =>
    simp only [List.cons_append, dispatchAll_cons, ih, List.append_assoc, List.length_cons]
    simp only [Nat.add_right_comm _ 1, Nat.add_assoc]

theorem readLoop_cons_pos (io : ℕ → IterOutcome) (r : Record) (q : List Record) {count : ℕ}
    (hc : count ≠ 0) (s : CwMcuSensor) :
    readLoop H io (r :: q) count s =
      match dispatchEvent H (io 0) r s with
      | (some e, s) =>
        let (evs, rest, s) := readLoop H (fun i => io (i + 1)) q (count - 1) s
        (e :: evs, rest, s)
      | (none, s) => readLoop H (fun i => io (i + 1)) q count s := by
  simp [readLoop, hc]

/-- No proper prefix of `r :: pre` yields `count` events, when none of `pre` yields the
`n` that remain after the pass over `r`. -/
theorem dispatchAll_prefix_cons {io : ℕ → IterOutcome} {r : Record} {s : CwMcuSensor}
    {pre : List Record} {n count : ℕ} (hc : count ≠ 0)
    (hp : ∀ p, p <+: pre → p ≠ pre →
      (dispatchAll H (fun i => io (i + 1)) p (dispatchEvent H (io 0) r s).2).1.length < n)
    (hn : (dispatchEvent H (io 0) r s).1.toList.length + n = count) :
    ∀ p, p <+: r :: pre → p ≠ r :: pre → (dispatchAll H io p s).1.length < count := by
  intro p hpre hne
  rcases List.prefix_cons_iff.mp hpre with rfl | ⟨t, rfl, ht⟩
  · simp; omega
  · have := hp t ht (by simpa using hne)
    rw [dispatchAll_cons, List.length_append]
    omega

/-- **The loop is a pass over a prefix.** `readLoop` over the buffered records `q` runs
`dispatchAll` over a prefix `pre` of `q` and leaves the rest; `pre` yields at most `count`
events, all of `q` is consumed when it yields fewer, and no shorter prefix yields
`count`. -/
theorem readLoop_spec (io : ℕ → IterOutcome) (q : List Record) (count : ℕ) (s : CwMcuSensor) :
    ∃ pre suf, q = pre ++ suf ∧
      readLoop H io q count s = ((dispatchAll H io pre s).1, suf, (dispatchAll H io pre s).2) ∧
      (dispatchAll H io pre s).1.length ≤ count ∧
      ((dispatchAll H io pre s).1.length < count → suf = []) ∧
      ∀ p, p <+: pre → p ≠ pre → (dispatchAll H io p s).1.length < count := by
  induction q generalizing io count s with
  | nil => exact ⟨[], [], rfl, rfl, by simp, fun _ => rfl, by simp⟩
  | cons r q ih =>
    by_cases hc : count = 0
    · subst hc
      exact ⟨[], r :: q, rfl, by simp [readLoop], le_refl _, by simp, by simp⟩
    rw [readLoop_cons_pos H io r q hc]
    rcases hd : dispatchEvent H (io 0) r s with ⟨_ | e, s1⟩
    · obtain ⟨pre, suf, rfl, hl, hle, hlt, hp⟩ := ih (fun i => io (i + 1)) count s1
      refine ⟨r :: pre, suf, rfl, ?_, ?_, ?_, ?_⟩
      · simp [hl, dispatchAll_cons, hd]
      · simpa [dispatchAll_cons, hd] using hle
      · simpa [dispatchAll_cons, hd] using hlt
      · exact dispatchAll_prefix_cons H hc (by rwa [hd]) (by simp [hd])
    · obtain ⟨pre, suf, rfl, hl, hle, hlt, hp⟩ := ih (fun i => io (i + 1)) (count - 1) s1
      refine ⟨r :: pre, suf, rfl, ?_, ?_, ?_, ?_⟩
      · simp [hl, dispatchAll_cons, hd]
      · simp [dispatchAll_cons, hd]; omega
      · simp [dispatchAll_cons, hd]; intro h; exact hlt (by omega)
      · exact dispatchAll_prefix_cons H hc (by rwa [hd]) (by simp [hd]; omega)

/-- From a free mutex, the loop leaves it free and logs no fault of the lock discipline. -/
theorem dispatchAll_mutex (io : ℕ → IterOutcome) (q : List Record) {s : CwMcuSensor}
    (hs : s.sysFsMutex = false) : AppendsClean s (dispatchAll H io q s).2 := by
  induction q generalizing io s with
  | nil => exact .refl hs
  | cons r q ih =>
    have h1 := (dispatchEvent_mutex H (io 0) r s hs).1
    exact h1.trans (ih (fun i => io (i + 1)) h1.1)

/-- The loop only ever clears a bit of `mEnabled`. -/
theorem dispatchAll_getLsbD_mEnabled (io : ℕ → IterOutcome) (q : List Record) {s : CwMcuSensor}
    {i : ℕ} (hi : (dispatchAll H io q s).2.mEnabled.getLsbD i = true) :
    s.mEnabled.getLsbD i = true := by
  induction q generalizing io s with
  | nil => exact hi
  | cons r q ih => exact dispatchEvent_getLsbD_mEnabled H (io 0) r s (ih (fun i => io (i + 1)) hi)

/-! ### `readEvents` -/

theorem readEvents_read (o : ReadOutcome) {count : ℤ} (hc : 1 ≤ count) {recs : List Record}
    (hf : o.fill = .read recs) (reader : List Record) {s : CwMcuSensor} (hd : s.dataFd = true) :
    readEvents H o count reader s =
      let l := readLoop H o.iter (reader ++ recs) count.toNat s
      ⟨l.1.length, l.1, l.2.1, l.2.2⟩ := by
  have hn : ¬ (recs.length : ℤ) < 0 := by omega
  simp [readEvents, fill, hf, hn, hd, show ¬ count < 1 by omega]

/-- On a driver whose data device did not open, the fill fails and `readEvents` returns its
error, writing nothing and leaving the reader and the driver as they were. -/
theorem readEvents_closed (o : ReadOutcome) {count : ℤ} (hc : 1 ≤ count) (reader : List Record)
    {s : CwMcuSensor} (hd : s.dataFd = false) :
    readEvents H o count reader s = ⟨-EBADF, [], reader, s⟩ := by
  simp [readEvents, fill, hd, EBADF, show ¬ count < 1 by omega]

/-- A call whose budget is at least one is a pass over a prefix of the records buffered
after its fill, leaving the rest in the reader. -/
theorem readEvents_pass (o : ReadOutcome) {count : ℤ} (hc : 1 ≤ count) (reader : List Record)
    (s : CwMcuSensor) :
    ∃ pre, reader ++ o.fill.delivered s.dataFd = pre ++ (readEvents H o count reader s).reader ∧
      ((readEvents H o count reader s).events, (readEvents H o count reader s).state) =
        dispatchAll H o.iter pre s := by
  cases hd : s.dataFd
  · rw [readEvents_closed H o hc reader hd]
    exact ⟨[], by simp [FillOutcome.delivered], rfl⟩
  rcases hf : o.fill with recs | ⟨err, neg⟩
  · obtain ⟨pre, suf, hq, hl, -⟩ := readLoop_spec H o.iter (reader ++ recs) count.toNat s
    rw [readEvents_read H o hc hf reader hd]
    simp only [hl]
    exact ⟨pre, by simp [FillOutcome.delivered, FillOutcome.records, hf, hq], rfl⟩
  · exact ⟨[], by simp [readEvents, fill, hf, hd, FillOutcome.delivered, FillOutcome.records, neg,
      show ¬ count < 1 by omega], by simp [readEvents, fill, hf, hd, neg, show ¬ count < 1 by omega]⟩

/-- The state `readEvents` leaves is that of the loop over some of the buffered records. -/
theorem readEvents_state_eq (o : ReadOutcome) (count : ℤ) (reader : List Record)
    (s : CwMcuSensor) :
    ∃ pre, (readEvents H o count reader s).state = (dispatchAll H o.iter pre s).2 := by
  by_cases hc : count < 1
  · exact ⟨[], by simp [readEvents, hc]⟩
  · obtain ⟨pre, -, hd⟩ := readEvents_pass H o (show 1 ≤ count by omega) reader s
    exact ⟨pre, by rw [← hd]⟩

@[simp] theorem readEvents_dataFd (o : ReadOutcome) (count : ℤ) (reader : List Record)
    (s : CwMcuSensor) : (readEvents H o count reader s).state.dataFd = s.dataFd := by
  obtain ⟨pre, h⟩ := readEvents_state_eq H o count reader s
  rw [h, dispatchAll_dataFd]

theorem readEvents_passes (o : ReadOutcome) {count : ℤ} (hc : 1 ≤ count) (reader : List Record)
    (s : CwMcuSensor) :
    ∃ pre, readEventsPasses H o count reader s = passes H o.iter pre s ∧
      ((readEvents H o count reader s).events, (readEvents H o count reader s).state) =
        dispatchAll H o.iter pre s := by
  obtain ⟨pre, hq, hd⟩ := readEvents_pass H o hc reader s
  refine ⟨pre, ?_, hd⟩
  simp only [readEventsPasses, show ¬ count < 1 by omega, if_false, hq]
  simp

/-- What one `readEvents(data, count)` call does with the records `q` buffered after its
fill: a pass over a prefix of `q`, the rest left in the reader in order; as many events
returned as written, at most `count`; all of `q` consumed when fewer; and no shorter
prefix yielding `count` events. -/
def ConsumesShortestPrefix (o : ReadOutcome) (count : ℤ) (q : List Record) (s : CwMcuSensor)
    (res : ReadResult) : Prop :=
  ∃ pre, q = pre ++ res.reader ∧ (res.events, res.state) = dispatchAll H o.iter pre s ∧
    res.ret = res.events.length ∧ res.ret ≤ count ∧ (res.ret < count → res.reader = []) ∧
    ∀ p, p <+: pre → p ≠ pre → ((dispatchAll H o.iter p s).1.length : ℤ) < count

/-- What consecutive `readEvents` calls do together: one in-order pass over `processed`,
the records buffered or filled that they consumed, with the rest left in the reader. -/
def ProcessesInOrder (calls : List (ReadOutcome × ℤ)) (reader : List Record)
    (s : CwMcuSensor) : Prop :=
  ∃ processed io, processed ++ (readEventsSeq H calls reader s).2.1 =
      reader ++ calls.flatMap (fun c => c.1.fill.delivered s.dataFd) ∧
    ((readEventsSeq H calls reader s).1, (readEventsSeq H calls reader s).2.2) =
      dispatchAll H io processed s

theorem readEvents_consumesShortestPrefix (o : ReadOutcome) {count : ℤ} (hc : 1 ≤ count)
    {recs : List Record} (hf : o.fill = .read recs) (reader : List Record) {s : CwMcuSensor}
    (hd : s.dataFd = true) :
    ConsumesShortestPrefix H o count (reader ++ recs) s (readEvents H o count reader s) := by
  obtain ⟨pre, suf, hq, hl, hle, hlt, hp⟩ := readLoop_spec H o.iter (reader ++ recs) count.toNat s
  unfold ConsumesShortestPrefix
  rw [readEvents_read H o hc hf reader hd]
  simp only [hl]
  refine ⟨pre, hq, rfl, trivial, by omega, fun h => hlt (by omega), fun p h1 h2 => ?_⟩
  have := hp p h1 h2
  omega

theorem readEventsSeq_processesInOrder (calls : List (ReadOutcome × ℤ))
    (hc : ∀ c ∈ calls, 1 ≤ c.2) (reader : List Record) (s : CwMcuSensor) :
    ProcessesInOrder H calls reader s := by
  induction calls generalizing reader s with
  | nil => exact ⟨[], default, by simp [readEventsSeq], rfl⟩
  | cons c calls ih =>
    obtain ⟨o, count⟩ := c
    obtain ⟨pre, hq, hd⟩ := readEvents_pass H o (hc _ (.head _)) reader s
    obtain ⟨processed, io, hp, hr⟩ := ih (fun c h => hc c (.tail _ h))
      (readEvents H o count reader s).reader (readEvents H o count reader s).state
    refine ⟨pre ++ processed,
      fun i => if i < pre.length then o.iter i else io (i - pre.length), ?_, ?_⟩
    · simp only [readEventsSeq, List.flatMap_cons, List.append_assoc, readEvents_dataFd] at hp ⊢
      rw [hp, ← List.append_assoc, ← hq, List.append_assoc]
    · have hio : (fun i => if i + pre.length < pre.length then o.iter (i + pre.length)
          else io (i + pre.length - pre.length)) = io := by funext i; simp
      rw [dispatchAll_append, dispatchAll_congr H (fun i hi => if_pos hi) s, ← hd, hio, ← hr]
      rfl

/-- **Each buffered record is processed once, in arrival order.** On a driver whose data
device opened, a call with a budget of at least one whose fill succeeds consumes the
shortest prefix of the buffered records that yields `count` events, or all of them, and
returns the number of events it wrote; a sequence of such calls is one in-order pass over
the records they consumed, with the rest still buffered. (On a driver whose device did not
open, every fill fails and no record is ever delivered: `readEvents_closed`.) -/
theorem readEvents_consumes_buffered_in_order :
    (∀ (o : ReadOutcome) (count : ℤ) (reader recs : List Record) (s : CwMcuSensor),
      1 ≤ count → s.dataFd = true → o.fill = .read recs →
        ConsumesShortestPrefix H o count (reader ++ recs) s (readEvents H o count reader s)) ∧
    ∀ (calls : List (ReadOutcome × ℤ)) (reader : List Record) (s : CwMcuSensor),
      (∀ c ∈ calls, 1 ≤ c.2) → ProcessesInOrder H calls reader s :=
  ⟨fun o _ reader _ _ hc hd hf => readEvents_consumesShortestPrefix H o hc hf reader hd,
    fun calls reader s hc => readEventsSeq_processesInOrder H calls hc reader s⟩

/-- From the constructor's state, with the accelerometer on: a call with a budget of two
over three accelerometer records consumes two and leaves one, and a second call consumes
it. -/
theorem readEvents_consumes_buffered_in_order_two_of_three :
    let acc : Record := ⟨0, fun _ => 0, fun _ => 0, 0⟩
    let o : ReadOutcome := ⟨.read [acc, acc, acc], fun _ => default⟩
    let s := init Header.sample default .ok
    ConsumesShortestPrefix Header.sample o 2 ([] ++ [acc, acc, acc]) s
        (readEvents Header.sample o 2 [] s) ∧
      ProcessesInOrder Header.sample [(o, 2), (⟨.read [], fun _ => default⟩, 2)] [] s :=
  ⟨(readEvents_consumes_buffered_in_order Header.sample).1 _ 2 [] _ _ (by decide)
      (init_dataFd ..) rfl,
    (readEvents_consumes_buffered_in_order Header.sample).2 _ [] _ (by simp)⟩

end CwMcuSensor

end SensorHub
