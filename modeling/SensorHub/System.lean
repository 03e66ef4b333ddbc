import SensorHub.Dispatch

/-!
# The driver under its callers

The framework calls the driver from several threads: the control calls under
`sys_fs_mutex`, and `readEvents` alone on the dispatch thread. Here each call runs whole,
with no other thread inside it: a run is a sequence of calls (`Call`), each with the
outcomes of the I/O it performs, from the state the constructor leaves (`Reachable`). The
state is a `Hub`: the driver and the records buffered in its reader. `SensorHub.Threads`
splits the calls at the points where the dispatch thread can run inside a control call and
shows that a run of whole calls is one of its interleavings.

The lock discipline holds for every call from any state where the mutex is free
(`Call.step_mutex`), and the constructor leaves it free, so no reachable state holds it
(`Reachable.mutexFree`). Over the same runs:

* a record whose tag byte lies past the table makes `readEvents` write outside it
  (`readEvents_tableIndex_fault`);
* the flush-complete event names the handle `find_handle` gives for the record's
  `primary[0]` (`dispatchEvent_metaData`), and for the significant-motion sensor no handle
  at all (`dispatchEvent_metaData_significantMotion`);
* no call ever clears a bit of `mPendingMask` (`Call.step_mPendingMask`).
-/

namespace SensorHub

open CwMcuSensor

/-- The driver and the records buffered in `mInputReader`. -/
structure Hub where
  driver : CwMcuSensor
  reader : List Record

/-- A call of the framework on the driver, run whole, with the outcomes of the I/O it
performs. -/
inductive Call
  | setEnable (o : SetEnableOutcome) (handle en : ℤ)
  | setDelay (o : SysfsOutcome) (handle delayNs : ℤ)
  | batch (o : BatchOutcome) (handle flags periodNs timeout : ℤ)
  | flush (o : SysfsOutcome) (handle : ℤ)
  | syncTimestamp (o : SyncOutcome)
  | readEvents (o : ReadOutcome) (count : ℤ)

namespace Call

variable (H : Header)

/-- A call: what it returns, the events it writes, and the hub it leaves. -/
def step : Call → Hub → (ℤ × List SensorsEvent) × Hub
  | .setEnable o handle en, h =>
    let r := CwMcuSensor.setEnable H o handle en h.driver
    ((r.1, []), { h with driver := r.2 })
  | .setDelay o handle delayNs, h =>
    let r := CwMcuSensor.setDelay H o handle delayNs h.driver
    ((r.1, []), { h with driver := r.2 })
  | .batch o handle flags periodNs timeout, h =>
    let r := CwMcuSensor.batch H o handle flags periodNs timeout h.driver
    ((r.1, []), { h with driver := r.2 })
  | .flush o handle, h =>
    let r := CwMcuSensor.flush H o handle h.driver
    ((r.1, []), { h with driver := r.2 })
  | .syncTimestamp o, h =>
    let r := CwMcuSensor.syncTimestamp H o h.driver
    ((r.1, []), { h with driver := r.2 })
  | .readEvents o count, h =>
    let res := CwMcuSensor.readEvents H o count h.reader h.driver
    ((res.ret, res.events), ⟨res.state, res.reader⟩)

end Call

/-- The calls in order: what each returned, and the hub they leave. -/
def run (H : Header) : List Call → Hub → List (ℤ × List SensorsEvent) × Hub
  | [], h => ([], h)
  | c :: cs, h =>
    let r := c.step H h
    let rs := run H cs r.2
    (r.1 :: rs.1, rs.2)

/-- The passes of the loop a call ran: those of a `readEvents` call, none for the others. -/
def Call.passes (H : Header) : Call → Hub → List (Record × Option SensorsEvent × CwMcuSensor)
  | .readEvents o count, h => readEventsPasses H o count h.reader h.driver
  | _, _ => []

/-- The passes of the loop over a whole run, in order. -/
def runPasses (H : Header) : List Call → Hub → List (Record × Option SensorsEvent × CwMcuSensor)
  | [], _ => []
  | c :: cs, h => c.passes H h ++ runPasses H cs (c.step H h).2

/-- The hubs a run can reach from the constructor. -/
inductive Reachable (H : Header) : Hub → Prop
  | init (m : Memory) (o : InitOutcome) : Reachable H ⟨CwMcuSensor.init H m o, []⟩
  | step {h : Hub} (c : Call) : Reachable H h → Reachable H (c.step H h).2

/-- A property of hubs that every call keeps holds after every run. -/
theorem run_preserves (H : Header) {P : Hub → Prop} (hP : ∀ (c : Call) (h : Hub), P h → P (c.step H h).2) :
    ∀ (cs : List Call) {h : Hub}, P h → P (run H cs h).2
  | [], _, hh => hh
  | c :: cs, _, hh => run_preserves H hP cs (hP c _ hh)

/-! ### The lock discipline -/

section Mutex

variable (H : Header)

/-- The mutex is free and no fault of the lock discipline has been logged. -/
def MutexFree (s : CwMcuSensor) : Prop :=
  s.sysFsMutex = false ∧ ∀ f ∈ s.faults, f.isMutex = false

/-- From a free mutex, the loop of `readEvents` and its nested calls keep it. -/
theorem readEvents_mutex (o : ReadOutcome) (count : ℤ) (reader : List Record)
    {s : CwMcuSensor} (hs : s.sysFsMutex = false) :
    AppendsClean s (readEvents H o count reader s).state := by
  obtain ⟨pre, hst⟩ := readEvents_state_eq H o count reader s
  rw [hst]
  exact dispatchAll_mutex H o.iter pre hs

/-- **A call keeps the lock discipline.** From a state where the mutex is free, every call
with every argument and every I/O outcome returns with the mutex free, having neither
locked it while held nor unlocked it while free. -/
theorem Call.step_mutex (c : Call) {h : Hub} (hs : h.driver.sysFsMutex = false) :
    AppendsClean h.driver (c.step H h).2.driver := by
  cases c with
  | setEnable o handle en =>
    obtain ⟨n, hn⟩ := setEnable_faults H o handle en h.driver
    exact appendsClean_pathFaults (setEnable_sysFsMutex ..) (by simpa [Call.step, hs] using hn)
  | setDelay o handle delayNs =>
    obtain ⟨hm, n, hn⟩ := setDelay_mutex H o handle delayNs hs
    exact appendsClean_pathFaults hm hn
  | batch o handle flags periodNs timeout =>
    obtain ⟨hm, n, hn⟩ := batch_mutex H o handle flags periodNs timeout h.driver hs
    exact appendsClean_pathFaults hm hn
  | flush o handle =>
    obtain ⟨hm, n, hn⟩ := flush_mutex H o handle hs
    exact appendsClean_pathFaults hm hn
  | syncTimestamp o =>
    obtain ⟨hm, n, hn⟩ := syncTimestamp_mutex H o hs
    exact appendsClean_pathFaults hm hn
  | readEvents o count => exact readEvents_mutex H o count h.reader hs

/-- The constructor leaves the mutex free, every lock it takes released. -/
theorem init_mutexFree (m : Memory) (o : InitOutcome) : MutexFree (CwMcuSensor.init H m o) :=
  ⟨init_sysFsMutex H m o, by simp⟩

theorem MutexFree.step {h : Hub} (hs : MutexFree h.driver) (c : Call) :
    MutexFree (c.step H h).2.driver := by
  obtain ⟨hm, new, hf, hn⟩ := c.step_mutex H hs.1
  refine ⟨hm, fun f hf' => ?_⟩
  rw [hf] at hf'
  rcases List.mem_append.mp hf' with h | h
  · exact hs.2 f h
  · exact hn f h

theorem Reachable.mutexFree {h : Hub} (hr : Reachable H h) : MutexFree h.driver := by
  induction hr with
  | init m o => exact init_mutexFree H m o
  | step c _ ih => exact ih.step H c

/-- **The lock discipline.** The constructor, and every call with every argument and every
I/O outcome, the nested calls of `readEvents` included, start and end with the mutex free:
none locks it while holding it or unlocks it while not holding it. So no reachable state
holds it. -/
theorem sysFsMutex_free_on_every_path :
    (∀ m o, MutexFree (CwMcuSensor.init H m o)) ∧
    (∀ (c : Call) (h : Hub), h.driver.sysFsMutex = false →
      (c.step H h).2.driver.sysFsMutex = false ∧
        ∃ new, (c.step H h).2.driver.faults = h.driver.faults ++ new ∧
          ∀ f ∈ new, f.isMutex = false) ∧
    ∀ h, Reachable H h → MutexFree h.driver :=
  ⟨init_mutexFree H, fun c _ hs => c.step_mutex H hs, fun _ hr => hr.mutexFree H⟩

/-- From the constructor's state with the significant-motion sensor on, a `readEvents` call
over a `TIME_DIFF_EXHAUSTED` record carrying `EXHAUSTED_MAGIC` and a significant-motion
record runs both nested locked calls, `sync_timestamp` and the auto-disable, and returns with
the mutex free. -/
theorem sysFsMutex_free_after_nested_locks :
    let ok : SysfsOutcome := ⟨true, true, 0⟩
    let h : Hub := ((Call.setEnable ⟨false, ok, ok⟩ 13 1).step Header.sample
      ⟨CwMcuSensor.init Header.sample default .ok, []⟩).2
    let c := Call.readEvents ⟨.read [⟨97, fun _ => 0x77, fun _ => 0, 0⟩,
      ⟨20, fun _ => 0, fun _ => 0, 0⟩], fun _ => default⟩ 2
    ((c.step Header.sample h).2.driver.sysFsMutex = false ∧
      ∃ new, (c.step Header.sample h).2.driver.faults = h.driver.faults ++ new ∧
        ∀ f ∈ new, f.isMutex = false) ∧
    MutexFree (c.step Header.sample h).2.driver :=
  ⟨(sysFsMutex_free_on_every_path Header.sample).2.1 _ _ (by decide),
    (sysFsMutex_free_on_every_path Header.sample).2.2 _ (.step _ (.step _ (.init default .ok)))⟩

end Mutex

/-! ### Tags past the table -/

/-- A `readEvents` call from a reachable hub whose first record after the fill carries a
tag past the table logs that index as undefined behaviour: `processEvent` writes the
slot's timestamp before it looks at the tag. -/
theorem readEvents_tableIndex_fault {H : Header} {h : Hub} (hr : Reachable H h)
    (hd : h.driver.dataFd = true) (o : ReadOutcome) {count : ℤ} (hc : 1 ≤ count)
    {recs : List Record} (hf : o.fill = .read recs) {r : Record} {rest : List Record}
    (hq : h.reader ++ recs = r :: rest) (hn : H.numSensors ≤ r.sensorsid) :
    Fault.tableIndex r.sensorsid ∈ ((Call.readEvents o count).step H h).2.driver.faults := by
  obtain ⟨h1, hin⟩ := dispatchEvent_mutex H (o.iter 0) r h.driver (hr.mutexFree H).1
  -- the rest of the loop only appends to the log the first pass left
  have key : ∀ n io, Fault.tableIndex r.sensorsid ∈
      (readLoop H io rest n (dispatchEvent H (o.iter 0) r h.driver).2).2.2.faults := by
    intro n io
    obtain ⟨pre, suf, -, hl, -⟩ := readLoop_spec H io rest n (dispatchEvent H (o.iter 0) r h.driver).2
    rw [hl]; exact (dispatchAll_mutex H io pre h1.1).mem (hin hn)
  simp only [Call.step]
  rw [readEvents_read H o hc hf _ hd, hq, readLoop_cons_pos H _ r rest (by omega)]
  rcases hd' : dispatchEvent H (o.iter 0) r h.driver with ⟨_ | e, s1⟩ <;>
    simp only [hd'] at key <;> exact key _ _

/-- From the constructor's state, a record tagged `255` makes `readEvents` write the
timestamp of `mPendingEvents[255]` and evaluate `1 << 255`. -/
theorem readEvents_writes_past_table :
    let h : Hub := ⟨CwMcuSensor.init Header.sample default .ok, []⟩
    let h' := ((Call.readEvents ⟨.read [⟨255, fun _ => 0, fun _ => 0, 0⟩], fun _ => default⟩ 1).step
      Header.sample h).2
    Fault.tableIndex 255 ∈ h'.driver.faults ∧ Fault.shiftAmount 255 ∈ h'.driver.faults := by
  decide

/-! ### The flush-complete event -/

section Observations

variable (H : Header)

/-- A `CW_META_DATA` record makes its pass emit the flush-complete event, whatever the
masks hold, naming the handle `find_handle` gives for `primary[0]`. -/
theorem dispatchEvent_metaData {o : IterOutcome} {r : Record} (hr : r.sensorsid = H.metaData)
    (s : CwMcuSensor) :
    (dispatchEvent H o r s).1 =
      some (s.mPendingEventsFlush.setMeta H.flushComplete (H.findHandle (r.data 0).toInt)) := by
  rw [dispatchEvent_fst, if_pos hr, (processEvent_spec H o.process r s).2.2.2.1, hr,
    H.decodeTag_metaData, if_pos rfl]

/-- The flush event answering `flush` of the significant-motion handle names `0xFF`:
`find_handle` has no case for that sensor's tag. -/
theorem dispatchEvent_metaData_significantMotion {o : IterOutcome} {r : Record}
    (hr : r.sensorsid = H.metaData) (hd : (r.data 0).toInt = H.tag .significantMotion)
    (s : CwMcuSensor) :
    (dispatchEvent H o r s).1.map SensorsEvent.metaSensor = some 0xFF := by
  rw [dispatchEvent_metaData H hr, hd, H.findHandle_significantMotion]
  rfl

/-- From the constructor's state, `flush` of the significant-motion handle `13` sends its tag
`20`; the `CW_META_DATA` record answering it yields a flush event naming `0xFF`, not `13`. -/
theorem flush_of_significantMotion_answered_for_0xFF :
    let h : Hub := ((Call.flush ⟨true, true, 0⟩ 13).step Header.sample
      ⟨CwMcuSensor.init Header.sample default .ok, []⟩).2
    let r := (Call.readEvents ⟨.read [⟨99, fun _ => 20, fun _ => 0, 0⟩], fun _ => default⟩ 1).step
      Header.sample h
    Header.sample.findSensor 13 = 20 ∧ r.1.2.map SensorsEvent.metaSensor = [0xFF] := by
  decide

/-! ### The pending mask -/

/-- No pass clears a bit of `mPendingMask`. -/
theorem dispatchEvent_mPendingMask (o : IterOutcome) (r : Record) {s : CwMcuSensor} {i : ℕ}
    (hi : s.mPendingMask.getLsbD i = true) :
    (dispatchEvent H o r s).2.mPendingMask.getLsbD i = true := by
  rw [(dispatchEvent_snd_of_processEvent H o r s).1, (processEvent_spec H o.process r s).1]
  split <;> simp [hi]

theorem dispatchAll_mPendingMask (io : ℕ → IterOutcome) (q : List Record) {s : CwMcuSensor}
    {i : ℕ} (hi : s.mPendingMask.getLsbD i = true) :
    (dispatchAll H io q s).2.mPendingMask.getLsbD i = true := by
  induction q generalizing io s with
  | nil => exact hi
  | cons r q ih => exact ih (fun i => io (i + 1)) (dispatchEvent_mPendingMask H (io 0) r hi)

/-- No call clears a bit of `mPendingMask`: nothing in the driver ever does. -/
theorem Call.step_mPendingMask (c : Call) {h : Hub} {i : ℕ}
    (hi : h.driver.mPendingMask.getLsbD i = true) :
    (c.step H h).2.driver.mPendingMask.getLsbD i = true := by
  cases c with
  | setEnable o handle en => simpa [Call.step] using hi
  | setDelay o handle delayNs => simpa [Call.step] using hi
  | batch o handle flags periodNs timeout => simpa [Call.step] using hi
  | flush o handle => simpa [Call.step] using hi
  | syncTimestamp o => simpa [Call.step] using hi
  | readEvents o count =>
    obtain ⟨pre, hst⟩ := readEvents_state_eq H o count h.reader h.driver
    simp only [Call.step, hst]
    exact dispatchAll_mPendingMask H o.iter pre hi

/-- From the constructor's state, which switches the accelerometer on, a `readEvents` call
that consumes its one accelerometer record and delivers its event leaves
`hasPendingEvents()` true. -/
theorem pending_after_every_record_delivered :
    let r : (ℤ × List SensorsEvent) × Hub := (Call.readEvents ⟨.read [⟨0, fun _ => 0, fun _ => 0, 0⟩], fun _ => default⟩ 1).step
      Header.sample ⟨CwMcuSensor.init Header.sample default .ok, []⟩
    r.1.2.length = 1 ∧ r.2.reader.length = 0 ∧ hasPendingEvents r.2.driver = true := by
  decide

end Observations

end SensorHub
