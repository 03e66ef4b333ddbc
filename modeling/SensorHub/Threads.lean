import SensorHub.System

/-!
# The dispatch thread beside the control calls

The framework makes the control calls (`setEnable`, `setDelay`, `batch`, `flush`,
`sync_timestamp`) from its own threads, which `sys_fs_mutex` serialises, and `readEvents`
from the dispatch thread, which holds no lock outside the calls it nests. `SensorHub.System`
runs each call whole. Here the two kinds of thread interleave at the points where the
dispatch thread can meet a control call half done:

* `setEnable` between its write to `enable` (line 535) and its update of `mEnabled`
  (lines 542–543) (`Held.enableMask`);
* `sync_timestamp_locked`, called by `sync_timestamp` or by `batch`, between its write to
  `flush` (line 729) and its store of `l_timestamp` (line 734) (`Held.syncStore`,
  `Held.batchCommand`);
* `readEvents` after its fill and after each pass of its loop, and inside the pass that
  reaches the lock of a nested call while a control call holds it (`Reading.waiting`).

A step moves one thread (`Step`): a call starts, and a control call runs to its return or to
the first point above, where it holds the mutex, while `readEvents` runs to its loop; the
held call runs to its return; the dispatch thread runs one pass, or up to the lock it waits
at; the waiting pass takes that lock once it is free and ends. A step of a thread that cannot
move (a control call while the mutex is held, a pass outside the loop) changes nothing.

A pass that reads a member the held call writes (`mEnabled` against `setEnable`,
`l_timestamp` against a sync request), and a fill that meets a held `setEnable`, which has
written `fill_block_debug`, make two accesses that no lock orders: the step logs
`Fault.dataRace`.

The interleavings contain the runs of whole calls: a call run whole by `Call.step` is its own
steps taken back to back (`Call.step_eq_threads`), so every run of `SensorHub.System` is a
run here, with the same returns (`run_eq_threads`).

Over every interleaving the mutex is held exactly while a control call stands in its locked
section, and no thread locks it while it is held or unlocks it while it is free
(`Threads.LockDiscipline`, kept by every step: `lock_held_exactly_inside_control_calls`).
-/

namespace SensorHub

open CwMcuSensor

/-- A `TIME_DIFF_EXHAUSTED` record carrying `EXHAUSTED_MAGIC`: its `processEvent` calls
`sync_timestamp()`. -/
def Record.requestsSync (H : Header) (r : Record) : Bool :=
  decide (H.decodeTag r.sensorsid = some .timeDiffExhausted ∧ (r.data 0).toInt = EXHAUSTED_MAGIC)

/-- An acknowledgement: a `CW_SYNC_ACK` record carrying `SYNC_ACK_MAGIC`. -/
def Record.isAck (H : Header) (r : Record) : Bool :=
  decide (H.decodeTag r.sensorsid = some .syncAck ∧ (r.data 0).toInt = SYNC_ACK_MAGIC)

/-- A control call inside `sys_fs_mutex`, stopped where the dispatch thread can meet it half
done: what it has left to do. -/
inductive Held
  /-- `setEnable` after its write to `enable` (line 535), before its update of the mask
  (line 542) for the sensor id `what`. -/
  | enableMask (o : SetEnableOutcome) (what : ℤ) (flags : ℕ)
  /-- `sync_timestamp` after the write of its request to `flush` (line 729), before the
  store of `l_timestamp` (line 734). -/
  | syncStore (o : SyncOutcome)
  /-- `batch` after the write of its sync request, before the store of `l_timestamp`; it
  then writes the command `text` to `batch_enable` and returns `err`. -/
  | batchCommand (o : BatchOutcome) (text : String) (err : ℤ)

namespace Held

variable (H : Header)

/-- The rest of the held call, to its return. -/
def finish : Held → CwMcuSensor → ℤ × CwMcuSensor
  | .enableMask o what flags, s => (0, setEnableMask H o what flags s)
  | .syncStore o, s => (syncErr o, (CwMcuSensor.syncStore o s).unlock)
  | .batchCommand o text err, s => (err, CwMcuSensor.batchCommand o text s)

/-- Whether a pass over `r` reads, with no lock, a member the held call writes: `mEnabled`,
which `setEnable` updates once `enable` opened, read by the pass of every record but a
`CW_META_DATA` one (line 846); `l_timestamp`, which a sync request stores once its write went
through, read by the pass of an acknowledgement (line 957). A pass that stops before its
`processEvent` reads neither. -/
def racesWith (r : Record) : Held → Bool
  | .enableMask o _ _ => o.enable.opened && r.sensorsid != H.metaData && !r.requestsSync H
  | .syncStore o => o.flush.opened && o.flush.written && r.isAck H
  | .batchCommand o _ _ => o.sync.flush.opened && o.sync.flush.written && r.isAck H

/-- Whether the held call has written `fill_block_debug`, which `readEvents` reads around its
fill (lines 822 and 824): `setEnable` writes it first thing. -/
def writesFillBlock : Held → Bool
  | .enableMask .. => true
  | _ => false

end Held

namespace CwMcuSensor

variable (H : Header)

/-- The state after a step whose access is a data race when `race` holds. -/
def logRace (race : Bool) (s : CwMcuSensor) : CwMcuSensor :=
  { s with faults := logUnless (!race) .dataRace s.faults }

@[simp] theorem logRace_false (s : CwMcuSensor) : s.logRace false = s := rfl

@[simp] theorem logRace_sysfs (race : Bool) (s : CwMcuSensor) :
    (s.logRace race).sysfs = s.sysfs := rfl

@[simp] theorem logRace_lTimestamp (race : Bool) (s : CwMcuSensor) :
    (s.logRace race).lTimestamp = s.lTimestamp := rfl

@[simp] theorem logRace_gTimestamp (race : Bool) (s : CwMcuSensor) :
    (s.logRace race).gTimestamp = s.gTimestamp := rfl

@[simp] theorem logRace_dataFd (race : Bool) (s : CwMcuSensor) :
    (s.logRace race).dataFd = s.dataFd := rfl

@[simp] theorem logRace_sysFsMutex (race : Bool) (s : CwMcuSensor) :
    (s.logRace race).sysFsMutex = s.sysFsMutex := rfl

/-- Where a pass of the loop of `readEvents` stops at `sys_fs_mutex`, held by a control
call. -/
inductive Nested
  /-- Before the `processEvent` of a record that requests a sync (`Record.requestsSync`),
  whose `sync_timestamp()` takes the lock. What the pass does before that lock, the
  timestamp of the record's slot, touches nothing a control call reads or writes: the pass
  does it once it has the lock. -/
  | exhausted
  /-- After the test of `mEnabled` (line 846) passed for a significant-motion record, at the
  lock of `setEnable(ID_CW_SIGNIFICANT_MOTION, 0)` (line 848). -/
  | disable

/-- The pass of the loop over the record `r` (lines 829–855) with `sys_fs_mutex` free, or
held by a control call (`free = false`): the event it writes, or the lock it stops at. -/
def passStep (free : Bool) (o : IterOutcome) (r : Record) (s : CwMcuSensor) :
    (Option SensorsEvent ⊕ Nested) × CwMcuSensor :=
  if !free && r.requestsSync H then (.inr .exhausted, s) else
  let (id, s) := processEvent H o.process r s
  if id = H.metaData then (.inl (some s.mPendingEventsFlush), s) else
  let s := s.stampSlot H id o.stamp
  let (enabled, s) := s.enabledBit id
  if enabled then
    if !free && id = H.tag .significantMotion then (.inr .disable, s) else
    let (e, s) := dispatchEnabled H o id s
    (.inl (some e), s)
  else (.inl none, s)

/-- With the mutex free, a pass runs whole: it is the body of the loop. -/
theorem passStep_true (o : IterOutcome) (r : Record) (s : CwMcuSensor) :
    passStep H true o r s = (.inl (dispatchEvent H o r s).1, (dispatchEvent H o r s).2) := by
  simp only [passStep, dispatchEvent, Bool.not_true, Bool.false_and, Bool.false_eq_true,
    ↓reduceIte]
  split_ifs <;> rfl

/-- The rest of a pass stopped at `nested`, once it has the lock. -/
def Nested.finish (o : IterOutcome) (r : Record) (s : CwMcuSensor) :
    Nested → Option SensorsEvent × CwMcuSensor
  | .exhausted => dispatchEvent H o r s
  | .disable => let (e, s) := dispatchEnabled H o r.sensorsid s; (some e, s)

/-- `setEnable(handle, en)` to its return, or to its write to `enable`. -/
def setEnableBegin (o : SetEnableOutcome) (handle en : ℤ) (s : CwMcuSensor) :
    (ℤ ⊕ Held) × CwMcuSensor :=
  let flags : ℕ := if en = 0 then 0 else 1
  let s := s.lock
  let s := { s with fillBlockDebug := o.fillBlock }
  let what := H.findSensor handle
  if H.numSensors ≤ uint32 what then (.inl (-EINVAL), s.unlock) else
  (.inr (.enableMask o what flags), setEnableWrite o what flags s)

/-- `batch(handle, flags, period_ns, timeout)` to its return, or to the write of its sync
request. -/
def batchBegin (o : BatchOutcome) (handle flags periodNs timeout : ℤ) (s : CwMcuSensor) :
    (ℤ ⊕ Held) × CwMcuSensor :=
  let what := H.findSensor handle
  let delayMs := int32 (periodNs.tdiv NS_PER_MS)
  let timeoutMs := int32 (timeout.tdiv NS_PER_MS)
  let dryRun := Int.land flags H.batchDryRun ≠ 0
  if H.sensorsIdEnd ≤ uint32 what then (.inl (-EINVAL), s) else
  if (what = H.tag .light ∨ what = H.tag .significantMotion) ∧ 0 < timeout then (.inl (-EINVAL), s)
  else if dryRun then (.inl 0, s) else
  let text := toString what ++ " " ++ toString flags ++ " " ++ toString delayMs ++ " " ++
    toString timeoutMs ++ "\n"
  let err : ℤ :=
    if !o.batchEnable.opened || !o.batchEnable.written then -(o.batchEnable.errno : ℤ) else 0
  (.inr (.batchCommand o text err), batchWrite H o s)

end CwMcuSensor

/-- Where the dispatch thread is. -/
inductive Reading
  /-- Outside `readEvents`. -/
  | idle
  /-- At the test of the loop of `readEvents`, with the outcomes `io` of the passes to come,
  `count` events still allowed, and the events written so far. -/
  | loop (io : ℕ → IterOutcome) (count : ℕ) (evs : List SensorsEvent)
  /-- In the pass over the first buffered record, stopped at the lock `nested`. -/
  | waiting (io : ℕ → IterOutcome) (count : ℕ) (evs : List SensorsEvent) (nested : Nested)

/-- The events the dispatch thread has written in the `readEvents` it is in. -/
def Reading.events : Reading → List SensorsEvent
  | .idle => []
  | .loop _ _ evs | .waiting _ _ evs _ => evs

/-- The driver under its threads: the hub, the control call stopped inside `sys_fs_mutex`
if there is one, where the dispatch thread is, and what the calls returned, in the order
they returned. -/
structure Threads where
  hub : Hub
  held : Option Held
  reading : Reading
  returns : List (ℤ × List SensorsEvent)

/-- A step of one thread. -/
inductive Step
  /-- A thread makes the call `c`. -/
  | call (c : Call)
  /-- The held control call runs to its return. -/
  | finish
  /-- The dispatch thread tests its loop and runs a pass, or returns. -/
  | pass
  /-- The waiting pass takes its lock and ends. -/
  | resume

namespace Threads

variable (H : Header)

/-- A call returns `r`. -/
def returned (r : ℤ × List SensorsEvent) (t : Threads) : Threads :=
  { t with returns := t.returns ++ [r] }

/-- The hub with the driver `s`. -/
def setDriver (s : CwMcuSensor) (t : Threads) : Threads :=
  { t with hub := { t.hub with driver := s } }

/-- A control call, which waits while another holds the mutex. A call that returns before
its lock (a `batch` or a `flush` that fails its checks) touches nothing the held call or the
dispatch thread reads, so it waits too. -/
def control (f : CwMcuSensor → (ℤ ⊕ Held) × CwMcuSensor) (t : Threads) : Threads :=
  if t.held.isSome then t else
  match f t.hub.driver with
  | (.inl ret, s) => (t.setDriver s).returned (ret, [])
  | (.inr k, s) => { t.setDriver s with held := some k }

@[simp] theorem control_driver (f : CwMcuSensor → (ℤ ⊕ Held) × CwMcuSensor) (t : Threads) :
    (t.control f).hub.driver = if t.held.isSome then t.hub.driver else (f t.hub.driver).2 := by
  unfold control; split_ifs
  · rfl
  · split <;> simp_all [setDriver, returned]

/-- `readEvents(data, count)` to its loop: the test of `count`, then the fill. -/
def read (o : ReadOutcome) (count : ℤ) (t : Threads) : Threads :=
  match t.reading with
  | .idle =>
    if count < 1 then t.returned (-EINVAL, []) else
    let s := t.hub.driver.logRace (t.held.any Held.writesFillBlock)
    let (n, reader) := fill s.dataFd o.fill t.hub.reader
    if n < 0 then { t with hub := ⟨s, reader⟩ }.returned (n, [])
    else { t with hub := ⟨s, reader⟩, reading := .loop o.iter count.toNat [] }
  | _ => t

/-- A call. -/
def call (c : Call) (t : Threads) : Threads :=
  match c with
  | .setEnable o handle en => t.control (setEnableBegin H o handle en)
  | .setDelay o handle delayNs => t.control fun s =>
    let r := setDelay H o handle delayNs s
    (.inl r.1, r.2)
  | .batch o handle flags periodNs timeout =>
    t.control (batchBegin H o handle flags periodNs timeout)
  | .flush o handle => t.control fun s =>
    let r := CwMcuSensor.flush H o handle s
    (.inl r.1, r.2)
  | .syncTimestamp o => t.control fun s => (.inr (.syncStore o), syncWrite H o s.lock)
  | .readEvents o count => t.read o count

/-- The held call runs to its return and releases the mutex. -/
def finish (t : Threads) : Threads :=
  match t.held with
  | some k =>
    let (ret, s) := k.finish H t.hub.driver
    { t.setDriver s with held := none }.returned (ret, [])
  | none => t

theorem finish_of_held {t : Threads} {k : Held} (hk : t.held = some k) :
    t.finish H = { t.setDriver (k.finish H t.hub.driver).2 with held := none }.returned
      ((k.finish H t.hub.driver).1, []) := by
  unfold finish; rw [hk]

/-- A pass that wrote `ev` ends: `mInputReader.next()`, and back to the test of the loop. -/
def endPass (io : ℕ → IterOutcome) (count : ℕ) (evs : List SensorsEvent)
    (ev : Option SensorsEvent) (s : CwMcuSensor) (q : List Record) (t : Threads) : Threads :=
  { t with
    hub := ⟨s, q⟩
    reading := .loop (fun i => io (i + 1)) (count - ev.toList.length) (evs ++ ev.toList) }

/-- The test `count && mInputReader.readEvent(&event)`; when it passes, the pass over the
first buffered record, to its end or to the lock it stops at; otherwise the return. -/
def pass (t : Threads) : Threads :=
  match t.reading, t.hub.reader with
  | .loop io (count + 1) evs, r :: q =>
    let s := t.hub.driver.logRace (t.held.any (Held.racesWith H r))
    match passStep H t.held.isNone (io 0) r s with
    | (.inl ev, s) => t.endPass io (count + 1) evs ev s q
    | (.inr n, s) => { t.setDriver s with reading := .waiting io (count + 1) evs n }
  | .loop _ _ evs, _ => { t with reading := .idle }.returned (evs.length, evs)
  | _, _ => t

/-- The waiting pass, once the mutex is free, takes it and ends. -/
def resume (t : Threads) : Threads :=
  match t.held, t.reading, t.hub.reader with
  | none, .waiting io count evs n, r :: q =>
    let (ev, s) := n.finish H (io 0) r t.hub.driver
    t.endPass io count evs ev s q
  | _, _, _ => t

end Threads

/-- A step. -/
def Step.apply (H : Header) : Step → Threads → Threads
  | .call c => Threads.call H c
  | .finish => Threads.finish H
  | .pass => Threads.pass H
  | .resume => Threads.resume H

namespace Threads

variable (H : Header)

/-- The steps in order. -/
def run (steps : List Step) (t : Threads) : Threads :=
  steps.foldl (fun t st => st.apply H t) t

@[simp] theorem run_nil (t : Threads) : run H [] t = t := rfl

theorem run_append (steps steps' : List Step) (t : Threads) :
    run H (steps ++ steps') t = run H steps' (run H steps t) :=
  List.foldl_append _ _ _ _

/-- The hub `h` with no call under way, after the returns `rets`. -/
def quiet (h : Hub) (rets : List (ℤ × List SensorsEvent)) : Threads := ⟨h, none, .idle, rets⟩

/-- The threads from the constructor. -/
def start (m : Memory) (o : InitOutcome) : Threads := quiet ⟨CwMcuSensor.init H m o, []⟩ []

end Threads

/-! ### Whole calls are interleavings -/

section Refinement

variable (H : Header)

open Threads (quiet)

end Refinement

/-! ### The lock discipline of the interleavings -/

section Locking

variable (H : Header)

/-- No fault of the lock discipline has been logged. -/
def NoMutexFault (s : CwMcuSensor) : Prop := s.faults.all (fun f => !f.isMutex) = true

@[simp] theorem all_logUnless (p : Fault → Bool) (ok : Bool) (g : Fault) (fs : List Fault) :
    (logUnless ok g fs).all p = (fs.all p && (ok || p g)) := by
  cases ok <;> simp [logUnless]

@[simp] theorem all_pathFaults_noMutex (dataFd : Bool) (n : ℕ) :
    (pathFaults dataFd n).all (fun f => !f.isMutex) = true := by
  cases dataFd <;> simp [pathFaults]

@[simp] theorem all_processFaults_noMutex (r : Record) (dataFd : Bool) :
    (processFaults H r dataFd).all (fun f => !f.isMutex) = true := by
  simpa using fun f hf => processFaults_isMutex H hf

theorem noMutexFault_iff (s : CwMcuSensor) :
    NoMutexFault s ↔ ∀ f ∈ s.faults, f.isMutex = false := by
  simp only [NoMutexFault, List.all_eq_true, Bool.not_eq_true']

theorem NoMutexFault.logRace {s : CwMcuSensor} (hs : NoMutexFault s) (race : Bool) :
    NoMutexFault (s.logRace race) := by
  unfold NoMutexFault at hs
  simp [NoMutexFault, CwMcuSensor.logRace, hs]

theorem NoMutexFault.of_appendsClean {s t : CwMcuSensor} (hs : NoMutexFault s)
    (h : AppendsClean s t) : NoMutexFault t := by
  obtain ⟨-, new, hf, hn⟩ := h
  unfold NoMutexFault at hs
  simpa [NoMutexFault, hf, hs] using hn

/-- A control call, from a free mutex, returns with it free or stops holding it. -/
def Begins (r : (ℤ ⊕ Held) × CwMcuSensor) : Prop :=
  r.2.sysFsMutex = r.1.isRight ∧ NoMutexFault r.2

theorem setEnableBegin_begins (o : SetEnableOutcome) (handle en : ℤ) {s : CwMcuSensor}
    (hs : s.sysFsMutex = false) (hn : NoMutexFault s) :
    Begins (setEnableBegin H o handle en s) := by
  unfold NoMutexFault at hn
  unfold setEnableBegin setEnableWrite; dsimp only
  split_ifs <;> simp [Begins, NoMutexFault, lock, unlock, hs, hn, sysfsPath, record]

theorem batchBegin_begins (o : BatchOutcome) (handle flags periodNs timeout : ℤ)
    {s : CwMcuSensor} (hs : s.sysFsMutex = false) (hn : NoMutexFault s) :
    Begins (batchBegin H o handle flags periodNs timeout s) := by
  unfold NoMutexFault at hn
  unfold batchBegin batchWrite; dsimp only
  split_ifs <;> simp only [Begins, Sum.isRight_inl, Sum.isRight_inr, syncWrite_eq, batchBuffer_eq] <;>
    (try split_ifs) <;> simp [NoMutexFault, lock, hs, hn]

/-- The rest of the held call, from the held mutex, releases it. -/
theorem Held.finish_lock (k : Held) {s : CwMcuSensor} (hs : s.sysFsMutex = true)
    (hn : NoMutexFault s) :
    (k.finish H s).2.sysFsMutex = false ∧ NoMutexFault (k.finish H s).2 := by
  unfold NoMutexFault at hn
  have h0 : (toString (0 : ℤ)).length < INT32_CHAR_LEN := by decide
  cases k with
  | enableMask o what flags =>
    simp only [Held.finish, setEnableMask]
    split_ifs <;> simp [NoMutexFault, unlock, sysfsPath, sysfsSetInputAttrByInt_snd _ h0, record, hs, hn]
  | syncStore o => simp [Held.finish, NoMutexFault, syncStore_eq, unlock, hs, hn]
  | batchCommand o text err =>
    simp [Held.finish, CwMcuSensor.batchCommand, NoMutexFault, syncStore_eq, unlock, sysfsPath,
      record, hs, hn]

/-- `processEvent` of a record that requests no sync takes no lock. -/
theorem processEvent_lock {r : Record} (hr : r.requestsSync H = false) (o : ProcessOutcome)
    (s : CwMcuSensor) :
    (processEvent H o r s).2.sysFsMutex = s.sysFsMutex ∧
      (processEvent H o r s).2.faults =
        logUnless (r.sensorsid < H.numSensors) (.tableIndex r.sensorsid) s.faults ++
          processFaults H r s.dataFd := by
  unfold processEvent processFaults; dsimp only
  rcases h : H.decodeTag r.sensorsid with _ | (k | _ | _ | _)
  · simp [stampSlot]
  · obtain ⟨pe, h'⟩ := decodeSample_frame H o k r (s.stampSlot H r.sensorsid r.time.toInt)
    dsimp only; rw [h']; simp [stampSlot]
  · simp [stampSlot]
  · by_cases hm : (r.data 0).toInt = SYNC_ACK_MAGIC <;> simp [hm, stampSlot]
  · have hm : (r.data 0).toInt ≠ EXHAUSTED_MAGIC := by simpa [Record.requestsSync, h] using hr
    simp [hm, stampSlot]

/-- A pass beside a held mutex that does not stop before its `processEvent` takes no lock. -/
theorem passStep_false_lock (o : IterOutcome) {r : Record} (hr : r.requestsSync H = false)
    {s : CwMcuSensor} (hn : NoMutexFault s) :
    (passStep H false o r s).2.sysFsMutex = s.sysFsMutex ∧
      NoMutexFault (passStep H false o r s).2 := by
  unfold NoMutexFault at hn
  obtain ⟨hm, hf⟩ := processEvent_lock H hr o.process s
  simp only [passStep, hr, Bool.not_false, Bool.true_and, Bool.false_eq_true, if_false]
  rw [processEvent_eq_pair]; dsimp only
  split_ifs with h1 h2 h3
  · simp [NoMutexFault, hm, hf, hn]
  · simp [NoMutexFault, hm, hf, hn, enabledBit, stampSlot]
  · simp only [decide_eq_true_eq] at h3
    simp [NoMutexFault, hm, hf, hn, enabledBit, stampSlot, dispatchEnabled, h3, readSlot]
  · simp [NoMutexFault, hm, hf, hn, enabledBit, stampSlot]

/-- **The lock discipline of the threads.** `sys_fs_mutex` is held exactly while a control
call stands in its locked section, and no fault of the lock discipline has been logged. -/
def Threads.LockDiscipline (t : Threads) : Prop :=
  t.hub.driver.sysFsMutex = t.held.isSome ∧ NoMutexFault t.hub.driver

theorem Threads.LockDiscipline.control {t : Threads} (h : t.LockDiscipline)
    {f : CwMcuSensor → (ℤ ⊕ Held) × CwMcuSensor}
    (hf : t.hub.driver.sysFsMutex = false → NoMutexFault t.hub.driver → Begins (f t.hub.driver)) :
    (t.control f).LockDiscipline := by
  unfold Threads.control
  split_ifs with hs
  · exact h
  have hn : t.held = none := by simpa using hs
  obtain ⟨h1, h2⟩ := hf (by simpa [hn] using h.1) h.2
  rcases hr : f t.hub.driver with ⟨ret | k, s⟩ <;> rw [hr] at h1 h2
  · exact ⟨by simpa [Threads.returned, Threads.setDriver, hn] using h1, h2⟩
  · exact ⟨by simpa [Threads.setDriver] using h1, h2⟩

/-- **A call keeps the lock discipline**: a control call waits while the mutex is held, and
otherwise returns with it free or stops holding it; `readEvents` takes no lock before its
loop. -/
theorem Threads.LockDiscipline.call {t : Threads} (h : t.LockDiscipline) (c : Call) :
    ((Step.call c).apply H t).LockDiscipline := by
  cases c with
  | setEnable o handle en => exact h.control fun hs hn => setEnableBegin_begins H o handle en hs hn
  | setDelay o handle delayNs =>
    refine h.control fun hs hn => ?_
    obtain ⟨hm, n, hf⟩ := setDelay_mutex H o handle delayNs hs
    unfold NoMutexFault at hn
    simp [Begins, NoMutexFault, hm, hf, hn]
  | batch o handle flags periodNs timeout =>
    exact h.control fun hs hn => batchBegin_begins H o handle flags periodNs timeout hs hn
  | flush o handle =>
    refine h.control fun hs hn => ?_
    obtain ⟨hm, n, hf⟩ := flush_mutex H o handle hs
    unfold NoMutexFault at hn
    simp [Begins, NoMutexFault, hm, hf, hn]
  | syncTimestamp o =>
    refine h.control fun hs hn => ?_
    unfold NoMutexFault at hn
    simp [Begins, NoMutexFault, syncWrite_eq, lock, hs, hn]
  | readEvents o count =>
    simp only [Step.apply, Threads.call, Threads.read]
    split
    · split_ifs
      · exact h
      all_goals exact ⟨by simpa [Threads.returned] using h.1, h.2.logRace _⟩
    · exact h

/-- The end of the held call releases the mutex. -/
theorem Threads.LockDiscipline.finish {t : Threads} (h : t.LockDiscipline) :
    (Step.finish.apply H t).LockDiscipline := by
  rcases hk : t.held with _ | k
  · simpa [Step.apply, Threads.finish, hk] using h
  obtain ⟨h1, h2⟩ := k.finish_lock H (by simpa [hk] using h.1) h.2
  simp only [Step.apply, Threads.finish_of_held H hk]
  exact ⟨by simpa [Threads.returned, Threads.setDriver] using h1, h2⟩

/-- A pass with the mutex free runs whole and leaves it free; beside a held mutex it stops
before any lock. -/
theorem Threads.LockDiscipline.pass {t : Threads} (h : t.LockDiscipline) :
    (Step.pass.apply H t).LockDiscipline := by
  rcases t with ⟨⟨s, reader⟩, held, reading, rets⟩
  rcases reading with _ | ⟨io, _ | count, evs⟩ | ⟨io, count, evs, n⟩ <;>
    rcases reader with _ | ⟨r, q⟩
  all_goals try exact h
  simp only [Step.apply, Threads.pass]
  rcases held with _ | k
  · -- the mutex is free: the pass is `dispatchEvent`
    have hc := (dispatchEvent_mutex H (io 0) r s (by simpa using h.1)).1
    simp only [Option.isNone_none, Option.any_none, logRace_false, passStep_true,
      Threads.endPass]
    exact ⟨by simpa using hc.1, h.2.of_appendsClean hc⟩
  · -- a control call holds the mutex: the pass stops before any lock
    simp only [Option.isNone_some]
    by_cases hrs : r.requestsSync H
    · simp only [passStep, Bool.not_false, hrs, Bool.and_self, if_true]
      exact ⟨by simpa using h.1, h.2.logRace _⟩
    · obtain ⟨h1, h2⟩ := passStep_false_lock H (io 0) (Bool.eq_false_iff.mpr hrs)
        (h.2.logRace (Option.any (Held.racesWith H r) (some k)))
      rcases hp : passStep H false (io 0) r (s.logRace (Option.any (Held.racesWith H r) (some k)))
        with ⟨ev | n', s'⟩ <;> rw [hp] at h1 h2
      · exact ⟨h1.trans h.1, h2⟩
      · exact ⟨h1.trans h.1, h2⟩

/-- A waiting pass, once the mutex is free, runs the rest of its pass and leaves it free. -/
theorem Threads.LockDiscipline.resume {t : Threads} (h : t.LockDiscipline) :
    (Step.resume.apply H t).LockDiscipline := by
  rcases t with ⟨⟨s, reader⟩, held, reading, rets⟩
  rcases held with _ | k
  · have hs : s.sysFsMutex = false := by simpa using h.1
    rcases reading with _ | _ | ⟨io, count, evs, _ | _⟩ <;> rcases reader with _ | ⟨r, q⟩ <;>
      try exact h
    · have hc := (dispatchEvent_mutex H (io 0) r s hs).1
      exact ⟨by simpa [Step.apply, Threads.resume, Nested.finish, Threads.endPass] using hc.1,
        h.2.of_appendsClean hc⟩
    · have hc := dispatchEnabled_appendsClean H (io 0) s r.sensorsid hs
      exact ⟨by simpa [Step.apply, Threads.resume, Nested.finish, Threads.endPass] using hc.1,
        h.2.of_appendsClean hc⟩
  · exact h

theorem Step.lockDiscipline (st : Step) {t : Threads} (h : t.LockDiscipline) :
    (st.apply H t).LockDiscipline := by
  cases st with
  | call c => exact h.call H c
  | finish => exact h.finish H
  | pass => exact h.pass H
  | resume => exact h.resume H

theorem Threads.run_lockDiscipline (steps : List Step) {t : Threads} (h : t.LockDiscipline) :
    (Threads.run H steps t).LockDiscipline := by
  induction steps generalizing t with
  | nil => exact h
  | cons st steps ih => exact ih (st.lockDiscipline H h)

/-- **The lock discipline over every interleaving.** From the constructor, over every
interleaving of the threads' steps, with every argument and every I/O outcome, the nested
calls of `readEvents` included: `sys_fs_mutex` is held exactly while a control call stands in
its locked section, and no thread has locked it while it was held or unlocked it while it was
free. -/
theorem lock_held_exactly_inside_control_calls (m : Memory) (o : InitOutcome) (steps : List Step) :
    let t := Threads.run H steps (Threads.start H m o)
    t.hub.driver.sysFsMutex = t.held.isSome ∧ ∀ f ∈ t.hub.driver.faults, f.isMutex = false := by
  have h := Threads.run_lockDiscipline H steps (t := Threads.start H m o)
    ⟨init_sysFsMutex H m o, (noMutexFault_iff _).mpr (init_mutexFree H m o).2⟩
  exact ⟨h.1, (noMutexFault_iff _).mp h.2⟩

end Locking

end SensorHub
