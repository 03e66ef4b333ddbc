import SensorHub.Enable
import SensorHub.Threads

/-!
# The timestamp handshake

The driver and the sensor hub agree on a time base by a handshake. A sync request,
`sync_timestamp_locked`, writes `TIMESTAMP_SYNC_CODE` to `flush` (line 729) and, when the
write goes through, stores the host time as the candidate `l_timestamp` (line 734). Three
callers issue it: `sync_timestamp` and every `batch` that takes the lock, on a control
thread with `sys_fs_mutex` held, and `processEvent` on a `TIME_DIFF_EXHAUSTED` record
carrying `EXHAUSTED_MAGIC`, on the dispatch thread. The firmware answers the requests in
order with `CW_SYNC_ACK` records, which `processEvent` handles on the dispatch thread, with
no lock: on one carrying `SYNC_ACK_MAGIC` the driver commits `g_timestamp := l_timestamp`.

An acknowledgement can therefore come between the write of a control call's request and its
store. The handshake has three steps (`SyncStep`): the write of a request, the store of its
candidate, and a record reaching `processEvent`, which issues its own request whole, since
the dispatch thread is the one that would handle the acknowledgement. The driver keeps no
record of which requests are unanswered; the model adds it as ghost state,
`SyncState.outstanding`: the requests whose write went through and that the firmware has not
yet acknowledged, oldest first, each with its candidate once stored. Then:

* `l_timestamp` is the candidate of the newest outstanding request once that request has
  stored it (`SyncInv`, kept by every step: `syncInv_run`);
* `g_timestamp` changes only on an acknowledgement, which commits the newest stored
  candidate (`gTimestamp_commits_latest_candidate`). That is the candidate of the request
  the acknowledgement answers only when that request is the only one outstanding; an
  acknowledgement between a request's write and its store commits the candidate from
  before the request (`ack_between_write_and_store_commits_old_candidate`).

The interleavings of `SensorHub.Threads` take these steps among the rest of what their
threads do (`Step.syncSteps`), and move the two timestamps exactly as the handshake over
those steps (`driver_follows_handshake`).
-/

namespace SensorHub

open CwMcuSensor

variable (H : Header)

/-! ### The handshake with its ghost queue -/

/-- The driver with the requests whose write went through and that the firmware has not yet
acknowledged, oldest first, each with its candidate once stored. -/
structure SyncState where
  driver : CwMcuSensor
  outstanding : List (Option ℤ)

/-- A step of the handshake. -/
inductive SyncStep
  /-- The write of a sync request to `flush` (lines 724–731), by `sync_timestamp` or `batch`. -/
  | write (o : SyncOutcome)
  /-- The store of that request's candidate `l_timestamp` (line 734). -/
  | store (o : SyncOutcome)
  /-- A record reaching `processEvent`; one that requests a sync issues it whole. -/
  | record (o : ProcessOutcome) (r : Record)

namespace SyncStep

/-- An acknowledgement: it answers the oldest outstanding request. -/
def isAck : SyncStep → Bool
  | .record _ r => r.isAck H
  | _ => false

/-- The candidate a step stores. -/
def candidate? : SyncStep → Option ℤ
  | .write _ => none
  | .store o => if o.flush.opened ∧ o.flush.written then some o.now else none
  | .record o r =>
    if H.decodeTag r.sensorsid = some .timeDiffExhausted ∧ (r.data 0).toInt = EXHAUSTED_MAGIC ∧
        o.sync.flush.opened ∧ o.sync.flush.written then some o.sync.now else none

/-- A step: the driver runs it; a request whose write goes through joins the queue, the
store gives the newest request its candidate, an acknowledgement answers the oldest, and a
record that requests a sync adds its request with its candidate. -/
def apply (st : SyncStep) (σ : SyncState) : SyncState :=
  match st with
  | .write o =>
    ⟨syncWrite H o σ.driver,
      σ.outstanding ++ if o.flush.opened ∧ o.flush.written then [none] else []⟩
  | .store o =>
    ⟨syncStore o σ.driver,
      if (o.flush.opened ∧ o.flush.written) ∧ σ.outstanding ≠ [] then
        σ.outstanding.dropLast ++ [some o.now]
      else σ.outstanding⟩
  | .record o r =>
    ⟨(processEvent H o r σ.driver).2,
      (if r.isAck H then σ.outstanding.tail else σ.outstanding) ++
        ((SyncStep.record o r).candidate? H).toList.map some⟩

/-- **What a step does to the timestamps.** An acknowledgement commits the candidate; a
step that stores one replaces it. -/
theorem apply_timestamps (st : SyncStep) (σ : SyncState) :
    (st.apply H σ).driver.gTimestamp =
        (if st.isAck H then σ.driver.lTimestamp else σ.driver.gTimestamp) ∧
      (st.apply H σ).driver.lTimestamp = (st.candidate? H).getD σ.driver.lTimestamp := by
  cases st with
  | write o => simp [apply, isAck, candidate?, syncWrite_eq]
  | store o =>
    rcases o with ⟨⟨_ | _, _ | _, _⟩, _⟩ <;> simp [apply, isAck, candidate?, syncStore_eq]
  | record o r =>
    obtain ⟨-, hg, hl, -⟩ := processEvent_spec H o r σ.driver
    rw [apply, hg, hl]
    refine ⟨by simp [isAck, Record.isAck], ?_⟩
    simp only [candidate?]; split <;> simp_all

end SyncStep

/-- The handshake steps in order. -/
def SyncState.run (steps : List SyncStep) (σ : SyncState) : SyncState :=
  steps.foldl (fun σ st => st.apply H σ) σ

@[simp] theorem SyncState.run_nil (σ : SyncState) : SyncState.run H [] σ = σ := rfl

@[simp] theorem SyncState.run_append (steps steps' : List SyncStep) (σ : SyncState) :
    SyncState.run H (steps ++ steps') σ = SyncState.run H steps' (SyncState.run H steps σ) :=
  List.foldl_append _ _ _ _

@[simp] theorem SyncState.run_singleton (st : SyncStep) (σ : SyncState) :
    SyncState.run H [st] σ = st.apply H σ := rfl

/-! ### The candidate is the newest stored one -/

/-- **The candidate** is that of the newest outstanding request, once stored. -/
def SyncInv (σ : SyncState) : Prop :=
  ∀ c, σ.outstanding.getLast? = some (some c) → σ.driver.lTimestamp = c

/-- Answering the oldest request leaves the newest one newest. -/
theorem getLast?_of_tail {q : List (Option ℤ)} {x : Option ℤ} (h : q.tail.getLast? = some x) :
    q.getLast? = some x := by
  rcases q with _ | ⟨a, q⟩
  · simp at h
  · simp only [List.tail_cons] at h
    simp [List.getLast?_cons, h]

theorem SyncInv.apply {σ : SyncState} (hσ : SyncInv σ) (st : SyncStep) :
    SyncInv (st.apply H σ) := by
  intro c hc
  rw [(st.apply_timestamps H σ).2]
  cases st with
  | write o =>
    -- a write adds a request with no candidate yet
    have hq : σ.outstanding.getLast? = some (some c) := by
      simp only [SyncStep.apply] at hc; split at hc <;> simp_all
    simpa [SyncStep.candidate?] using hσ c hq
  | store o =>
    -- the store gives the newest request the candidate it writes
    simp only [SyncStep.apply] at hc
    simp only [SyncStep.candidate?]
    split at hc
    · rename_i h
      simp only [List.getLast?_concat, Option.some.injEq] at hc
      simp [h.1, hc]
    · have hne : σ.outstanding ≠ [] := by rintro h; simp [h] at hc
      rw [if_neg (fun h => by simp_all)]
      exact hσ c hc
  | record o r =>
    -- an acknowledgement drops the oldest request; a record that requests a sync adds one
    simp only [SyncStep.apply] at hc
    cases hcand : SyncStep.candidate? H (.record o r) with
    | some d => simp_all
    | none =>
      simp only [hcand, Option.toList_none, List.map_nil, List.append_nil, Option.getD_none] at hc ⊢
      split at hc
      · exact hσ c (getLast?_of_tail hc)
      · exact hσ c hc

theorem syncInv_run {σ : SyncState} (hσ : SyncInv σ) (steps : List SyncStep) :
    SyncInv (SyncState.run H steps σ) := by
  induction steps using List.reverseRecOn with
  | nil => exact hσ
  | append_singleton steps st ih => simpa using ih.apply H st

/-- **The handshake.** In every run of the handshake steps, in any order, from a state with
no request outstanding (the constructor's, for one), at every step: `g_timestamp` changes
only on an acknowledgement, and an acknowledgement commits the candidate of the newest
outstanding request once that request has stored it. -/
theorem gTimestamp_commits_latest_candidate (σ₀ : SyncState) (h0 : σ₀.outstanding = [])
    (pre : List SyncStep) (st : SyncStep) :
    let σ := SyncState.run H pre σ₀
    let σ' := st.apply H σ
    (σ'.driver.gTimestamp ≠ σ.driver.gTimestamp → st.isAck H = true) ∧
    (st.isAck H = true → ∀ c, σ.outstanding.getLast? = some (some c) →
      σ'.driver.gTimestamp = c) := by
  have hσ : SyncInv (SyncState.run H pre σ₀) :=
    syncInv_run H (fun c hc => by simp [h0] at hc) pre
  dsimp only
  rw [(st.apply_timestamps H _).1]
  refine ⟨fun h => ?_, fun ha c hc => ?_⟩
  · by_contra hn; simp [hn] at h
  · simp [ha, hσ c hc]

/-- A `sync_timestamp` request, written and stored, then its acknowledgement: the candidate
`1` is committed. -/
theorem gTimestamp_commits_latest_candidate_after_request :
    let σ₀ : SyncState := ⟨init Header.sample default .ok, []⟩
    let o : SyncOutcome := ⟨⟨true, true, 0⟩, 1⟩
    let pre : List SyncStep := [.write o, .store o]
    let st : SyncStep := .record default ⟨98, fun _ => 0x66, fun _ => 0, 0⟩
    σ₀.outstanding = [] ∧
    let σ := SyncState.run Header.sample pre σ₀
    let σ' := st.apply Header.sample σ
    (σ'.driver.gTimestamp ≠ σ.driver.gTimestamp → st.isAck Header.sample = true) ∧
    (st.isAck Header.sample = true → ∀ c, σ.outstanding.getLast? = some (some c) →
      σ'.driver.gTimestamp = c) :=
  ⟨rfl, gTimestamp_commits_latest_candidate Header.sample _ rfl _ _⟩

/-! ### The driver's interleavings follow the handshake -/

/-- Two states agree on the two timestamps. -/
def SameClock (s t : CwMcuSensor) : Prop :=
  s.lTimestamp = t.lTimestamp ∧ s.gTimestamp = t.gTimestamp

theorem SameClock.trans {s t u : CwMcuSensor} (h₁ : SameClock s t) (h₂ : SameClock t u) :
    SameClock s u :=
  ⟨h₁.1.trans h₂.1, h₁.2.trans h₂.2⟩

theorem sameClock_processEvent (o : ProcessOutcome) (r : Record) {s t : CwMcuSensor}
    (h : SameClock s t) : SameClock (processEvent H o r s).2 (processEvent H o r t).2 := by
  obtain ⟨-, hg, hl, -⟩ := processEvent_spec H o r s
  obtain ⟨-, hg', hl', -⟩ := processEvent_spec H o r t
  rw [SameClock, hg, hl, hg', hl', h.1, h.2]
  exact ⟨rfl, rfl⟩

theorem dispatchEnabled_sameClock (o : IterOutcome) (id : ℕ) (s : CwMcuSensor) :
    SameClock (dispatchEnabled H o id s).2 s := by
  unfold dispatchEnabled; split <;> simp [SameClock, readSlot, calculateRv4thElement]

/-- A pass that does not stop before its `processEvent` moves the timestamps as
`processEvent` does. -/
theorem passStep_sameClock {free : Bool} {r : Record} (h : (!free && r.requestsSync H) = false)
    (o : IterOutcome) (s : CwMcuSensor) :
    SameClock (passStep H free o r s).2 (processEvent H o.process r s).2 := by
  simp only [passStep, h, Bool.false_eq_true, if_false]
  rw [processEvent_eq_pair]; dsimp only
  split_ifs
  · exact ⟨rfl, rfl⟩
  · exact ⟨rfl, rfl⟩
  · exact (dispatchEnabled_sameClock H o _ _).trans ⟨rfl, rfl⟩
  · exact ⟨rfl, rfl⟩

/-- The handshake steps a thread step takes: the write of the request of a `sync_timestamp`
and of a `batch` past its checks, the store at their end, and the record of a pass, unless
the pass stops before its `processEvent`. -/
def Step.syncSteps : Step → Threads → List SyncStep
  | .call (.syncTimestamp o), t => if t.held.isSome then [] else [.write o]
  | .call (.batch o handle flags periodNs timeout), t =>
    if t.held.isSome then [] else
    match (batchBegin H o handle flags periodNs timeout t.hub.driver).1 with
    | .inr _ => [.write o.sync]
    | .inl _ => []
  | .call _, _ => []
  | .finish, t =>
    match t.held with
    | some (.syncStore o) => [.store o]
    | some (.batchCommand o _ _) => [.store o.sync]
    | _ => []
  | .pass, t =>
    match t.reading, t.hub.reader with
    | .loop io (_ + 1) _, r :: _ =>
      if (!t.held.isNone && r.requestsSync H) then [] else [.record (io 0).process r]
    | _, _ => []
  | .resume, t =>
    match t.held, t.reading, t.hub.reader with
    | none, .waiting io _ _ .exhausted, r :: _ => [.record (io 0).process r]
    | _, _, _ => []

/-- The handshake steps of an interleaving, step after step. -/
def Threads.syncRun : List Step → Threads → List SyncStep
  | [], _ => []
  | st :: steps, t => st.syncSteps H t ++ Threads.syncRun steps (st.apply H t)

@[simp] theorem sysfsSetInputAttrByInt_lTimestamp (attr : Attr) (value : ℤ) (o : SysfsOutcome)
    (s : CwMcuSensor) : (s.sysfsSetInputAttrByInt attr value o).2.lTimestamp = s.lTimestamp := by
  unfold sysfsSetInputAttrByInt; dsimp only; split <;> rfl

@[simp] theorem sysfsSetInputAttrByInt_gTimestamp (attr : Attr) (value : ℤ) (o : SysfsOutcome)
    (s : CwMcuSensor) : (s.sysfsSetInputAttrByInt attr value o).2.gTimestamp = s.gTimestamp := by
  unfold sysfsSetInputAttrByInt; dsimp only; split <;> rfl

theorem syncWrite_sameClock (o : SyncOutcome) (s : CwMcuSensor) : SameClock (syncWrite H o s) s := by
  simp [SameClock, syncWrite_eq]

theorem setEnableBegin_sameClock (o : SetEnableOutcome) (handle en : ℤ) (s : CwMcuSensor) :
    SameClock (setEnableBegin H o handle en s).2 s := by
  unfold setEnableBegin setEnableWrite; dsimp only; split_ifs <;> exact ⟨rfl, rfl⟩

theorem batchBegin_sameClock (o : BatchOutcome) (handle flags periodNs timeout : ℤ)
    (s : CwMcuSensor) : SameClock (batchBegin H o handle flags periodNs timeout s).2 s := by
  unfold batchBegin batchWrite; dsimp only
  split_ifs <;> first
    | exact ⟨rfl, rfl⟩
    | simp only [SameClock, syncWrite_eq, batchBuffer_eq]; split <;> exact ⟨rfl, rfl⟩

theorem setEnableMask_sameClock (o : SetEnableOutcome) (what : ℤ) (flags : ℕ) (s : CwMcuSensor) :
    SameClock (setEnableMask H o what flags s) s := by
  unfold setEnableMask; dsimp only
  split_ifs <;> exact ⟨rfl, rfl⟩

theorem Threads.read_sameClock (o : ReadOutcome) (count : ℤ) (t : Threads) :
    SameClock (t.read o count).hub.driver t.hub.driver := by
  unfold Threads.read; split
  · split_ifs
    · exact ⟨rfl, rfl⟩
    · dsimp only; split <;> exact ⟨rfl, rfl⟩
  · exact ⟨rfl, rfl⟩

/-- A call's first step moves neither timestamp, nor does the write of a request it takes. -/
theorem Step.sameClock_call (c : Call) {t : Threads} {σ : SyncState}
    (hs : SameClock t.hub.driver σ.driver) :
    SameClock ((Step.call c).apply H t).hub.driver
      (SyncState.run H ((Step.call c).syncSteps H t) σ).driver := by
  have hw : ∀ o, SameClock σ.driver (SyncState.run H [.write o] σ).driver := fun o =>
    have h := syncWrite_sameClock H o σ.driver
    ⟨h.1.symm, h.2.symm⟩
  cases c with
  | setEnable o handle en =>
    simp only [Step.apply, Threads.call, Step.syncSteps, SyncState.run_nil, Threads.control_driver]
    split_ifs
    · exact hs
    · exact (setEnableBegin_sameClock H o handle en _).trans hs
  | setDelay o handle delayNs =>
    simp only [Step.apply, Threads.call, Step.syncSteps, SyncState.run_nil, Threads.control_driver]
    split_ifs
    · exact hs
    · exact ⟨by simp [setDelay_eq, hs.1], by simp [setDelay_eq, hs.2]⟩
  | batch o handle flags periodNs timeout =>
    simp only [Step.apply, Threads.call, Step.syncSteps, Threads.control_driver]
    split_ifs
    · exact hs
    · have hb := (batchBegin_sameClock H o handle flags periodNs timeout t.hub.driver).trans hs
      split
      · exact hb.trans (hw _)
      · exact hb
  | flush o handle =>
    simp only [Step.apply, Threads.call, Step.syncSteps, SyncState.run_nil, Threads.control_driver]
    split_ifs
    · exact hs
    · rw [flush_eq]; dsimp only; split <;> exact hs
  | syncTimestamp o =>
    simp only [Step.apply, Threads.call, Step.syncSteps, Threads.control_driver]
    split_ifs
    · exact hs
    · exact (syncWrite_sameClock H o _).trans (hs.trans (hw o))
  | readEvents o count => exact (Threads.read_sameClock o count t).trans hs

/-- **A thread step follows the handshake.** Every step of every thread, from every
interleaving state, moves the two timestamps as the handshake does over the steps it takes. -/
theorem Step.sameClock_apply (st : Step) {t : Threads} {σ : SyncState}
    (hs : SameClock t.hub.driver σ.driver) :
    SameClock (st.apply H t).hub.driver (SyncState.run H (st.syncSteps H t) σ).driver := by
  rcases t with ⟨⟨s, reader⟩, held, reading, rets⟩
  cases st with
  | call c => exact Step.sameClock_call H c hs
  | finish =>
    -- the rest of the held call: the store of a sync request's candidate
    rcases held with _ | (⟨o, what, flags⟩ | o | ⟨o, text, err⟩)
    · exact hs
    · exact (setEnableMask_sameClock H o what flags s).trans hs
    all_goals
      simp only [Step.apply, Threads.finish, Held.finish, Step.syncSteps, Threads.setDriver,
        Threads.returned, SyncState.run_singleton, SyncStep.apply]
      obtain ⟨hl, hg⟩ : s.lTimestamp = σ.driver.lTimestamp ∧ s.gTimestamp = σ.driver.gTimestamp := hs
      constructor <;> simp [syncStore_eq, batchCommand, unlock, record, sysfsPath, hl, hg]
  | pass =>
    -- the test of the loop, then a pass that stops before `processEvent` or runs it
    rcases reading with _ | ⟨io, _ | count, evs⟩ | ⟨io, count, evs, n⟩ <;> rcases reader with _ | ⟨r, q⟩ <;>
      try exact hs
    simp only [Step.apply, Threads.pass, Step.syncSteps]
    cases hw : (!held.isNone && r.requestsSync H)
    · have hp := passStep_sameClock H hw (io 0) (s.logRace (held.any (Held.racesWith H r)))
      have hr := sameClock_processEvent H (io 0).process r
        (s := s.logRace (held.any (Held.racesWith H r))) (t := σ.driver) hs
      split <;> simp only [Threads.endPass, Threads.setDriver, if_false,
        SyncState.run_singleton] <;> rename_i h <;> rw [h] at hp <;>
        exact hp.trans (hr.trans ⟨rfl, rfl⟩)
    · simp only [passStep, hw, if_true]
      exact hs
  | resume =>
    -- a waiting pass ends with the lock: the whole pass, or the nested disable
    rcases held with _ | k
    · rcases reading with _ | _ | ⟨io, count, evs, _ | _⟩ <;> rcases reader with _ | ⟨r, q⟩ <;>
        try exact hs
      · simp only [Step.apply, Threads.resume, Step.syncSteps, Nested.finish, Threads.endPass,
          SyncState.run_singleton]
        obtain ⟨-, hl, hg, -⟩ := dispatchEvent_snd_of_processEvent H (io 0) r s
        have hr := sameClock_processEvent H (io 0).process r (t := σ.driver) hs
        exact ⟨hl.trans hr.1, hg.trans hr.2⟩
      · simp only [Step.apply, Threads.resume, Step.syncSteps, Nested.finish, Threads.endPass,
          SyncState.run_nil]
        exact (dispatchEnabled_sameClock H (io 0) r.sensorsid s).trans hs
    · exact hs

theorem Threads.run_sameClock (steps : List Step) {t : Threads} {σ : SyncState}
    (hs : SameClock t.hub.driver σ.driver) :
    SameClock (Threads.run H steps t).hub.driver
      (SyncState.run H (Threads.syncRun H steps t) σ).driver := by
  induction steps generalizing t σ with
  | nil => exact hs
  | cons st steps ih =>
    rw [Threads.syncRun, SyncState.run_append]
    exact ih (st.sameClock_apply H hs)

/-- **The driver follows the handshake.** From the constructor, over every interleaving of
the threads' steps, with every argument and every I/O outcome, `l_timestamp` and
`g_timestamp` are those the handshake reaches over the sync requests and records those steps
processed; in that handshake, `l_timestamp` is the candidate of the newest request the
firmware has not yet acknowledged, once that request has stored it. -/
theorem driver_follows_handshake (m : Memory) (o : InitOutcome) (steps : List Step) :
    let t₀ := Threads.start H m o
    let σ := SyncState.run H (Threads.syncRun H steps t₀) ⟨t₀.hub.driver, []⟩
    (Threads.run H steps t₀).hub.driver.lTimestamp = σ.driver.lTimestamp ∧
      (Threads.run H steps t₀).hub.driver.gTimestamp = σ.driver.gTimestamp ∧
      ∀ c, σ.outstanding.getLast? = some (some c) → σ.driver.lTimestamp = c :=
  have h := Threads.run_sameClock H steps (t := Threads.start H m o)
    (σ := ⟨(Threads.start H m o).hub.driver, []⟩) ⟨rfl, rfl⟩
  ⟨h.1, h.2, syncInv_run H (fun c hc => by simp at hc) _⟩

/-- **The acknowledgement of a half-done request.** From the constructor, the dispatch
thread fills one acknowledgement; `sync_timestamp` writes its request, the only one
outstanding; the dispatch thread processes the acknowledgement; then the request stores its
candidate `5`. The acknowledgement answered that request, yet `g_timestamp` stays `0`, the
candidate from before it, and the pass logs the race on `l_timestamp`. -/
theorem ack_between_write_and_store_commits_old_candidate :
    let ack : Record := ⟨98, fun _ => 0x66, fun _ => 0, 0⟩
    let o : SyncOutcome := ⟨⟨true, true, 0⟩, 5⟩
    let t₀ := Threads.start Header.sample default .ok
    let pre := [Step.call (.readEvents ⟨.read [ack], fun _ => default⟩ 1), .call (.syncTimestamp o)]
    let σ := SyncState.run Header.sample (Threads.syncRun Header.sample pre t₀)
      ⟨t₀.hub.driver, []⟩
    let t := Threads.run Header.sample (pre ++ [.pass, .finish]) t₀
    σ.outstanding = [none] ∧ ack.isAck Header.sample = true ∧
      t.hub.driver.lTimestamp = 5 ∧ t.hub.driver.gTimestamp = 0 ∧
      Fault.dataRace ∈ t.hub.driver.faults := by
  decide

end SensorHub
