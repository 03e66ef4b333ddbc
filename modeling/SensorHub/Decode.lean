import SensorHub.Control

/-!
# Decoding a record

`processEvent` splits a record, writes its device time into the slot its tag byte names,
and runs the `case` of `switch (sensorsid)` the tag selects: a sensor kind updates its
pending sample and its bit of `mPendingMask` (`decodeSample`), `CW_META_DATA` prepares the
flush-complete event, `CW_SYNC_ACK` commits the sync candidate, and `TIME_DIFF_EXHAUSTED`
re-issues a sync request. `calculate_rv_4th_element` completes a rotation vector.

Later proofs use `processEvent_frame` (the fields a record can change) and
`processEvent_spec` (what it writes to each of them but the table). For the table,
`decodeSample_slot` says that a sensor kind's case writes only the slot of its own kind,
with one exception, `CW_STEP_DETECTOR`, which writes `data[0]` of the `CW_STEP_COUNTER`
slot (`decodeSample_stepDetector`).
-/

namespace SensorHub

namespace CwMcuSensor

variable (H : Header)

/-- The entries of `luxValues`, whole numbers of lux. -/
def luxTable : List ℤ := [0, 10, 40, 90, 160, 225, 320, 640, 1280, 2600]

/-- `indexToValue(index)`: the lux value of a light level, the last one for every level
past the table. -/
def indexToValue (index : ℕ) : BitVec 32 :=
  let maxIndex := LIGHTSENSOR_LEVEL - 1
  let index := if index > maxIndex then maxIndex else index
  H.flt.ofInt (luxTable.getD index 0)

/-- The conversion of an `int16_t` to `size_t`. -/
def sizeT (x : ℤ) : ℕ := (x % 2 ^ 64).toNat

/-- The outcomes of what `processEvent` calls: `getTimestamp()` for a step, and the sync
request re-issued on `TIME_DIFF_EXHAUSTED`. -/
structure ProcessOutcome where
  now : ℤ
  sync : SyncOutcome
  deriving Inhabited

/-- `data[0..2] = (float)v[0..2] * c`. -/
def setScaled (c : BitVec 32) (v : Fin 3 → BitVec 16) (first : ℕ) (e : SensorsEvent) :
    SensorsEvent :=
  let F := H.flt
  ((e.setData (first : Fin 16) (F.mul (F.ofInt (v 0).toInt) c)).setData
    ((first + 1 : ℕ) : Fin 16) (F.mul (F.ofInt (v 1).toInt) c)).setData
    ((first + 2 : ℕ) : Fin 16) (F.mul (F.ofInt (v 2).toInt) c)

/-- The undefined behaviour of the `case` of kind `k`: the pressure and step-counter cases
read the `int16_t` array `data` through an `int32_t` and a `uint32_t`, and the
significant-motion case passes `data` for a `%d` of `ALOGI`. -/
def sampleFaults : SensorKind → List Fault
  | .pressure | .stepCounter => [.typePun]
  | .significantMotion => [.formatArg]
  | _ => []

/-- The `case` of `switch (sensorsid)` for a sensor kind `k`: its mask bit, then its
sample. -/
def decodeSample (o : ProcessOutcome) (k : SensorKind) (r : Record) (s : CwMcuSensor) :
    CwMcuSensor :=
  let F := H.flt
  let s := { s with
    mPendingMask := s.mPendingMask ||| 1#32 <<< H.tag k
    faults := s.faults ++ sampleFaults k }
  match k with
  | .orientation =>
    s.modifySlot H k fun e => setScaled H H.convert10 r.data 0 (e.setStatus ((r.bias 0).truncate 8))
  | .acceleration | .magnetic | .gyro | .linearAcceleration | .gravity =>
    s.modifySlot H k fun e =>
      setScaled H H.convert100 r.data 0
        (if k = .magnetic then e.setStatus ((r.bias 0).truncate 8) else e)
  | .pressure =>
    s.modifySlot H k fun e =>
      (e.setData 0 (F.mul (F.ofInt r.dataInt32) H.convert100)).setData 2
        (F.mul (F.ofInt (r.data 2).toInt) H.convert100)
  | .rotationVector | .gameRotationVector | .geomagneticRotationVector =>
    s.modifySlot H k (setScaled H H.convert10000 r.data 0)
  | .magneticUncalibrated | .gyroscopeUncalibrated =>
    s.modifySlot H k fun e =>
      setScaled H H.convert100 r.bias 3 (setScaled H H.convert100 r.data 0 e)
  | .significantMotion =>
    s.modifySlot H k fun e =>
      ((e.setData 0 (F.ofInt (r.data 0).toInt)).setData 1 (F.ofInt (r.data 1).toInt)).setData 2
        (F.ofInt (r.data 2).toInt)
  | .light =>
    s.modifySlot H k fun e => e.setData 0 (indexToValue H (sizeT (r.data 0).toInt))
  | .stepDetector =>
    let s := s.modifySlot H .stepCounter fun e => e.setData 0 (F.ofInt (r.data 0).toInt)
    s.modifySlot H .stepDetector (SensorsEvent.setTimestamp o.now)
  | .stepCounter =>
    s.modifySlot H .stepCounter (SensorsEvent.setStepCounter (r.dataUInt32.zeroExtend 64))
  | .wakeUpGesture =>
    s.modifySlot H k fun e => e.setData 0 (F.ofInt 1)

/-- `processEvent(event)`: returns `sensorsid`. -/
def processEvent (o : ProcessOutcome) (r : Record) (s : CwMcuSensor) : ℕ × CwMcuSensor :=
  let sid := r.sensorsid
  let s := s.stampSlot H sid r.time.toInt
  match H.decodeTag sid with
  | some (.sensor k) => (sid, decodeSample H o k r s)
  | some .metaData =>
    (sid, { s with
      mPendingEventsFlush :=
        s.mPendingEventsFlush.setMeta H.flushComplete (H.findHandle (r.data 0).toInt) })
  | some .syncAck =>
    (sid, if (r.data 0).toInt = SYNC_ACK_MAGIC then { s with gTimestamp := s.lTimestamp } else s)
  | some .timeDiffExhausted =>
    (sid, if (r.data 0).toInt = EXHAUSTED_MAGIC then (syncTimestamp H o.sync s).2 else s)
  | none => (sid, s)

/-- The kinds whose fourth quaternion component `calculate_rv_4th_element` derives. -/
def isRotationVector : SensorKind → Bool
  | .rotationVector | .gameRotationVector | .geomagneticRotationVector => true
  | _ => false

/-- The body of a case of `calculate_rv_4th_element`: `data[3] = q0` with
`q0 = sqrt(1 - q1² - q2² - q3²)` for `q1, q2, q3 = data[0..2]`, or `0` when the radicand is
not positive. -/
def rv4thElement (e : SensorsEvent) : SensorsEvent :=
  let F := H.flt
  let q1 := e.payload 0
  let q2 := e.payload 1
  let q3 := e.payload 2
  let q0 := F.sub (F.sub (F.sub (F.ofInt 1) (F.mul q1 q1)) (F.mul q2 q2)) (F.mul q3 q3)
  e.setData 3 (if F.pos q0 then F.sqrt q0 else F.ofInt 0)

/-- `calculate_rv_4th_element(sensors_id)`: completes the slot of a rotation vector. -/
def calculateRv4thElement (sensorsId : ℕ) (s : CwMcuSensor) : CwMcuSensor :=
  { s with
    mPendingEvents :=
      match H.decodeTag sensorsId with
      | some (.sensor k) =>
        if isRotationVector k then
          Function.update s.mPendingEvents sensorsId (rv4thElement H (s.mPendingEvents sensorsId))
        else s.mPendingEvents
      | _ => s.mPendingEvents }

@[simp] theorem calculateRv4thElement_faults (sensorsId : ℕ) (s : CwMcuSensor) :
    (calculateRv4thElement H sensorsId s).faults = s.faults := rfl

@[simp] theorem calculateRv4thElement_sysFsMutex (sensorsId : ℕ) (s : CwMcuSensor) :
    (calculateRv4thElement H sensorsId s).sysFsMutex = s.sysFsMutex := rfl

@[simp] theorem calculateRv4thElement_sysfs (sensorsId : ℕ) (s : CwMcuSensor) :
    (calculateRv4thElement H sensorsId s).sysfs = s.sysfs := rfl

@[simp] theorem calculateRv4thElement_mEnabled (sensorsId : ℕ) (s : CwMcuSensor) :
    (calculateRv4thElement H sensorsId s).mEnabled = s.mEnabled := rfl

@[simp] theorem calculateRv4thElement_dataFd (sensorsId : ℕ) (s : CwMcuSensor) :
    (calculateRv4thElement H sensorsId s).dataFd = s.dataFd := rfl

/-- The fourth element reads the table alone. -/
theorem calculateRv4thElement_mPendingEvents_congr {s t : CwMcuSensor}
    (h : s.mPendingEvents = t.mPendingEvents) (sensorsId : ℕ) :
    (calculateRv4thElement H sensorsId s).mPendingEvents =
      (calculateRv4thElement H sensorsId t).mPendingEvents := by
  simp only [calculateRv4thElement, h]

/-! ### What a record changes -/

/-- The slots the case of kind `k` writes: its own, and for `CW_STEP_DETECTOR` also the
`CW_STEP_COUNTER` slot. -/
def WritesSlot (k j : SensorKind) : Prop := j = k ∨ (k = .stepDetector ∧ j = .stepCounter)

instance (k j : SensorKind) : Decidable (WritesSlot k j) :=
  inferInstanceAs (Decidable (_ ∨ _))

theorem decodeSample_frame (o : ProcessOutcome) (k : SensorKind) (r : Record) (s : CwMcuSensor) :
    ∃ pe, decodeSample H o k r s =
      { s with mPendingMask := s.mPendingMask ||| 1#32 <<< H.tag k, mPendingEvents := pe,
               faults := s.faults ++ sampleFaults k } := by
  cases k <;> exact ⟨_, rfl⟩

/-- A sensor kind's case leaves every slot it does not write. -/
theorem decodeSample_slot (o : ProcessOutcome) {k : SensorKind} (r : Record) (s : CwMcuSensor)
    {i : ℕ} (hi : ∀ j, WritesSlot k j → H.tag j ≠ i) :
    (decodeSample H o k r s).mPendingEvents i = s.mPendingEvents i := by
  have h1 := hi k (.inl rfl)
  cases k <;> simp [decodeSample, modifySlot, Function.update, h1.symm]
  simp [(hi .stepCounter (.inr ⟨rfl, rfl⟩)).symm]

/-- **The step detector's write.** A `CW_STEP_DETECTOR` record stores `(float)data[0]` in
`data[0]` of the `CW_STEP_COUNTER` slot. -/
theorem decodeSample_stepDetector (o : ProcessOutcome) (r : Record) (s : CwMcuSensor) :
    (decodeSample H o .stepDetector r s).mPendingEvents (H.tag .stepCounter) =
      (s.mPendingEvents (H.tag .stepCounter)).setData 0 (H.flt.ofInt (r.data 0).toInt) := by
  have h : H.tag .stepCounter ≠ H.tag .stepDetector := by simp [H.tag_inj]
  simp [decodeSample, modifySlot, Function.update, h]

/-- `processEvent` changes only the pending samples, the mask, the flush event, the two sync
timestamps, and through a re-issued sync request the sysfs log and the mutex. -/
theorem processEvent_frame (o : ProcessOutcome) (r : Record) (s : CwMcuSensor) :
    ∃ pe pm pf l g ws mu fs, (processEvent H o r s).2 =
      { s with mPendingEvents := pe, mPendingMask := pm, mPendingEventsFlush := pf,
               lTimestamp := l, gTimestamp := g, sysfs := ws, sysFsMutex := mu, faults := fs } := by
  unfold processEvent
  dsimp only
  split
  · obtain ⟨pe, h⟩ := decodeSample_frame H o _ r (s.stampSlot H r.sensorsid r.time.toInt)
    exact ⟨_, _, _, _, _, _, _, _, h⟩
  · exact ⟨_, _, _, _, _, _, _, _, rfl⟩
  · split <;> exact ⟨_, _, _, _, _, _, _, _, rfl⟩
  · split
    · rw [syncTimestamp_eq]; exact ⟨_, _, _, _, _, _, _, _, rfl⟩
    · exact ⟨_, _, _, _, _, _, _, _, rfl⟩
  · exact ⟨_, _, _, _, _, _, _, _, rfl⟩

@[simp] theorem processEvent_dataFd (o : ProcessOutcome) (r : Record) (s : CwMcuSensor) :
    (processEvent H o r s).2.dataFd = s.dataFd := by
  obtain ⟨_, _, _, _, _, _, _, _, h⟩ := processEvent_frame H o r s; rw [h]

@[simp] theorem processEvent_fst (o : ProcessOutcome) (r : Record) (s : CwMcuSensor) :
    (processEvent H o r s).1 = r.sensorsid := by
  unfold processEvent; dsimp only; split <;> rfl

theorem processEvent_eq_pair (o : ProcessOutcome) (r : Record) (s : CwMcuSensor) :
    processEvent H o r s = (r.sensorsid, (processEvent H o r s).2) :=
  Prod.ext (processEvent_fst H o r s) rfl

@[simp] theorem processEvent_mEnabled (o : ProcessOutcome) (r : Record) (s : CwMcuSensor) :
    (processEvent H o r s).2.mEnabled = s.mEnabled := by
  obtain ⟨_, _, _, _, _, _, _, _, h⟩ := processEvent_frame H o r s; rw [h]

/-- **`processEvent`, field by field.** The mask gains the bit of a sensor kind;
`g_timestamp` becomes `l_timestamp` on a `CW_SYNC_ACK` carrying `SYNC_ACK_MAGIC`;
`l_timestamp` changes when a `TIME_DIFF_EXHAUSTED` record carrying `EXHAUSTED_MAGIC`
re-issues a sync request whose write goes through, and that request is the one write to
sysfs; the flush event is prepared on a `CW_META_DATA` record. -/
theorem processEvent_spec (o : ProcessOutcome) (r : Record) (s : CwMcuSensor) :
    let s' := (processEvent H o r s).2
    s'.mPendingMask =
      (match H.decodeTag r.sensorsid with
        | some (.sensor k) => s.mPendingMask ||| 1#32 <<< H.tag k
        | _ => s.mPendingMask) ∧
    s'.gTimestamp =
      (if H.decodeTag r.sensorsid = some .syncAck ∧ (r.data 0).toInt = SYNC_ACK_MAGIC then
        s.lTimestamp else s.gTimestamp) ∧
    s'.lTimestamp =
      (if H.decodeTag r.sensorsid = some .timeDiffExhausted ∧
          (r.data 0).toInt = EXHAUSTED_MAGIC ∧ o.sync.flush.opened ∧ o.sync.flush.written then
        o.sync.now else s.lTimestamp) ∧
    s'.mPendingEventsFlush =
      (if H.decodeTag r.sensorsid = some .metaData then
        s.mPendingEventsFlush.setMeta H.flushComplete (H.findHandle (r.data 0).toInt)
      else s.mPendingEventsFlush) ∧
    s'.sysfs = s.sysfs ++
      (if H.decodeTag r.sensorsid = some .timeDiffExhausted ∧
          (r.data 0).toInt = EXHAUSTED_MAGIC then
        written o.sync.flush (.flush, snprintfWrite 10 (toString H.timestampSyncCode ++ "\n"))
      else []) := by
  unfold processEvent; dsimp only
  rcases h : H.decodeTag r.sensorsid with _ | (k | _ | _ | _)
  · simp [stampSlot]
  · obtain ⟨pe, h'⟩ := decodeSample_frame H o k r (s.stampSlot H r.sensorsid r.time.toInt)
    dsimp only; rw [h']; simp [stampSlot]
  · simp [stampSlot]
  · by_cases hm : (r.data 0).toInt = SYNC_ACK_MAGIC <;> simp [hm, stampSlot]
  · by_cases hm : (r.data 0).toInt = EXHAUSTED_MAGIC <;> simp [hm, syncTimestamp_eq, stampSlot]

/-- The faults `processEvent` logs past its timestamp write: those of a sensor kind's case,
and the use of the path by the sync request a `TIME_DIFF_EXHAUSTED` record re-issues. -/
def processFaults (r : Record) (dataFd : Bool) : List Fault :=
  match H.decodeTag r.sensorsid with
  | some (.sensor k) => sampleFaults k
  | some .timeDiffExhausted =>
    if (r.data 0).toInt = EXHAUSTED_MAGIC then pathFaults dataFd 1 else []
  | _ => []

theorem processFaults_isMutex {r : Record} {dataFd : Bool} {f : Fault}
    (h : f ∈ processFaults H r dataFd) : f.isMutex = false := by
  unfold processFaults at h
  split at h
  · rename_i k _; cases k <;> simp_all [sampleFaults] <;> subst h <;> rfl
  · split at h
    · rw [mem_pathFaults h]; rfl
    · simp at h
  · simp at h

/-- From a free mutex, `processEvent` leaves it free and logs the table fault of its
timestamp write, then the faults of its case. -/
theorem processEvent_mutex (o : ProcessOutcome) (r : Record) {s : CwMcuSensor}
    (hs : s.sysFsMutex = false) :
    (processEvent H o r s).2.sysFsMutex = false ∧
      (processEvent H o r s).2.faults =
        logUnless (r.sensorsid < H.numSensors) (.tableIndex r.sensorsid) s.faults ++
          processFaults H r s.dataFd := by
  unfold processEvent processFaults; dsimp only
  rcases h : H.decodeTag r.sensorsid with _ | (k | _ | _ | _)
  · simp [hs, stampSlot]
  · obtain ⟨pe, h'⟩ := decodeSample_frame H o k r (s.stampSlot H r.sensorsid r.time.toInt)
    dsimp only; rw [h']; simp [hs, stampSlot]
  · simp [hs, stampSlot]
  · by_cases hm : (r.data 0).toInt = SYNC_ACK_MAGIC <;> simp [hm, hs, stampSlot]
  · by_cases hm : (r.data 0).toInt = EXHAUSTED_MAGIC <;> simp [hm, syncTimestamp_eq, hs, stampSlot]

/-- `calculate_rv_4th_element` writes only the slot it is called on. -/
theorem calculateRv4thElement_slot {sensorsId i : ℕ} (h : i ≠ sensorsId) (s : CwMcuSensor) :
    (calculateRv4thElement H sensorsId s).mPendingEvents i = s.mPendingEvents i := by
  unfold calculateRv4thElement
  split
  · split <;> simp [Function.update, h]
  · rfl

end CwMcuSensor

end SensorHub
