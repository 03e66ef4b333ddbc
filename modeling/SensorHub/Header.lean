import Mathlib.Tactic.DeriveFintype
import Mathlib.Data.Fintype.Basic

/-!
# Sensor kinds and the constants of `CwMcuSensor.h`

`CwMcuSensor.cpp` takes its numbers from headers that are not part of the sources:
the `CW_SENSORS_ID` enumeration (the tag byte of each record, also the index of the
sensor's slot in `mPendingEvents` and its bit in `mEnabled` and `mPendingMask`), the
framework handles `ID_A`, `ID_M`, ..., the table size `numSensors`, the bound
`CW_SENSORS_ID_END`, the scale factors `CONVERT_10`, `CONVERT_100`, `CONVERT_10000`,
and the constants of the framework's `sensors.h`. Nothing here fixes their values:
a `Header` carries them as fields, and every result of the development is stated for
every header.

A header is not arbitrary, and its fields say what the source itself forces:

* the case labels of each `switch` are pairwise distinct (`Header.code_injective`,
  `Header.handle_injective`), or the file would not compile;
* the constructor writes `mPendingEvents[CW_...]` for every sensor kind, so each kind's
  tag indexes the table (`Header.tag_lt_numSensors`);
* a kind's tag is also its bit in the 32-bit masks (`Header.tag_lt_32`).

The protocol-internal tags `CW_META_DATA`, `CW_SYNC_ACK` and `TIME_DIFF_EXHAUSTED` are
bounded by nothing but their distinctness. The single-precision arithmetic of the
platform is a parameter as well (`FloatOps`): no result depends on a float value, only
on which payload word receives it.

`findSensor` and `findHandle` are the two `switch` translations between handles and
tags. `findHandle_significantMotion` records that `find_handle` has no case for
`CW_SIGNIFICANT_MOTION`, the one kind `find_sensor` maps and `find_handle` does not.
-/

namespace SensorHub

/-- The sensor kinds of `CW_SENSORS_ID` that `processEvent` decodes, one per `case`. -/
inductive SensorKind
  | acceleration
  | magnetic
  | gyro
  | light
  | pressure
  | orientation
  | rotationVector
  | linearAcceleration
  | gravity
  | magneticUncalibrated
  | gyroscopeUncalibrated
  | gameRotationVector
  | geomagneticRotationVector
  | significantMotion
  | stepDetector
  | stepCounter
  | wakeUpGesture
  deriving DecidableEq, Repr, Fintype

/-- Every sensor kind, in the order of `CW_SENSORS_ID`. -/
def SensorKind.all : List SensorKind :=
  [.acceleration, .magnetic, .gyro, .light, .pressure, .orientation, .rotationVector,
    .linearAcceleration, .gravity, .magneticUncalibrated, .gyroscopeUncalibrated,
    .gameRotationVector, .geomagneticRotationVector, .significantMotion, .stepDetector,
    .stepCounter, .wakeUpGesture]

theorem SensorKind.mem_all (k : SensorKind) : k ∈ SensorKind.all := by
  cases k <;> decide

/-- A numbering of the kinds is one-to-one when its list has no repeats. -/
theorem SensorKind.injective_of_nodup {f : SensorKind → ℤ} (h : (SensorKind.all.map f).Nodup) :
    Function.Injective f :=
  fun a b hab => List.inj_on_of_nodup_map h (SensorKind.mem_all a) (SensorKind.mem_all b) hab

/-- The labels of the `switch (sensorsid)` of `processEvent`: the sensor kinds and the
three protocol-internal tags. -/
inductive CaseLabel
  | sensor (k : SensorKind)
  | metaData
  | syncAck
  | timeDiffExhausted
  deriving DecidableEq, Repr, Fintype

/-- Every case label of `processEvent`. -/
def CaseLabel.all : List CaseLabel :=
  SensorKind.all.map .sensor ++ [.metaData, .syncAck, .timeDiffExhausted]

theorem CaseLabel.mem_all (l : CaseLabel) : l ∈ CaseLabel.all := by
  cases l with
  | sensor k => exact List.mem_append_left _ (List.mem_map_of_mem _ (SensorKind.mem_all k))
  | _ => decide

theorem CaseLabel.injective_of_nodup {f : CaseLabel → ℕ} (h : (CaseLabel.all.map f).Nodup) :
    Function.Injective f :=
  fun a b hab => List.inj_on_of_nodup_map h (CaseLabel.mem_all a) (CaseLabel.mem_all b) hab

/-- The value of a case label, given the enumerators of `CW_SENSORS_ID`. -/
def CaseLabel.code (tag : SensorKind → ℕ) (metaData syncAck timeDiffExhausted : ℕ) :
    CaseLabel → ℕ
  | .sensor k => tag k
  | .metaData => metaData
  | .syncAck => syncAck
  | .timeDiffExhausted => timeDiffExhausted

/-- The platform's single-precision arithmetic, on the bit patterns of `float`. -/
structure FloatOps where
  /-- The conversion `(float)n` of an integer. -/
  ofInt : ℤ → BitVec 32
  mul : BitVec 32 → BitVec 32 → BitVec 32
  sub : BitVec 32 → BitVec 32 → BitVec 32
  /-- `(float)sqrt(q)`. -/
  sqrt : BitVec 32 → BitVec 32
  /-- The comparison `q > 0`. -/
  pos : BitVec 32 → Bool

/-- The constants `CwMcuSensor.cpp` takes from `CwMcuSensor.h` and the framework's
`sensors.h`, with the constraints the source puts on them. -/
structure Header where
  /-- `CW_ACCELERATION`, `CW_MAGNETIC`, ...: the tag of each sensor kind. -/
  tag : SensorKind → ℕ
  /-- `CW_META_DATA`. -/
  metaData : ℕ
  /-- `CW_SYNC_ACK`. -/
  syncAck : ℕ
  /-- `TIME_DIFF_EXHAUSTED`. -/
  timeDiffExhausted : ℕ
  /-- `ID_A`, `ID_M`, ...: the framework handle of each sensor kind. -/
  handle : SensorKind → ℤ
  /-- The size of `mPendingEvents`, the bound `setEnable` and `setDelay` check. -/
  numSensors : ℕ
  /-- `CW_SENSORS_ID_END`, the bound `batch` and `flush` check. -/
  sensorsIdEnd : ℕ
  /-- `TIMESTAMP_SYNC_CODE`, the request written to `flush` by a sync. -/
  timestampSyncCode : ℤ
  convert10 : BitVec 32
  convert100 : BitVec 32
  convert10000 : BitVec 32
  /-- `SENSOR_TYPE_...` of each kind. -/
  sensorType : SensorKind → ℤ
  /-- `sizeof(sensors_event_t)`, the `version` of a sensor event. -/
  eventVersion : ℤ
  metaDataVersion : ℤ
  typeMetaData : ℤ
  /-- `META_DATA_FLUSH_COMPLETE`. -/
  flushComplete : ℤ
  /-- `SENSOR_STATUS_ACCURACY_HIGH`. -/
  accuracyHigh : ℤ
  /-- `SENSORS_BATCH_DRY_RUN`. -/
  batchDryRun : ℤ
  flt : FloatOps
  code_injective : Function.Injective (CaseLabel.code tag metaData syncAck timeDiffExhausted)
  handle_injective : Function.Injective handle
  tag_lt_numSensors : ∀ k, tag k < numSensors
  tag_lt_32 : ∀ k, tag k < 32
  numSensors_lt : numSensors < 2 ^ 31
  sensorsIdEnd_lt : sensorsIdEnd < 2 ^ 31

namespace Header

variable (H : Header)

/-- The value of a case label under this header. -/
def caseTag : CaseLabel → ℕ := CaseLabel.code H.tag H.metaData H.syncAck H.timeDiffExhausted

@[simp] theorem caseTag_sensor (k : SensorKind) : H.caseTag (.sensor k) = H.tag k := rfl
@[simp] theorem caseTag_metaData : H.caseTag .metaData = H.metaData := rfl
@[simp] theorem caseTag_syncAck : H.caseTag .syncAck = H.syncAck := rfl
@[simp] theorem caseTag_timeDiffExhausted :
    H.caseTag .timeDiffExhausted = H.timeDiffExhausted := rfl

theorem caseTag_inj (a b : CaseLabel) : H.caseTag a = H.caseTag b ↔ a = b :=
  H.code_injective.eq_iff

theorem tag_inj {k k' : SensorKind} : H.tag k = H.tag k' ↔ k = k' := by
  simpa using H.caseTag_inj (.sensor k) (.sensor k')

theorem tag_ne_metaData (k : SensorKind) : H.tag k ≠ H.metaData := by
  simpa using (H.caseTag_inj (.sensor k) .metaData).not

theorem tag_ne_syncAck (k : SensorKind) : H.tag k ≠ H.syncAck := by
  simpa using (H.caseTag_inj (.sensor k) .syncAck).not

theorem tag_ne_timeDiffExhausted (k : SensorKind) : H.tag k ≠ H.timeDiffExhausted := by
  simpa using (H.caseTag_inj (.sensor k) .timeDiffExhausted).not

/-- The `case` of `switch (sensorsid)` that a tag byte selects; `none` is `default`. -/
def decodeTag (sid : ℕ) : Option CaseLabel :=
  CaseLabel.all.find? fun l => H.caseTag l = sid

/-- The switch selects exactly the label whose value is the tag: the labels are distinct. -/
theorem decodeTag_eq_some_iff {sid : ℕ} {l : CaseLabel} :
    H.decodeTag sid = some l ↔ H.caseTag l = sid := by
  constructor
  · intro h
    simpa using List.find?_some h
  · intro h
    cases hd : H.decodeTag sid with
    | none =>
      have := List.find?_eq_none.mp hd l (CaseLabel.mem_all l)
      simp [h] at this
    | some l' =>
      have h' : H.caseTag l' = sid := by simpa using List.find?_some hd
      rw [H.code_injective (h'.trans h.symm)]

theorem decodeTag_eq_none_iff {sid : ℕ} :
    H.decodeTag sid = none ↔ ∀ l, H.caseTag l ≠ sid := by
  simp only [decodeTag, List.find?_eq_none, decide_eq_true_eq]
  exact ⟨fun h l => h l (CaseLabel.mem_all l), fun h l _ => h l⟩

@[simp] theorem decodeTag_tag (k : SensorKind) : H.decodeTag (H.tag k) = some (.sensor k) :=
  H.decodeTag_eq_some_iff.mpr rfl

@[simp] theorem decodeTag_metaData : H.decodeTag H.metaData = some .metaData :=
  H.decodeTag_eq_some_iff.mpr rfl

@[simp] theorem decodeTag_syncAck : H.decodeTag H.syncAck = some .syncAck :=
  H.decodeTag_eq_some_iff.mpr rfl

@[simp] theorem decodeTag_timeDiffExhausted :
    H.decodeTag H.timeDiffExhausted = some .timeDiffExhausted :=
  H.decodeTag_eq_some_iff.mpr rfl

/-! ### `find_sensor` and `find_handle` -/

/-- The case labels of `find_sensor`, in the order of the source. -/
def findSensorCases : List SensorKind :=
  [.acceleration, .magnetic, .gyro, .pressure, .orientation, .rotationVector,
    .linearAcceleration, .gravity, .magneticUncalibrated, .gyroscopeUncalibrated,
    .gameRotationVector, .geomagneticRotationVector, .significantMotion, .stepDetector,
    .stepCounter, .light, .wakeUpGesture]

/-- The case labels of `find_handle`, in the order of the source: every kind but
`CW_SIGNIFICANT_MOTION`. -/
def findHandleCases : List SensorKind :=
  [.acceleration, .magnetic, .gyro, .pressure, .orientation, .rotationVector,
    .linearAcceleration, .gravity, .magneticUncalibrated, .gyroscopeUncalibrated,
    .gameRotationVector, .geomagneticRotationVector, .light, .stepDetector, .stepCounter,
    .wakeUpGesture]

/-- The kind whose handle `find_sensor` matches. -/
def kindOfHandle (handle : ℤ) : Option SensorKind :=
  findSensorCases.find? fun k => H.handle k = handle

/-- `find_sensor(handle)`: the tag of the handle's kind, `-1` for any other handle. -/
def findSensor (handle : ℤ) : ℤ :=
  match H.kindOfHandle handle with
  | some k => H.tag k
  | none => -1

/-- `find_handle(sensors_id)`: the handle of the kind with that tag, `0xFF` otherwise. -/
def findHandle (sensorsId : ℤ) : ℤ :=
  match findHandleCases.find? fun k => (H.tag k : ℤ) = sensorsId with
  | some k => H.handle k
  | none => 0xFF

theorem kindOfHandle_eq_some_iff {handle : ℤ} {k : SensorKind} :
    H.kindOfHandle handle = some k ↔ H.handle k = handle := by
  constructor
  · intro h
    simpa using List.find?_some h
  · intro h
    cases hd : H.kindOfHandle handle with
    | none =>
      have := List.find?_eq_none.mp hd k (by cases k <;> decide)
      simp [h] at this
    | some k' =>
      have h' : H.handle k' = handle := by simpa using List.find?_some hd
      rw [H.handle_injective (h'.trans h.symm)]

@[simp] theorem kindOfHandle_handle (k : SensorKind) : H.kindOfHandle (H.handle k) = some k :=
  H.kindOfHandle_eq_some_iff.mpr rfl

@[simp] theorem findSensor_handle (k : SensorKind) : H.findSensor (H.handle k) = H.tag k := by
  simp [findSensor]

theorem findSensor_of_kindOfHandle_none {handle : ℤ} (h : H.kindOfHandle handle = none) :
    H.findSensor handle = -1 := by
  simp [findSensor, h]

/-- `find_handle` inverts `find_sensor` on every kind it has a case for. -/
theorem findHandle_tag {k : SensorKind} (hk : k ≠ .significantMotion) :
    H.findHandle (H.tag k) = H.handle k := by
  have hmem : k ∈ findHandleCases := by cases k <;> simp_all [findHandleCases]
  cases hd : findHandleCases.find? (fun k' => (H.tag k' : ℤ) = H.tag k) with
  | none =>
    have := List.find?_eq_none.mp hd k hmem
    simp at this
  | some k' =>
    have h' : H.tag k' = H.tag k := Int.ofNat_inj.mp (by simpa using List.find?_some hd)
    simp only [findHandle, hd, H.tag_inj.mp h']

/-- `find_handle` has no case for `CW_SIGNIFICANT_MOTION`: its tag maps to `0xFF`. -/
theorem findHandle_significantMotion :
    H.findHandle (H.tag .significantMotion) = 0xFF := by
  have hd : findHandleCases.find? (fun k => (H.tag k : ℤ) = H.tag .significantMotion) = none :=
    List.find?_eq_none.mpr fun k hk => by
      have : k ≠ .significantMotion := by rintro rfl; simp [findHandleCases] at hk
      simpa [Int.ofNat_inj, H.tag_inj] using this
  simp only [findHandle, hd]

end Header

/-- The conversion `uint32_t(x)` of a C `int`. -/
def uint32 (x : ℤ) : ℕ := (x % 2 ^ 32).toNat

@[simp] theorem uint32_natCast {n : ℕ} (h : n < 2 ^ 32) : uint32 n = n := by
  simp only [uint32]
  omega

@[simp] theorem uint32_neg_one : uint32 (-1) = 2 ^ 32 - 1 := by decide

/-- The range test `uint32_t(what) >= bound` that `setEnable`, `setDelay`, `batch` and
`flush` apply to `find_sensor`'s result fails exactly on the handles of kinds whose tag is
below the bound. -/
theorem Header.uint32_findSensor_lt_iff (H : Header) {bound : ℕ} (hb : bound < 2 ^ 31)
    (handle : ℤ) :
    uint32 (H.findSensor handle) < bound ↔
      ∃ k, H.kindOfHandle handle = some k ∧ H.tag k < bound := by
  unfold Header.findSensor
  cases hk : H.kindOfHandle handle with
  | none => simp; omega
  | some k =>
    have := H.tag_lt_32 k
    simp [uint32_natCast (show H.tag k < 2 ^ 32 by omega)]

/-! ### A sample header

The results hold for every header. `Header.sample` is one numbering that meets every
constraint above, with the framework constants of `sensors.h`, so that the model runs on
concrete records and calls. Its arithmetic `FloatOps.sample` is a stand-in (the
two's-complement operations in place of IEEE single precision): a run on it shows where
the driver writes a sample, not the float it computes. -/

/-- Stand-in single-precision arithmetic for `Header.sample`. -/
def FloatOps.sample : FloatOps where
  ofInt n := BitVec.ofInt 32 n
  mul a b := a * b
  sub a b := a - b
  sqrt a := a
  pos a := 0 < a.toInt

/-- A sample numbering of `CwMcuSensor.h` (see the section docstring). -/
def Header.sample : Header where
  tag
    | .acceleration => 0 | .magnetic => 1 | .gyro => 2 | .light => 3 | .pressure => 5
    | .orientation => 6 | .rotationVector => 7 | .linearAcceleration => 8 | .gravity => 9
    | .wakeUpGesture => 10 | .magneticUncalibrated => 16 | .gyroscopeUncalibrated => 17
    | .gameRotationVector => 18 | .geomagneticRotationVector => 19
    | .significantMotion => 20 | .stepDetector => 21 | .stepCounter => 22
  metaData := 99
  syncAck := 98
  timeDiffExhausted := 97
  handle
    | .acceleration => 0 | .magnetic => 1 | .gyro => 2 | .light => 3 | .pressure => 4
    | .orientation => 5 | .rotationVector => 6 | .linearAcceleration => 7 | .gravity => 8
    | .magneticUncalibrated => 9 | .gyroscopeUncalibrated => 10 | .gameRotationVector => 11
    | .geomagneticRotationVector => 12 | .significantMotion => 13 | .stepDetector => 14
    | .stepCounter => 15 | .wakeUpGesture => 16
  numSensors := 23
  sensorsIdEnd := 23
  timestampSyncCode := 98
  convert10 := 0x3DCCCCCD
  convert100 := 0x3C23D70A
  convert10000 := 0x38D1B717
  sensorType
    | .acceleration => 1 | .magnetic => 2 | .orientation => 3 | .gyro => 4 | .light => 5
    | .pressure => 6 | .gravity => 9 | .linearAcceleration => 10 | .rotationVector => 11
    | .magneticUncalibrated => 14 | .gameRotationVector => 15 | .gyroscopeUncalibrated => 16
    | .significantMotion => 17 | .stepDetector => 18 | .stepCounter => 19
    | .geomagneticRotationVector => 20 | .wakeUpGesture => 23
  eventVersion := 104
  metaDataVersion := 0x548d5
  typeMetaData := 0
  flushComplete := 1
  accuracyHigh := 3
  batchDryRun := 1
  flt := FloatOps.sample
  code_injective := CaseLabel.injective_of_nodup (by decide)
  handle_injective := SensorKind.injective_of_nodup (by decide)
  tag_lt_numSensors := by decide
  tag_lt_32 := by decide
  numSensors_lt := by decide
  sensorsIdEnd_lt := by decide

end SensorHub
