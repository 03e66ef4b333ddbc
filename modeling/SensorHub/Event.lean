import SensorHub.Header

/-!
# Records and sensor events

The two data formats the dispatch core moves between. A `Record` is one 24-byte unit of
the `iio:device` stream, grouped the way `processEvent` copies it out: the tag byte, three
little-endian `int16` values `data`, three `int16` values `bias`, and the `int64` device
time. Bytes 21 to 23 are read by nothing and are left out.

A `SensorsEvent` is the framework's `sensors_event_t` as far as the driver writes it: the
header fields and the 64-byte payload union. The union is kept as what it is in memory,
sixteen 32-bit words, so that its views alias as they do in C: `data[i]` is word `i`,
`sensors_vec_t::status` is the low byte of word 3, `u64.step_counter` is words 0 and 1,
and `meta_data` is words 0 (`what`) and 1 (`sensor`). `setData_zero_stepCounter` is the
aliasing the step detector runs into: a float written to `data[0]` replaces the low half of
the step count.
-/

namespace SensorHub

/-- One record of the stream, byte 0 first (`cw_event::data`). -/
structure Record where
  /-- Byte 0, `sensorsid`. -/
  tag : BitVec 8
  /-- Bytes 1 to 6, `int16_t data[3]`. -/
  data : Fin 3 → BitVec 16
  /-- Bytes 7 to 12, `int16_t bias[3]`. -/
  bias : Fin 3 → BitVec 16
  /-- Bytes 13 to 20, `int64_t time`. -/
  time : BitVec 64
  deriving Inhabited

namespace Record

/-- `sensorsid = (int)event[0]`, in `[0, 256)`. -/
def sensorsid (r : Record) : ℕ := r.tag.toNat

theorem sensorsid_lt (r : Record) : r.sensorsid < 256 := r.tag.isLt

/-- `*(int32_t *)(&data[0])`: `data[0]` and `data[1]` read as one little-endian `int32`. -/
def dataInt32 (r : Record) : ℤ := (r.data 1 ++ r.data 0).toInt

/-- `*(uint32_t *)&data[0]`. -/
def dataUInt32 (r : Record) : BitVec 32 := r.data 1 ++ r.data 0

end Record

/-- `sensors_event_t`, with the payload union as sixteen 32-bit words. -/
structure SensorsEvent where
  version : ℤ
  sensor : ℤ
  type : ℤ
  timestamp : ℤ
  payload : Fin 16 → BitVec 32
  deriving Inhabited

namespace SensorsEvent

/-- `u64.step_counter`: words 0 and 1, little-endian. -/
def stepCounter (e : SensorsEvent) : BitVec 64 := e.payload 1 ++ e.payload 0

/-- `meta_data.sensor`, the `int32` in word 1. -/
def metaSensor (e : SensorsEvent) : ℤ := (e.payload 1).toInt

/-- `meta_data.what`, the `int32` in word 0. -/
def metaWhat (e : SensorsEvent) : ℤ := (e.payload 0).toInt

/-- `sensors_vec_t::status`, the `int8` at byte 12: the low byte of word 3. -/
def status (e : SensorsEvent) : BitVec 8 := (e.payload 3).truncate 8

/-- `e.timestamp = t`. -/
def setTimestamp (t : ℤ) (e : SensorsEvent) : SensorsEvent := { e with timestamp := t }

/-- `e.data[i] = v` for a float `v` given by its bits. -/
def setData (i : Fin 16) (v : BitVec 32) (e : SensorsEvent) : SensorsEvent :=
  { e with payload := Function.update e.payload i v }

/-- `e.orientation.status = b` (the same byte as `e.magnetic.status`). -/
def setStatus (b : BitVec 8) (e : SensorsEvent) : SensorsEvent :=
  e.setData 3 ((e.payload 3).extractLsb' 8 24 ++ b)

/-- `e.u64.step_counter = c`. -/
def setStepCounter (c : BitVec 64) (e : SensorsEvent) : SensorsEvent :=
  (e.setData 0 (c.extractLsb' 0 32)).setData 1 (c.extractLsb' 32 32)

/-- `e.meta_data.what = what; e.meta_data.sensor = sensor`. -/
def setMeta (what sensor : ℤ) (e : SensorsEvent) : SensorsEvent :=
  (e.setData 0 (BitVec.ofInt 32 what)).setData 1 (BitVec.ofInt 32 sensor)

@[simp] theorem setTimestamp_timestamp (t : ℤ) (e : SensorsEvent) :
    (e.setTimestamp t).timestamp = t := rfl

@[simp] theorem setTimestamp_payload (t : ℤ) (e : SensorsEvent) :
    (e.setTimestamp t).payload = e.payload := rfl

@[simp] theorem setData_timestamp (i : Fin 16) (v : BitVec 32) (e : SensorsEvent) :
    (e.setData i v).timestamp = e.timestamp := rfl

@[simp] theorem setData_payload (i : Fin 16) (v : BitVec 32) (e : SensorsEvent) :
    (e.setData i v).payload = Function.update e.payload i v := rfl

/-- A step count written to `u64.step_counter` reads back. -/
@[simp] theorem setStepCounter_stepCounter (c : BitVec 64) (e : SensorsEvent) :
    (e.setStepCounter c).stepCounter = c := by
  have hi : ∀ i : Fin 64, (i : ℕ) < 64 := Fin.isLt
  simp only [stepCounter, setStepCounter, setData_payload]
  ext i
  rw [BitVec.getLsbD_append]
  by_cases h : (i : ℕ) < 32
  · simp [h, Function.update, BitVec.getLsbD_extractLsb']
  · simp [h, Function.update, BitVec.getLsbD_extractLsb', show (i : ℕ) - 32 < 32 by omega,
      show 32 + ((i : ℕ) - 32) = i by omega]

@[simp] theorem setTimestamp_stepCounter (t : ℤ) (e : SensorsEvent) :
    (e.setTimestamp t).stepCounter = e.stepCounter := rfl

/-- **The union aliasing.** `data[0] = v` leaves the high word of `u64.step_counter` and
replaces its low word by the bits of `v`. -/
theorem setData_zero_stepCounter (v : BitVec 32) (e : SensorsEvent) :
    (e.setData 0 v).stepCounter = e.payload 1 ++ v := by
  simp [stepCounter, Function.update]

/-- The header of an event: `version`, `sensor` and `type`, which the constructor sets and
no write to the payload or the timestamp touches. -/
def header (e : SensorsEvent) : ℤ × ℤ × ℤ := (e.version, e.sensor, e.type)

@[simp] theorem setTimestamp_header (t : ℤ) (e : SensorsEvent) :
    (e.setTimestamp t).header = e.header := rfl

@[simp] theorem setData_header (i : Fin 16) (v : BitVec 32) (e : SensorsEvent) :
    (e.setData i v).header = e.header := rfl

@[simp] theorem setStatus_header (b : BitVec 8) (e : SensorsEvent) :
    (e.setStatus b).header = e.header := rfl

@[simp] theorem setStepCounter_header (c : BitVec 64) (e : SensorsEvent) :
    (e.setStepCounter c).header = e.header := rfl

@[simp] theorem setMeta_header (what sensor : ℤ) (e : SensorsEvent) :
    (e.setMeta what sensor).header = e.header := rfl

end SensorsEvent

end SensorHub
