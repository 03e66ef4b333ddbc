import SensorHub.Event

/-!
# The driver's state

`CwMcuSensor` is the class's state: its members, the two file-scope globals
`fill_block_debug` and `sys_fs_mutex`, and two observers the proofs read:

* `sysfs`, the writes that reached a sysfs attribute, oldest first;
* `faults`, the steps whose behaviour C leaves undefined, in the order they ran.

A fault does not stop the model. The three accesses of `mPendingEvents` whose index is
the record's tag byte (`processEvent`'s timestamp write, `readEvents`' timestamp write and
its copy of the slot) are checked: outside `[0, numSensors)` they are logged as
`Fault.tableIndex` and land in a cell beyond the table. The test `mEnabled & (1<<id)`
logs `Fault.shiftAmount` for `id ≥ 32` and shifts by `id % 32`, as the 32-bit shift
instructions do. Locking the mutex while holding it (a deadlock) and unlocking it while not
holding it are logged too. Every other access of the table is at a sensor kind's tag,
inside the table by `Header.tag_lt_numSensors`, and is a plain update.

The constructor sets `fixed_sysfs_path`, `fixed_sysfs_path_len` and `mDevPath` only when
the data device opens (`data_fd >= 0`); `dataFd` records that. Every later use of a path
(`sysfsPath`) on a driver whose device did not open reads those members uninitialised and
is logged as `Fault.unsetPath`; the model then goes on with the outcome of the `open` it is
given, which covers the path naming no file.

The member `mInputReader` is an `InputEventCircularReader`, a class whose code is not among
the sources. It is kept beside this state, as the list of buffered records that
`readEvents` takes and returns (`SensorHub.Dispatch`): nothing else reads it.

The I/O the driver performs is an input: each operation takes the outcome of every system
call it makes (`SysfsOutcome` for an `open` and `write` of an attribute, the value of each
`getTimestamp()`), so that "for every outcome" is a quantifier over these.
-/

namespace SensorHub

/-- Undefined behaviour, as logged by the model, at the step that shows it. The calibration
blocks, which the model runs on the files alone (`SensorHub.Calibration`), log the
`fscanf` conversions out of range in the result of the read (`scanRange`); the path they
build (`strcpy(&fixed_sysfs_path[fixed_sysfs_path_len], ...)`) is not logged there. The
runs of `SensorHub.Threads` log a data race at the step of the dispatch thread that meets a
control call stopped in its locked section: a pass that reads `mEnabled` or `l_timestamp`,
which the held call is still to write, or a fill after a held `setEnable` wrote
`fill_block_debug`. A control call stops only at those points, so an access that races with
another part of a locked section is not logged; a run of whole calls
(`SensorHub.Call.step`) logs none. -/
inductive Fault
  /-- `mPendingEvents[i]` with `i ∉ [0, numSensors)`. -/
  | tableIndex (i : ℕ)
  /-- `1 << n` with `n ≥ 32`. -/
  | shiftAmount (n : ℕ)
  /-- `pthread_mutex_lock(&sys_fs_mutex)` by the thread that holds it. -/
  | relock
  /-- `pthread_mutex_unlock(&sys_fs_mutex)` by a thread that does not hold it. -/
  | unlockUnheld
  /-- A `%d` conversion of `scanf` that read a number `v` no `int` holds. -/
  | scanRange (v : ℤ)
  /-- A path built from `fixed_sysfs_path` and `fixed_sysfs_path_len`, or from `mDevPath`,
  which the constructor left uninitialised because the data device did not open. -/
  | unsetPath
  /-- `ALOGI("sensors_id = %d, data = %d", sensorsid, data)` in the significant-motion case of
  `processEvent`: the array `data` is passed for a `%d`. -/
  | formatArg
  /-- The `int16_t` array `data` of `processEvent` read through an `int32_t` or `uint32_t`
  lvalue, in the pressure and step-counter cases. -/
  | typePun
  /-- An access of the dispatch thread, which holds no lock, to a member that a control call
  inside its locked section writes. -/
  | dataRace
  deriving DecidableEq, Repr

/-- The faults of the lock discipline. -/
def Fault.isMutex : Fault → Bool
  | .relock | .unlockUnheld => true
  | _ => false

@[simp] theorem Fault.isMutex_tableIndex (i : ℕ) : (Fault.tableIndex i).isMutex = false := rfl

@[simp] theorem Fault.isMutex_shiftAmount (n : ℕ) : (Fault.shiftAmount n).isMutex = false := rfl

@[simp] theorem Fault.isMutex_unsetPath : Fault.unsetPath.isMutex = false := rfl

@[simp] theorem Fault.isMutex_dataRace : Fault.dataRace.isMutex = false := rfl

/-- The sysfs attributes the driver writes. -/
inductive Attr
  | bufferLength
  | currentTrigger
  | bufferEnable
  | enable
  | batchEnable
  | flush
  | delayMs
  deriving DecidableEq, Repr

/-- The outcome of `open` and `write` on a sysfs attribute. -/
structure SysfsOutcome where
  opened : Bool
  written : Bool
  /-- The `errno` a failed call leaves. -/
  errno : ℕ
  deriving Inhabited

/-- The error numbers of `<errno.h>` the driver returns. -/
def EINVAL : ℤ := 22
def EBADF : ℤ := 9
def EACCES : ℤ := 13
def EIO : ℤ := 5
def ENOENT : ℤ := 2

/-- The `#define`s of `CwMcuSensor.cpp`. -/
def INT32_CHAR_LEN : ℕ := 12
def IIO_MAX_BUFF_SIZE : ℤ := 1024
def NS_PER_MS : ℤ := 1000000
def SYNC_ACK_MAGIC : ℤ := 0x66
def EXHAUSTED_MAGIC : ℤ := 0x77
def LIGHTSENSOR_LEVEL : ℕ := 10

/-- The narrowing of a 64-bit integer to `int`. -/
def int32 (x : ℤ) : ℤ := (BitVec.ofInt 32 x).toInt

/-- What `write(fd, buf, min(n, size))` sends after `n = snprintf(buf, size, ...)` has
formatted `text`: the text, or its first `size - 1` characters and the terminating NUL when
it does not fit. -/
def snprintfWrite (size : ℕ) (text : String) : String :=
  if text.length < size then text else ⟨text.data.take (size - 1) ++ [Char.ofNat 0]⟩

theorem snprintfWrite_of_lt {size : ℕ} {text : String} (h : text.length < size) :
    snprintfWrite size text = text :=
  if_pos h

/-- The state of a `CwMcuSensor` and of the globals of its file. -/
structure CwMcuSensor where
  mEnabled : BitVec 32
  mPendingMask : BitVec 32
  mPendingEvents : ℕ → SensorsEvent
  mPendingEventsFlush : SensorsEvent
  mFlushSensorEnabled : ℤ
  lTimestamp : ℤ
  gTimestamp : ℤ
  initTriggerDone : Bool
  mTriggerName : String
  /-- `fill_block_debug == 1`. -/
  fillBlockDebug : Bool
  /-- `sys_fs_mutex` is held by the running thread. -/
  sysFsMutex : Bool
  /-- `data_fd >= 0`: the data device opened, and the constructor set `fixed_sysfs_path`,
  `fixed_sysfs_path_len` and `mDevPath`. -/
  dataFd : Bool
  sysfs : List (Attr × String)
  faults : List Fault

namespace CwMcuSensor

variable (H : Header)

/-- The fault log `fs` after a step that is defined when `ok` holds. -/
def logUnless (ok : Bool) (f : Fault) (fs : List Fault) : List Fault :=
  if ok then fs else fs ++ [f]

/-- `pthread_mutex_lock(&sys_fs_mutex)`. -/
def lock (s : CwMcuSensor) : CwMcuSensor :=
  { s with sysFsMutex := true, faults := logUnless (!s.sysFsMutex) .relock s.faults }

/-- `pthread_mutex_unlock(&sys_fs_mutex)`. -/
def unlock (s : CwMcuSensor) : CwMcuSensor :=
  { s with sysFsMutex := false, faults := logUnless s.sysFsMutex .unlockUnheld s.faults }

@[simp] theorem lock_mEnabled (s : CwMcuSensor) : s.lock.mEnabled = s.mEnabled := rfl

@[simp] theorem unlock_mEnabled (s : CwMcuSensor) : s.unlock.mEnabled = s.mEnabled := rfl

@[simp] theorem lock_sysfs (s : CwMcuSensor) : s.lock.sysfs = s.sysfs := rfl

@[simp] theorem lock_dataFd (s : CwMcuSensor) : s.lock.dataFd = s.dataFd := rfl

@[simp] theorem lock_sysFsMutex (s : CwMcuSensor) : s.lock.sysFsMutex = true := rfl

@[simp] theorem unlock_sysFsMutex (s : CwMcuSensor) : s.unlock.sysFsMutex = false := rfl

@[simp] theorem lock_faults (s : CwMcuSensor) :
    s.lock.faults = logUnless (!s.sysFsMutex) .relock s.faults := rfl

@[simp] theorem unlock_faults (s : CwMcuSensor) :
    s.unlock.faults = logUnless s.sysFsMutex .unlockUnheld s.faults := rfl

@[simp] theorem unlock_dataFd (s : CwMcuSensor) : s.unlock.dataFd = s.dataFd := rfl

@[simp] theorem unlock_sysfs (s : CwMcuSensor) : s.unlock.sysfs = s.sysfs := rfl

/-- Taking a free mutex and releasing it changes nothing. -/
theorem lock_unlock {s : CwMcuSensor} (h : s.sysFsMutex = false) : s.lock.unlock = s := by
  cases s
  simp_all [lock, unlock, logUnless]

/-- The write `w`, if the `open` and the `write` went through. -/
def written (o : SysfsOutcome) (w : Attr × String) : List (Attr × String) :=
  if o.opened && o.written then [w] else []

theorem mem_written {o : SysfsOutcome} {w w' : Attr × String} (h : w ∈ written o w') :
    w = w' := by
  unfold written at h
  split at h
  · exact List.mem_singleton.mp h
  · exact absurd h (List.not_mem_nil _)

/-- Record a write that reached the attribute. -/
def record (attr : Attr) (text : String) (o : SysfsOutcome) (s : CwMcuSensor) :
    CwMcuSensor :=
  { s with sysfs := s.sysfs ++ written o (attr, text) }

/-- The last text that reached the attribute `attr`, if any. -/
def lastWrite (attr : Attr) (log : List (Attr × String)) : Option String :=
  ((log.filter fun w => w.1 == attr).getLast?).map Prod.snd

@[simp] theorem lastWrite_nil (attr : Attr) : lastWrite attr [] = none := rfl

theorem lastWrite_append (attr : Attr) (l l' : List (Attr × String)) :
    lastWrite attr (l ++ l') = (lastWrite attr l').or (lastWrite attr l) := by
  simp [lastWrite, List.filter_append, Option.map_or']

@[simp] theorem lastWrite_written (attr : Attr) (o : SysfsOutcome) (w : Attr × String) :
    lastWrite attr (written o w) = if o.opened && o.written && w.1 == attr then some w.2 else none := by
  unfold written
  by_cases ho : (o.opened && o.written) = true <;> by_cases ha : w.1 = attr <;> simp [lastWrite, ho, ha]

/-- The faults of `n` uses of the sysfs paths: none once the data device has opened. -/
def pathFaults (dataFd : Bool) (n : ℕ) : List Fault :=
  if dataFd then [] else List.replicate n .unsetPath

@[simp] theorem pathFaults_true (n : ℕ) : pathFaults true n = [] := rfl

@[simp] theorem pathFaults_zero (dataFd : Bool) : pathFaults dataFd 0 = [] := by
  cases dataFd <;> rfl

theorem pathFaults_add (dataFd : Bool) (m n : ℕ) :
    pathFaults dataFd m ++ pathFaults dataFd n = pathFaults dataFd (m + n) := by
  cases dataFd
  · exact (List.replicate_add m n _).symm
  · rfl

theorem mem_pathFaults {dataFd : Bool} {n : ℕ} {f : Fault} (h : f ∈ pathFaults dataFd n) :
    f = .unsetPath := by
  cases dataFd
  · exact List.eq_of_mem_replicate h
  · exact absurd h (List.not_mem_nil _)

/-- `strcpy(&fixed_sysfs_path[fixed_sysfs_path_len], attr)`, or the `snprintf` of a path from
`mDevPath`, before an `open`. -/
def sysfsPath (s : CwMcuSensor) : CwMcuSensor :=
  { s with faults := s.faults ++ pathFaults s.dataFd 1 }

@[simp] theorem sysfsPath_sysfs (s : CwMcuSensor) : s.sysfsPath.sysfs = s.sysfs := rfl

@[simp] theorem sysfsPath_mEnabled (s : CwMcuSensor) : s.sysfsPath.mEnabled = s.mEnabled := rfl

@[simp] theorem sysfsPath_dataFd (s : CwMcuSensor) : s.sysfsPath.dataFd = s.dataFd := rfl

@[simp] theorem sysfsPath_sysFsMutex (s : CwMcuSensor) : s.sysfsPath.sysFsMutex = s.sysFsMutex :=
  rfl

@[simp] theorem sysfsPath_faults (s : CwMcuSensor) :
    s.sysfsPath.faults = s.faults ++ pathFaults s.dataFd 1 := rfl

/-- `sysfs_set_input_attr(attr, value, len)`. -/
def sysfsSetInputAttr (attr : Attr) (value : String) (o : SysfsOutcome) (s : CwMcuSensor) :
    ℤ × CwMcuSensor :=
  (if !o.opened then -EACCES else if !o.written then - EIO else 0,
    s.sysfsPath.record attr value o)

/-- `sysfs_set_input_attr_by_int(attr, value)`. -/
def sysfsSetInputAttrByInt (attr : Attr) (value : ℤ) (o : SysfsOutcome) (s : CwMcuSensor) :
    ℤ × CwMcuSensor :=
  let buf := toString value
  if buf.length > INT32_CHAR_LEN then (-1, s)
  else sysfsSetInputAttr attr (snprintfWrite INT32_CHAR_LEN buf) o s

/-- `mPendingEvents[id].timestamp = t` at an index taken from a record. -/
def stampSlot (id : ℕ) (t : ℤ) (s : CwMcuSensor) : CwMcuSensor :=
  { s with
    mPendingEvents := Function.update s.mPendingEvents id ((s.mPendingEvents id).setTimestamp t)
    faults := logUnless (id < H.numSensors) (.tableIndex id) s.faults }

@[simp] theorem stampSlot_faults (id : ℕ) (t : ℤ) (s : CwMcuSensor) :
    (s.stampSlot H id t).faults = logUnless (id < H.numSensors) (.tableIndex id) s.faults := rfl

@[simp] theorem stampSlot_sysFsMutex (id : ℕ) (t : ℤ) (s : CwMcuSensor) :
    (s.stampSlot H id t).sysFsMutex = s.sysFsMutex := rfl

@[simp] theorem stampSlot_sysfs (id : ℕ) (t : ℤ) (s : CwMcuSensor) :
    (s.stampSlot H id t).sysfs = s.sysfs := rfl

@[simp] theorem stampSlot_mEnabled (id : ℕ) (t : ℤ) (s : CwMcuSensor) :
    (s.stampSlot H id t).mEnabled = s.mEnabled := rfl

@[simp] theorem stampSlot_dataFd (id : ℕ) (t : ℤ) (s : CwMcuSensor) :
    (s.stampSlot H id t).dataFd = s.dataFd := rfl

/-- The copy `*data++ = mPendingEvents[id]` at an index taken from a record. -/
def readSlot (id : ℕ) (s : CwMcuSensor) : SensorsEvent × CwMcuSensor :=
  (s.mPendingEvents id,
    { s with faults := logUnless (id < H.numSensors) (.tableIndex id) s.faults })

/-- The test `mEnabled & (1<<id)`. -/
def enabledBit (id : ℕ) (s : CwMcuSensor) : Bool × CwMcuSensor :=
  (s.mEnabled &&& 1#32 <<< (id % 32) != 0,
    { s with faults := logUnless (id < 32) (.shiftAmount id) s.faults })

/-- An update of the slot of sensor kind `k`, inside the table. -/
def modifySlot (k : SensorKind) (f : SensorsEvent → SensorsEvent) (s : CwMcuSensor) :
    CwMcuSensor :=
  { s with
    mPendingEvents := Function.update s.mPendingEvents (H.tag k) (f (s.mPendingEvents (H.tag k))) }

theorem sysfsSetInputAttrByInt_snd (attr : Attr) {value : ℤ}
    (hv : (toString value).length < INT32_CHAR_LEN) (o : SysfsOutcome) (s : CwMcuSensor) :
    (s.sysfsSetInputAttrByInt attr value o).2 = s.sysfsPath.record attr (toString value) o := by
  simp [sysfsSetInputAttrByInt, sysfsSetInputAttr, snprintfWrite, hv, hv.le.not_lt]

/-- A sysfs write changes only the log of writes, and the faults of its path. -/
theorem sysfsSetInputAttr_snd (attr : Attr) (value : String) (o : SysfsOutcome)
    (s : CwMcuSensor) : (s.sysfsSetInputAttr attr value o).2 = s.sysfsPath.record attr value o :=
  rfl

/-- A sysfs write fails exactly when its `open` or its `write` does. -/
theorem sysfsSetInputAttr_fst_lt_zero (attr : Attr) (value : String) (o : SysfsOutcome)
    (s : CwMcuSensor) :
    (s.sysfsSetInputAttr attr value o).1 < 0 ↔ (o.opened && o.written) = false := by
  rcases o with ⟨_ | _, _ | _, _⟩ <;> simp [sysfsSetInputAttr, EACCES, EIO]

@[simp] theorem logUnless_true (f : Fault) (fs : List Fault) : logUnless true f fs = fs := rfl

theorem logUnless_append (ok : Bool) (f : Fault) (fs new : List Fault) :
    logUnless ok f (fs ++ new) = fs ++ logUnless ok f new := by
  cases ok <;> simp [logUnless]

theorem mem_logUnless {ok : Bool} {f g : Fault} {fs : List Fault} :
    g ∈ logUnless ok f fs ↔ g ∈ fs ∨ (ok = false ∧ g = f) := by
  cases ok <;> simp [logUnless]

theorem forall_mem_logUnless {p : Fault → Prop} {ok : Bool} {f : Fault} {fs : List Fault} :
    (∀ g ∈ logUnless ok f fs, p g) ↔ (∀ g ∈ fs, p g) ∧ (ok = false → p f) := by
  cases ok <;> simp [logUnless, or_imp, forall_and]

/-- `t` follows `s` with the mutex free, having logged no fault of the lock discipline. -/
def AppendsClean (s t : CwMcuSensor) : Prop :=
  t.sysFsMutex = false ∧ ∃ new, t.faults = s.faults ++ new ∧ ∀ f ∈ new, f.isMutex = false

theorem AppendsClean.refl {s : CwMcuSensor} (hs : s.sysFsMutex = false) : AppendsClean s s :=
  ⟨hs, [], by simp, nofun⟩

theorem AppendsClean.trans {s t u : CwMcuSensor} (h₁ : AppendsClean s t) (h₂ : AppendsClean t u) :
    AppendsClean s u := by
  obtain ⟨-, n₁, hf₁, hn₁⟩ := h₁
  obtain ⟨hm, n₂, hf₂, hn₂⟩ := h₂
  refine ⟨hm, n₁ ++ n₂, by rw [hf₂, hf₁, List.append_assoc], fun f hf => ?_⟩
  rcases List.mem_append.mp hf with h | h
  · exact hn₁ f h
  · exact hn₂ f h

/-- The faults logged before a step stay in the log. -/
theorem AppendsClean.mem {s t : CwMcuSensor} (h : AppendsClean s t) {f : Fault}
    (hf : f ∈ s.faults) : f ∈ t.faults := by
  obtain ⟨-, n, hn, -⟩ := h
  rw [hn]; exact List.mem_append_left _ hf

/-- A step that logs `f` unless `ok`, with `f` outside the lock discipline. -/
theorem appendsClean_logUnless {s t : CwMcuSensor} (ht : t.sysFsMutex = false) {ok : Bool}
    {f : Fault} (hf : t.faults = logUnless ok f s.faults) (hfm : f.isMutex = false) :
    AppendsClean s t :=
  ⟨ht, logUnless ok f [], by simpa [hf] using logUnless_append ok f s.faults [],
    fun g hg => by cases ok <;> simp_all [logUnless]⟩

/-- A step that logs the uses of its paths. -/
theorem appendsClean_pathFaults {s t : CwMcuSensor} (ht : t.sysFsMutex = false) {n : ℕ}
    (hf : t.faults = s.faults ++ pathFaults s.dataFd n) : AppendsClean s t :=
  ⟨ht, _, hf, fun f h => by rw [mem_pathFaults h]; rfl⟩

end CwMcuSensor

end SensorHub
