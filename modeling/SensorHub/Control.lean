import SensorHub.Format
import Mathlib.Data.Int.Bitwise

/-!
# The control surface

The operations the framework calls on its own threads: `setEnable`, `setDelay`, `batch`,
`flush`, `sync_timestamp`, and the constructor. Each is translated statement by statement,
with the outcome of its I/O as an argument. The calibration files the constructor restores
and `setEnable` saves touch no member of the class; `SensorHub.Calibration` models those
blocks on the files alone.

Each operation gets one lemma giving its whole effect in closed form (`setEnable_eq`,
`syncTimestamp_eq`, `batch_of_checks`, ...): the fields it writes and what it writes there. The
proofs about runs use these and never unfold an operation again.

Two results read the operations directly: a call rejected by its checks returns `-EINVAL`
and writes no attribute, but `setEnable` and `flush` have by then set `fill_block_debug` and
`mFlushSensorEnabled` (`rejected_call_writes_only_debug_state`); and the command `batch`
writes is the decimal of its arguments while the period and the timeout stay below `2^31`
ms, beyond which the narrowing to `int` wraps (`batch_writes_decimal_command`,
`batch_delay_wraps_past_int`).
-/

namespace SensorHub

namespace CwMcuSensor

variable (H : Header)

/-! ### Masks -/

/-- `m &= ~(1<<w); m |= (uint32_t(f)<<w)`. -/
def setBit (m : BitVec 32) (w f : ℕ) : BitVec 32 :=
  (m &&& ~~~(1#32 <<< w)) ||| (BitVec.ofNat 32 f <<< w)

theorem getLsbD_setBit {m : BitVec 32} {w f : ℕ} (hw : w < 32) (hf : f ≤ 1) (i : ℕ) :
    (setBit m w f).getLsbD i = if i = w then decide (f = 1) else m.getLsbD i := by
  by_cases hi : i < 32
  · rcases Nat.le_one_iff_eq_zero_or_eq_one.mp hf with rfl | rfl <;> by_cases h : i = w <;>
      simp [setBit, h, hi, hw, BitVec.getLsbD_shiftLeft, BitVec.getLsbD_one,
        Nat.sub_eq_zero_iff_le, Nat.lt_iff_le_and_ne]
  · rw [BitVec.getLsbD_ge _ i (by omega), if_neg (by omega), BitVec.getLsbD_ge m i (by omega)]

/-- The test `m & (1<<i)` reads bit `i` of `m`. -/
theorem and_shiftLeft_ne_zero {m : BitVec 32} {i : ℕ} (hi : i < 32) :
    (m &&& 1#32 <<< i != 0) = m.getLsbD i := by
  have key : ∀ j, (m &&& 1#32 <<< i).getLsbD j = (m.getLsbD i && decide (j = i)) := by
    intro j
    by_cases hj : j = i <;>
      simp [BitVec.getLsbD_shiftLeft, BitVec.getLsbD_one, hj, hi, Nat.sub_eq_zero_iff_le,
        Nat.lt_iff_le_and_ne]
  cases h : m.getLsbD i
  · simp only [bne_eq_false_iff_eq]
    ext j; simp [key, h]
  · simp only [bne_iff_ne, ne_eq]
    intro hx
    simpa [key, h] using congrArg (BitVec.getLsbD · i) hx

/-! ### `setEnable` -/

/-- A sensor kind's tag passes the range test of `setEnable` and `setDelay`. -/
@[simp] theorem uint32_tag_lt (k : SensorKind) : ¬ H.numSensors ≤ uint32 (H.tag k) := by
  have := H.tag_lt_32 k
  rw [uint32_natCast (by omega)]
  exact Nat.not_le.mpr (H.tag_lt_numSensors k)

/-- The outcomes of the system calls of `setEnable`. -/
structure SetEnableOutcome where
  /-- `property_get("debug.sensorhal.fill.block")` reads as `1`. -/
  fillBlock : Bool
  /-- The `open` and `write` of `enable`. -/
  enable : SysfsOutcome
  /-- The write of `0` to `buffer/enable` when the mask has emptied. -/
  bufferEnable : SysfsOutcome
  deriving Inhabited

/-- The condition of the calibration block of `setEnable`: it disables the compass, the
orientation or the rotation vector. -/
def savesCompass (what : ℤ) (flags : ℕ) : Prop :=
  (what = H.tag .magnetic ∧ flags = 0) ∨ (what = H.tag .orientation ∧ flags = 0) ∨
    (what = H.tag .rotationVector ∧ flags = 0)

instance (what : ℤ) (flags : ℕ) : Decidable (savesCompass H what flags) :=
  inferInstanceAs (Decidable (_ ∨ _))

/-- `setEnable` from the path of `enable` to the write of its command (lines 531–540): the
command `"<what> <flags>\n"` is written when the `open` goes through. -/
def setEnableWrite (o : SetEnableOutcome) (what : ℤ) (flags : ℕ) (s : CwMcuSensor) :
    CwMcuSensor :=
  let s := s.sysfsPath
  if o.enable.opened then
    s.record .enable (snprintfWrite 10 (toString what ++ " " ++ toString flags ++ "\n")) o.enable
  else s

/-- `setEnable` from the update of the mask to its return (lines 542–572): when `enable`
opened, the kind's bit set to `flags` and `0` written to `buffer/enable` once the mask is
empty; the path of the calibration block; the unlock. -/
def setEnableMask (o : SetEnableOutcome) (what : ℤ) (flags : ℕ) (s : CwMcuSensor) :
    CwMcuSensor :=
  let s :=
    if o.enable.opened then
      let s := { s with mEnabled := setBit s.mEnabled what.toNat flags }
      if s.mEnabled = 0 then (s.sysfsSetInputAttrByInt .bufferEnable 0 o.bufferEnable).2
      else s
    else s
  let s := if savesCompass H what flags then s.sysfsPath else s
  s.unlock

/-- `setEnable(handle, en)`. -/
def setEnable (o : SetEnableOutcome) (handle en : ℤ) (s : CwMcuSensor) : ℤ × CwMcuSensor :=
  let flags : ℕ := if en = 0 then 0 else 1
  let s := s.lock
  let s := { s with fillBlockDebug := o.fillBlock }
  let what := H.findSensor handle
  if H.numSensors ≤ uint32 what then (-EINVAL, s.unlock) else
  (0, setEnableMask H o what flags (setEnableWrite o what flags s))

/-- The uses of a sysfs path a `setEnable` of a valid handle makes: `enable`, then
`buffer/enable` when the mask empties, then the calibration file. -/
def setEnablePaths (o : SetEnableOutcome) (m : BitVec 32) (what : ℤ) (flags : ℕ) : ℕ :=
  1 + (if o.enable.opened = true ∧ m = 0 then 1 else 0) + (if savesCompass H what flags then 1 else 0)

/-- **`setEnable`, in one step.** An invalid handle changes nothing but the debug flag;
a valid one updates the kind's bit only when `enable` opened, and writes `0` to
`buffer/enable` when that leaves the mask empty. The return value is `0` either way. -/
theorem setEnable_eq (o : SetEnableOutcome) (handle en : ℤ) (s : CwMcuSensor) :
    setEnable H o handle en s =
      let what := H.findSensor handle
      let flags : ℕ := if en = 0 then 0 else 1
      let m := setBit s.mEnabled what.toNat flags
      if H.numSensors ≤ uint32 what then
        (-EINVAL, { s with
          fillBlockDebug := o.fillBlock
          sysFsMutex := false
          faults := logUnless (!s.sysFsMutex) .relock s.faults })
      else
        (0, { s with
          mEnabled := if o.enable.opened then m else s.mEnabled
          fillBlockDebug := o.fillBlock
          sysFsMutex := false
          sysfs := if o.enable.opened then
              s.sysfs ++ written o.enable (.enable, snprintfWrite 10
                (toString what ++ " " ++ toString flags ++ "\n")) ++
              (if m = 0 then written o.bufferEnable (.bufferEnable, toString (0 : ℤ)) else [])
            else s.sysfs
          faults := logUnless (!s.sysFsMutex) .relock s.faults ++
            pathFaults s.dataFd (setEnablePaths H o m what flags) }) := by
  rcases o with ⟨fb, ⟨op, wr, er⟩, bo⟩
  have h0 : (toString (0 : ℤ)).length < INT32_CHAR_LEN := by decide
  by_cases hc : H.numSensors ≤ uint32 (H.findSensor handle)
  · simp [setEnable, hc, lock, unlock]
  · by_cases hm : setBit s.mEnabled (H.findSensor handle).toNat (if en = 0 then 0 else 1) = 0#32 <;>
    by_cases hsc : savesCompass H (H.findSensor handle) (if en = 0 then 0 else 1) <;> cases op <;>
      simp [setEnable, setEnableWrite, setEnableMask, setEnablePaths, hc, hm, hsc, lock, unlock,
        record, sysfsPath, sysfsSetInputAttrByInt_snd _ h0, pathFaults_add]

/-- `setEnable` writes the mask, the debug flag, the mutex, the sysfs log and the faults. -/
theorem setEnable_frame (o : SetEnableOutcome) (handle en : ℤ) (s : CwMcuSensor) :
    ∃ m ws fs, (setEnable H o handle en s).2 =
      { s with mEnabled := m, fillBlockDebug := o.fillBlock, sysFsMutex := false, sysfs := ws,
               faults := logUnless (!s.sysFsMutex) .relock s.faults ++ fs } := by
  rw [setEnable_eq]; dsimp only; split
  · exact ⟨s.mEnabled, s.sysfs, [], by simp⟩
  · exact ⟨_, _, _, rfl⟩

@[simp] theorem setEnable_mPendingMask (o : SetEnableOutcome) (handle en : ℤ) (s : CwMcuSensor) :
    (setEnable H o handle en s).2.mPendingMask = s.mPendingMask := by
  obtain ⟨_, _, _, h⟩ := setEnable_frame H o handle en s; rw [h]

@[simp] theorem setEnable_mPendingEvents (o : SetEnableOutcome) (handle en : ℤ) (s : CwMcuSensor) :
    (setEnable H o handle en s).2.mPendingEvents = s.mPendingEvents := by
  obtain ⟨_, _, _, h⟩ := setEnable_frame H o handle en s; rw [h]

@[simp] theorem setEnable_lTimestamp (o : SetEnableOutcome) (handle en : ℤ) (s : CwMcuSensor) :
    (setEnable H o handle en s).2.lTimestamp = s.lTimestamp := by
  obtain ⟨_, _, _, h⟩ := setEnable_frame H o handle en s; rw [h]

@[simp] theorem setEnable_gTimestamp (o : SetEnableOutcome) (handle en : ℤ) (s : CwMcuSensor) :
    (setEnable H o handle en s).2.gTimestamp = s.gTimestamp := by
  obtain ⟨_, _, _, h⟩ := setEnable_frame H o handle en s; rw [h]

@[simp] theorem setEnable_sysFsMutex (o : SetEnableOutcome) (handle en : ℤ) (s : CwMcuSensor) :
    (setEnable H o handle en s).2.sysFsMutex = false := by
  rw [setEnable_eq]; dsimp only; split <;> rfl

@[simp] theorem setEnable_dataFd (o : SetEnableOutcome) (handle en : ℤ) (s : CwMcuSensor) :
    (setEnable H o handle en s).2.dataFd = s.dataFd := by
  obtain ⟨_, _, _, h⟩ := setEnable_frame H o handle en s; rw [h]

/-- `setEnable` logs a relock, and the uses of its paths on a driver whose device did not
open. -/
theorem setEnable_faults (o : SetEnableOutcome) (handle en : ℤ) (s : CwMcuSensor) :
    ∃ n, (setEnable H o handle en s).2.faults =
      logUnless (!s.sysFsMutex) .relock s.faults ++ pathFaults s.dataFd n := by
  rw [setEnable_eq]; dsimp only; split
  · exact ⟨0, by simp⟩
  · exact ⟨_, rfl⟩

theorem mem_setEnable_faults {f : Fault} (o : SetEnableOutcome) (handle en : ℤ) {s : CwMcuSensor}
    (hf : f ∈ s.faults) : f ∈ (setEnable H o handle en s).2.faults := by
  obtain ⟨n, hn⟩ := setEnable_faults H o handle en s
  simp [hn, mem_logUnless, hf]

theorem findSensor_of_kindOfHandle {handle : ℤ} {k : SensorKind}
    (hk : H.kindOfHandle handle = some k) : H.findSensor handle = H.tag k := by
  simp [Header.findSensor, hk]

/-- What `setEnable` returns: `-EINVAL` for a handle of no kind, `0` for every other. -/
theorem setEnable_fst (o : SetEnableOutcome) (handle en : ℤ) (s : CwMcuSensor) :
    (setEnable H o handle en s).1 = if H.kindOfHandle handle = none then -EINVAL else 0 := by
  have hN : H.numSensors ≤ 4294967295 := by have := H.numSensors_lt; omega
  rw [setEnable_eq]
  cases hk : H.kindOfHandle handle with
  | none => simp [H.findSensor_of_kindOfHandle_none hk, hN]
  | some k => simp [findSensor_of_kindOfHandle H hk]

/-- The mask after `setEnable`: the kind's bit is set to `en != 0` when the handle names a
kind and `enable` opened; otherwise the mask is as it was. -/
theorem setEnable_mEnabled (o : SetEnableOutcome) (handle en : ℤ) (s : CwMcuSensor) :
    (setEnable H o handle en s).2.mEnabled =
      match H.kindOfHandle handle with
      | some k =>
        if o.enable.opened then setBit s.mEnabled (H.tag k) (if en = 0 then 0 else 1)
        else s.mEnabled
      | none => s.mEnabled := by
  have hN : H.numSensors ≤ 4294967295 := by have := H.numSensors_lt; omega
  rw [setEnable_eq]
  cases hk : H.kindOfHandle handle with
  | none => simp [H.findSensor_of_kindOfHandle_none hk, hN]
  | some k => by_cases ho : o.enable.opened <;> simp [findSensor_of_kindOfHandle H hk, ho]

/-! ### `setDelay` -/

/-- `setDelay(handle, delay_ns)`. -/
def setDelay (o : SysfsOutcome) (handle delayNs : ℤ) (s : CwMcuSensor) : ℤ × CwMcuSensor :=
  let s := s.lock
  let what := H.findSensor handle
  if H.numSensors ≤ uint32 what then (-EINVAL, s.unlock) else
  let s := s.sysfsPath
  let text := toString what ++ " " ++ toString (delayNs.tdiv NS_PER_MS) ++ "\n"
  let s := if o.opened then s.record .delayMs (snprintfWrite 80 text) o else s
  (0, s.unlock)

theorem setDelay_eq (o : SysfsOutcome) (handle delayNs : ℤ) (s : CwMcuSensor) :
    setDelay H o handle delayNs s =
      let what := H.findSensor handle
      (if H.numSensors ≤ uint32 what then -EINVAL else 0,
        { s with
          sysfs := if H.numSensors ≤ uint32 what then s.sysfs else s.sysfs ++
            written o (.delayMs, snprintfWrite 80
              (toString what ++ " " ++ toString (delayNs.tdiv NS_PER_MS) ++ "\n"))
          sysFsMutex := false
          faults := logUnless (!s.sysFsMutex) .relock s.faults ++
            if H.numSensors ≤ uint32 what then [] else pathFaults s.dataFd 1 }) := by
  rcases o with ⟨op, wr, er⟩
  by_cases hc : H.numSensors ≤ uint32 (H.findSensor handle) <;> cases op <;>
    simp [setDelay, hc, lock, unlock, record, written, sysfsPath]

@[simp] theorem setDelay_mEnabled (o : SysfsOutcome) (handle delayNs : ℤ) (s : CwMcuSensor) :
    (setDelay H o handle delayNs s).2.mEnabled = s.mEnabled := by
  rw [setDelay_eq]

@[simp] theorem setDelay_mPendingMask (o : SysfsOutcome) (handle delayNs : ℤ) (s : CwMcuSensor) :
    (setDelay H o handle delayNs s).2.mPendingMask = s.mPendingMask := by
  rw [setDelay_eq]

/-- From a free mutex, `setDelay` returns with it free and logs at most the use of its
path. -/
theorem setDelay_mutex (o : SysfsOutcome) (handle delayNs : ℤ) {s : CwMcuSensor}
    (hs : s.sysFsMutex = false) :
    (setDelay H o handle delayNs s).2.sysFsMutex = false ∧
      ∃ n, (setDelay H o handle delayNs s).2.faults = s.faults ++ pathFaults s.dataFd n := by
  rw [setDelay_eq, hs]
  refine ⟨rfl, ?_⟩
  dsimp only
  split_ifs
  · exact ⟨0, by simp⟩
  · exact ⟨1, by simp⟩

/-! ### The sync request -/

/-- The outcomes of `sync_timestamp_locked`. -/
structure SyncOutcome where
  /-- The `open` and `write` of `flush`. -/
  flush : SysfsOutcome
  /-- `getTimestamp()` after the write. -/
  now : ℤ
  deriving Inhabited

/-- `sync_timestamp_locked()` up to its write (lines 724–731): the path of `flush`, and
`TIMESTAMP_SYNC_CODE` written there when the `open` goes through. -/
def syncWrite (o : SyncOutcome) (s : CwMcuSensor) : CwMcuSensor :=
  let s := s.sysfsPath
  if o.flush.opened then
    s.record .flush (snprintfWrite 10 (toString H.timestampSyncCode ++ "\n")) o.flush
  else s

/-- `l_timestamp = getTimestamp()` (line 734), when the write went through. -/
def syncStore (o : SyncOutcome) (s : CwMcuSensor) : CwMcuSensor :=
  if o.flush.opened && o.flush.written then { s with lTimestamp := o.now } else s

/-- What `sync_timestamp_locked()` returns: `-ENOENT` when `flush` did not open, `-EIO`
when the write failed, `0` otherwise. -/
def syncErr (o : SyncOutcome) : ℤ :=
  if !o.flush.opened then -ENOENT else if !o.flush.written then - EIO else 0

/-- `sync_timestamp_locked()`: write `TIMESTAMP_SYNC_CODE` to `flush` and, when the write
went through, record the host time as the candidate `l_timestamp`. -/
def syncTimestampLocked (o : SyncOutcome) (s : CwMcuSensor) : ℤ × CwMcuSensor :=
  (syncErr o, syncStore o (syncWrite H o s))

/-- `sync_timestamp()`. -/
def syncTimestamp (o : SyncOutcome) (s : CwMcuSensor) : ℤ × CwMcuSensor :=
  let (err, s) := syncTimestampLocked H o s.lock
  (err, s.unlock)

theorem syncStore_syncWrite (o : SyncOutcome) (s : CwMcuSensor) :
    syncStore o (syncWrite H o s) = (syncTimestampLocked H o s).2 := rfl

/-- A sync request changes `l_timestamp` exactly when its write went through. -/
theorem syncTimestampLocked_eq (o : SyncOutcome) (s : CwMcuSensor) :
    syncTimestampLocked H o s =
      (if !o.flush.opened then -ENOENT else if !o.flush.written then - EIO else 0,
        { s with
          lTimestamp := if o.flush.opened && o.flush.written then o.now else s.lTimestamp
          sysfs := s.sysfs ++
            written o.flush (.flush, snprintfWrite 10 (toString H.timestampSyncCode ++ "\n"))
          faults := s.faults ++ pathFaults s.dataFd 1 }) := by
  rcases o with ⟨⟨op, wr, er⟩, now⟩
  cases op <;> cases wr <;>
    simp [syncTimestampLocked, syncErr, syncWrite, syncStore, record, written, sysfsPath]

theorem syncTimestamp_eq (o : SyncOutcome) (s : CwMcuSensor) :
    syncTimestamp H o s =
      (if !o.flush.opened then -ENOENT else if !o.flush.written then - EIO else 0,
        { s with
          lTimestamp := if o.flush.opened && o.flush.written then o.now else s.lTimestamp
          sysfs := s.sysfs ++
            written o.flush (.flush, snprintfWrite 10 (toString H.timestampSyncCode ++ "\n"))
          sysFsMutex := false
          faults := logUnless (!s.sysFsMutex) .relock s.faults ++ pathFaults s.dataFd 1 }) := by
  simp [syncTimestamp, syncTimestampLocked_eq, lock, unlock]

@[simp] theorem syncTimestamp_mEnabled (o : SyncOutcome) (s : CwMcuSensor) :
    (syncTimestamp H o s).2.mEnabled = s.mEnabled := by
  rw [syncTimestamp_eq]

@[simp] theorem syncTimestamp_mPendingMask (o : SyncOutcome) (s : CwMcuSensor) :
    (syncTimestamp H o s).2.mPendingMask = s.mPendingMask := by
  rw [syncTimestamp_eq]

/-- From a free mutex, `sync_timestamp` returns with it free and logs at most the use of its
path. -/
theorem syncTimestamp_mutex (o : SyncOutcome) {s : CwMcuSensor} (hs : s.sysFsMutex = false) :
    (syncTimestamp H o s).2.sysFsMutex = false ∧
      ∃ n, (syncTimestamp H o s).2.faults = s.faults ++ pathFaults s.dataFd n := by
  rw [syncTimestamp_eq, hs]; exact ⟨rfl, 1, rfl⟩

/-! ### `batch` and `flush` -/

/-- The outcomes of the system calls of `batch`. -/
structure BatchOutcome where
  bufferLength : SysfsOutcome
  trigger : SysfsOutcome
  bufferEnable : SysfsOutcome
  sync : SyncOutcome
  batchEnable : SysfsOutcome
  deriving Inhabited

/-- The buffer block of `batch` (lines 624–646): when no sensor is enabled, `buffer/length`,
the trigger while `init_trigger_done` is clear, and `buffer/enable`. -/
def batchBuffer (o : BatchOutcome) (s : CwMcuSensor) : CwMcuSensor :=
  if s.mEnabled = 0 then
    let s := (s.sysfsSetInputAttrByInt .bufferLength IIO_MAX_BUFF_SIZE o.bufferLength).2
    let s :=
      if !s.initTriggerDone then
        let (err, s) := s.sysfsSetInputAttr .currentTrigger s.mTriggerName o.trigger
        if err < 0 then s else { s with initTriggerDone := true }
      else s
    (s.sysfsSetInputAttrByInt .bufferEnable 1 o.bufferEnable).2
  else s

/-- `batch` from its lock to the write of its sync request (lines 620–650, then 724–731). -/
def batchWrite (o : BatchOutcome) (s : CwMcuSensor) : CwMcuSensor :=
  syncWrite H o.sync (batchBuffer o s.lock)

/-- `batch` from the store of its sync candidate to its return (line 734, then lines
652–667): the path of `batch_enable`, the command `text` written there, the unlock. -/
def batchCommand (o : BatchOutcome) (text : String) (s : CwMcuSensor) : CwMcuSensor :=
  let s := syncStore o.sync s
  let s := s.sysfsPath
  let s := s.record .batchEnable (snprintfWrite 32 text) o.batchEnable
  s.unlock

/-- `batch(handle, flags, period_ns, timeout)`. -/
def batch (o : BatchOutcome) (handle flags periodNs timeout : ℤ) (s : CwMcuSensor) :
    ℤ × CwMcuSensor :=
  let what := H.findSensor handle
  let delayMs := int32 (periodNs.tdiv NS_PER_MS)
  let timeoutMs := int32 (timeout.tdiv NS_PER_MS)
  let dryRun := Int.land flags H.batchDryRun ≠ 0
  if H.sensorsIdEnd ≤ uint32 what then (-EINVAL, s) else
  if (what = H.tag .light ∨ what = H.tag .significantMotion) ∧ 0 < timeout then (-EINVAL, s)
  else if dryRun then (0, s) else
  let text := toString what ++ " " ++ toString flags ++ " " ++ toString delayMs ++ " " ++
    toString timeoutMs ++ "\n"
  let err : ℤ :=
    if !o.batchEnable.opened || !o.batchEnable.written then -(o.batchEnable.errno : ℤ) else 0
  (err, batchCommand o text (batchWrite H o s))

/-- `flush(handle)`. -/
def flush (o : SysfsOutcome) (handle : ℤ) (s : CwMcuSensor) : ℤ × CwMcuSensor :=
  let what := H.findSensor handle
  let s := { s with mFlushSensorEnabled := handle }
  if H.sensorsIdEnd ≤ uint32 what then (-EINVAL, s) else
  let s := s.lock
  let s := s.sysfsPath
  let err : ℤ :=
    if !o.opened then -EINVAL else if !o.written then -(o.errno : ℤ) else 0
  let s := s.record .flush (snprintfWrite 10 (toString what ++ "\n")) o
  (err, s.unlock)

/-- **The checks of `batch`.** A call with a sensor id past the table, with a timeout for the
light or the significant-motion sensor, or with the dry-run flag returns before it takes the
lock and leaves the driver as it was. -/
theorem batch_snd_of_checks (o : BatchOutcome) (handle flags periodNs timeout : ℤ)
    (s : CwMcuSensor) :
    (batch H o handle flags periodNs timeout s).2 = s ∨
      (¬ H.sensorsIdEnd ≤ uint32 (H.findSensor handle) ∧
        ¬ ((H.findSensor handle = H.tag .light ∨ H.findSensor handle = H.tag .significantMotion) ∧
          0 < timeout) ∧
        Int.land flags H.batchDryRun = 0) := by
  unfold batch; dsimp only
  by_cases h1 : H.sensorsIdEnd ≤ uint32 (H.findSensor handle)
  · left; rw [if_pos h1]
  rw [if_neg h1]
  by_cases h2 : (H.findSensor handle = H.tag .light ∨
    H.findSensor handle = H.tag .significantMotion) ∧ 0 < timeout
  · left; rw [if_pos h2]
  rw [if_neg h2]
  by_cases h3 : Int.land flags H.batchDryRun ≠ 0
  · left; rw [if_pos h3]
  · exact .inr ⟨h1, h2, not_not.mp h3⟩

theorem syncStore_eq (o : SyncOutcome) (s : CwMcuSensor) :
    syncStore o s =
      { s with lTimestamp := if o.flush.opened && o.flush.written then o.now else s.lTimestamp } := by
  unfold syncStore; split <;> rfl

theorem syncWrite_eq (o : SyncOutcome) (s : CwMcuSensor) :
    syncWrite H o s =
      { s with
        sysfs := s.sysfs ++
          written o.flush (.flush, snprintfWrite 10 (toString H.timestampSyncCode ++ "\n"))
        faults := s.faults ++ pathFaults s.dataFd 1 } := by
  unfold syncWrite
  split
  · rfl
  · simp_all [written, sysfsPath]

/-- The buffer block: its writes, the trigger flag, and the uses of its paths. -/
theorem batchBuffer_eq (o : BatchOutcome) (s : CwMcuSensor) :
    batchBuffer o s =
      if s.mEnabled = 0 then
        { s with
          initTriggerDone := s.initTriggerDone || (o.trigger.opened && o.trigger.written)
          sysfs := s.sysfs ++
            written o.bufferLength (.bufferLength, toString IIO_MAX_BUFF_SIZE) ++
            (if s.initTriggerDone then [] else
              written o.trigger (.currentTrigger, s.mTriggerName)) ++
            written o.bufferEnable (.bufferEnable, toString (1 : ℤ))
          faults := s.faults ++ pathFaults s.dataFd (if s.initTriggerDone then 2 else 3) }
      else s := by
  have hl : (toString IIO_MAX_BUFF_SIZE).length < INT32_CHAR_LEN := by decide
  have h1 : (toString (1 : ℤ)).length < INT32_CHAR_LEN := by decide
  unfold batchBuffer
  split
  · simp only [sysfsSetInputAttrByInt_snd _ hl, sysfsSetInputAttrByInt_snd _ h1,
      sysfsSetInputAttr_fst_lt_zero, sysfsSetInputAttr_snd]
    cases hi : s.initTriggerDone
    · cases htw : o.trigger.opened && o.trigger.written <;>
        simp [hi, htw, written, record, sysfsPath, pathFaults_add]
    · simp [hi, record, sysfsPath, pathFaults_add]
  · rfl

/-- The uses of a sysfs path by a `batch` past its checks: the buffer block when no sensor
is enabled, then `flush` and `batch_enable`. -/
def batchPaths (s : CwMcuSensor) : ℕ :=
  (if s.mEnabled = 0 then (if s.initTriggerDone then 2 else 3) else 0) + 2

/-- **`batch` past its checks**, in one step: under the lock, the buffer block when no sensor
is enabled, the sync request, and the write of the batch parameters. -/
theorem batch_of_checks (o : BatchOutcome) (handle flags periodNs timeout : ℤ) (s : CwMcuSensor)
    (h1 : ¬ H.sensorsIdEnd ≤ uint32 (H.findSensor handle))
    (h2 : ¬ ((H.findSensor handle = H.tag .light ∨
      H.findSensor handle = H.tag .significantMotion) ∧ 0 < timeout))
    (h3 : Int.land flags H.batchDryRun = 0) :
    batch H o handle flags periodNs timeout s =
      let what := H.findSensor handle
      let text := toString what ++ " " ++ toString flags ++ " " ++
        toString (int32 (periodNs.tdiv NS_PER_MS)) ++ " " ++
        toString (int32 (timeout.tdiv NS_PER_MS)) ++ "\n"
      (if !o.batchEnable.opened || !o.batchEnable.written then -(o.batchEnable.errno : ℤ)
        else 0,
       { s with
         initTriggerDone := s.initTriggerDone ||
           (decide (s.mEnabled = 0) && o.trigger.opened && o.trigger.written)
         lTimestamp :=
           if o.sync.flush.opened && o.sync.flush.written then o.sync.now else s.lTimestamp
         sysFsMutex := false
         sysfs := s.sysfs ++
           (if s.mEnabled = 0 then
              written o.bufferLength (.bufferLength, toString IIO_MAX_BUFF_SIZE) ++
              (if s.initTriggerDone then [] else
                written o.trigger (.currentTrigger, s.mTriggerName)) ++
              written o.bufferEnable (.bufferEnable, toString (1 : ℤ))
            else []) ++
           written o.sync.flush
             (.flush, snprintfWrite 10 (toString H.timestampSyncCode ++ "\n")) ++
           written o.batchEnable (.batchEnable, snprintfWrite 32 text)
         faults := logUnless (!s.sysFsMutex) .relock s.faults ++
           pathFaults s.dataFd (batchPaths s) }) := by
  simp only [batch, h1, h2, h3, if_false, ne_eq, not_true_eq_false, batchCommand, batchWrite,
    syncWrite_eq, batchBuffer_eq, lock, syncStore_eq, record, sysfsPath, unlock]
  by_cases hm : s.mEnabled = 0#32 <;> simp [hm, batchPaths, pathFaults_add]

section BatchFields

variable (o : BatchOutcome) (handle flags periodNs timeout : ℤ) (s : CwMcuSensor)

/-- `batch` writes the trigger flag, the candidate, the mutex, the sysfs log and the faults
alone. -/
theorem batch_frame :
    ∃ t l mu ws fs, (batch H o handle flags periodNs timeout s).2 =
      { s with initTriggerDone := t, lTimestamp := l, sysFsMutex := mu, sysfs := ws,
               faults := fs } := by
  rcases batch_snd_of_checks H o handle flags periodNs timeout s with h | ⟨h1, h2, h3⟩
  · rw [h]; exact ⟨_, _, _, _, _, rfl⟩
  · rw [batch_of_checks H o handle flags periodNs timeout s h1 h2 h3]
    exact ⟨_, _, _, _, _, rfl⟩

@[simp] theorem batch_mEnabled : (batch H o handle flags periodNs timeout s).2.mEnabled = s.mEnabled := by
  obtain ⟨_, _, _, _, _, h⟩ := batch_frame H o handle flags periodNs timeout s; rw [h]

@[simp] theorem batch_mPendingMask :
    (batch H o handle flags periodNs timeout s).2.mPendingMask = s.mPendingMask := by
  obtain ⟨_, _, _, _, _, h⟩ := batch_frame H o handle flags periodNs timeout s; rw [h]

@[simp] theorem batch_gTimestamp :
    (batch H o handle flags periodNs timeout s).2.gTimestamp = s.gTimestamp := by
  obtain ⟨_, _, _, _, _, h⟩ := batch_frame H o handle flags periodNs timeout s; rw [h]

@[simp] theorem batch_dataFd : (batch H o handle flags periodNs timeout s).2.dataFd = s.dataFd := by
  obtain ⟨_, _, _, _, _, h⟩ := batch_frame H o handle flags periodNs timeout s; rw [h]

/-- From a free mutex, `batch` returns with it free and logs at most the uses of its
paths. -/
theorem batch_mutex (hs : s.sysFsMutex = false) :
    (batch H o handle flags periodNs timeout s).2.sysFsMutex = false ∧
      ∃ n, (batch H o handle flags periodNs timeout s).2.faults = s.faults ++ pathFaults s.dataFd n := by
  rcases batch_snd_of_checks H o handle flags periodNs timeout s with h | ⟨h1, h2, h3⟩
  · rw [h]; exact ⟨hs, 0, by simp⟩
  · rw [batch_of_checks H o handle flags periodNs timeout s h1 h2 h3]
    exact ⟨rfl, _, by rw [hs]; rfl⟩

end BatchFields

theorem flush_eq (o : SysfsOutcome) (handle : ℤ) (s : CwMcuSensor) :
    flush H o handle s =
      let what := H.findSensor handle
      if H.sensorsIdEnd ≤ uint32 what then (-EINVAL, { s with mFlushSensorEnabled := handle })
      else
        (if !o.opened then -EINVAL else if !o.written then -(o.errno : ℤ) else 0,
          { s with
            mFlushSensorEnabled := handle
            sysfs := s.sysfs ++ written o (.flush, snprintfWrite 10 (toString what ++ "\n"))
            sysFsMutex := false
            faults := logUnless (!s.sysFsMutex) .relock s.faults ++ pathFaults s.dataFd 1 }) := by
  by_cases hc : H.sensorsIdEnd ≤ uint32 (H.findSensor handle) <;>
    simp [flush, hc, lock, unlock, record, sysfsPath]

@[simp] theorem flush_mEnabled (o : SysfsOutcome) (handle : ℤ) (s : CwMcuSensor) :
    (flush H o handle s).2.mEnabled = s.mEnabled := by
  rw [flush_eq]; dsimp only; split_ifs <;> rfl

@[simp] theorem flush_mPendingMask (o : SysfsOutcome) (handle : ℤ) (s : CwMcuSensor) :
    (flush H o handle s).2.mPendingMask = s.mPendingMask := by
  rw [flush_eq]; dsimp only; split_ifs <;> rfl

@[simp] theorem flush_dataFd (o : SysfsOutcome) (handle : ℤ) (s : CwMcuSensor) :
    (flush H o handle s).2.dataFd = s.dataFd := by
  rw [flush_eq]; dsimp only; split_ifs <;> rfl

/-- From a free mutex, `flush` returns with it free and logs at most the use of its path. -/
theorem flush_mutex (o : SysfsOutcome) (handle : ℤ) {s : CwMcuSensor} (hs : s.sysFsMutex = false) :
    (flush H o handle s).2.sysFsMutex = false ∧
      ∃ n, (flush H o handle s).2.faults = s.faults ++ pathFaults s.dataFd n := by
  rw [flush_eq, hs]; dsimp only; split
  · exact ⟨rfl, 0, by simp⟩
  · exact ⟨rfl, 1, rfl⟩

/-! ### The constructor and the destructor -/

/-- The members the constructor leaves as they were in the object's memory. -/
structure Memory where
  pendingEvents : ℕ → SensorsEvent
  pendingMask : BitVec 32
  pendingEventsFlush : SensorsEvent
  triggerName : String
  deriving Inhabited

/-- The outcomes of the system calls of the constructor. -/
structure InitOutcome where
  /-- `dev_num`, as `find_type_by_name` leaves it (`0` when it fails). -/
  devNum : ℕ
  /-- The `open` of `/dev/iio:device<dev_num>` succeeded. -/
  dataFd : Bool
  bufferLength : SysfsOutcome
  trigger : SysfsOutcome
  bufferEnable : SysfsOutcome
  /-- The outcomes of the call `setEnable(0, 1)`. -/
  enable : SetEnableOutcome
  deriving Inhabited

/-- The constructor's initialisation of the slot of kind `k`. -/
def initSlot (k : SensorKind) (e : SensorsEvent) : SensorsEvent :=
  let e := { e with version := H.eventVersion, sensor := H.handle k, type := H.sensorType k }
  match k with
  | .light | .pressure => { e with payload := fun _ => 0 }
  | .acceleration | .magnetic | .gyro | .stepCounter | .wakeUpGesture => e
  | _ => e.setStatus (BitVec.ofInt 8 H.accuracyHigh)

/-- `mPendingEvents` after the constructor. -/
def initTable (m : ℕ → SensorsEvent) (i : ℕ) : SensorsEvent :=
  match H.decodeTag i with
  | some (.sensor k) => initSlot H k (m i)
  | _ => m i

/-- The members as the constructor's initialisers and body set them, before any I/O. -/
def fresh (m : Memory) : CwMcuSensor :=
  { mEnabled := 0
    mPendingMask := m.pendingMask
    mPendingEvents := initTable H m.pendingEvents
    mPendingEventsFlush := { m.pendingEventsFlush with
      version := H.metaDataVersion, sensor := 0, type := H.typeMetaData }
    mFlushSensorEnabled := -1
    lTimestamp := 0
    gTimestamp := 0
    initTriggerDone := false
    mTriggerName := m.triggerName
    fillBlockDebug := false
    sysFsMutex := false
    dataFd := false
    sysfs := []
    faults := [] }

/-- The constructor's block under `sys_fs_mutex` once the data device has opened: the
trigger's name, then `buffer/length`, `trigger/current_trigger` and `buffer/enable`. -/
def initBuffer (o : InitOutcome) (s : CwMcuSensor) : CwMcuSensor :=
  let s := { s with mTriggerName := "CwMcuSensor-dev" ++ toString o.devNum }
  let s := (s.sysfsSetInputAttrByInt .bufferLength IIO_MAX_BUFF_SIZE o.bufferLength).2
  let (rc, s) := s.sysfsSetInputAttr .currentTrigger s.mTriggerName o.trigger
  let s := if rc < 0 then s else { s with initTriggerDone := true }
  (s.sysfsSetInputAttrByInt .bufferEnable 1 o.bufferEnable).2

/-- `CwMcuSensor::CwMcuSensor()`, from the state of a fresh process: the open of the data
device, then, when it opened, the block under the lock and `setEnable(0, 1)`. -/
def init (m : Memory) (o : InitOutcome) : CwMcuSensor :=
  let s := { fresh H m with dataFd := o.dataFd }
  let s := if o.dataFd then (setEnable H o.enable 0 1 (initBuffer o s.lock).unlock).2 else s
  s.lock.unlock

/-- The constructor's I/O all going through: the data device opens as `/dev/iio:device0`
and every write reaches its attribute. -/
def InitOutcome.ok : InitOutcome :=
  ⟨0, true, ⟨true, true, 0⟩, ⟨true, true, 0⟩, ⟨true, true, 0⟩,
    ⟨false, ⟨true, true, 0⟩, ⟨true, true, 0⟩⟩⟩

/-- Once the data device has opened, the block under the lock writes only the trigger's
name, the sysfs log and `init_trigger_done`. -/
theorem initBuffer_frame (o : InitOutcome) {s : CwMcuSensor} (hd : s.dataFd = true) :
    ∃ name ws t, initBuffer o s =
      { s with mTriggerName := name, sysfs := ws, initTriggerDone := t } := by
  have hl : (toString IIO_MAX_BUFF_SIZE).length < INT32_CHAR_LEN := by decide
  have h1 : (toString (1 : ℤ)).length < INT32_CHAR_LEN := by decide
  cases s; subst hd
  simp only [initBuffer, sysfsSetInputAttrByInt_snd _ hl, sysfsSetInputAttrByInt_snd _ h1,
    sysfsSetInputAttr_snd, sysfsSetInputAttr_fst_lt_zero, record, sysfsPath]
  split_ifs <;> simp only [pathFaults_true, List.append_nil] <;> exact ⟨_, _, _, rfl⟩

@[simp] theorem init_dataFd (m : Memory) (o : InitOutcome) : (init H m o).dataFd = o.dataFd := by
  unfold init; dsimp only
  split
  · obtain ⟨name, ws, t, hb⟩ := initBuffer_frame o (s := { fresh H m with dataFd := o.dataFd }.lock)
      ‹_›
    simp [hb]
  · rfl

section InitBuffer

variable (o : InitOutcome) {s : CwMcuSensor} (hd : s.dataFd = true)
include hd

theorem initBuffer_faults : (initBuffer o s).faults = s.faults := by
  obtain ⟨_, _, _, h⟩ := initBuffer_frame o hd; rw [h]

theorem initBuffer_sysFsMutex : (initBuffer o s).sysFsMutex = s.sysFsMutex := by
  obtain ⟨_, _, _, h⟩ := initBuffer_frame o hd; rw [h]

theorem initBuffer_dataFd : (initBuffer o s).dataFd = s.dataFd := by
  obtain ⟨_, _, _, h⟩ := initBuffer_frame o hd; rw [h]

end InitBuffer

theorem setEnable_faults_of_dataFd (o : SetEnableOutcome) (handle en : ℤ) {s : CwMcuSensor}
    (hd : s.dataFd = true) :
    (setEnable H o handle en s).2.faults = logUnless (!s.sysFsMutex) .relock s.faults := by
  obtain ⟨n, hn⟩ := setEnable_faults H o handle en s
  rw [hn, hd, pathFaults_true, List.append_nil]

@[simp] theorem init_sysFsMutex (m : Memory) (o : InitOutcome) : (init H m o).sysFsMutex = false :=
  rfl

/-- **The constructor, in one step**: `setEnable(0, 1)` after the block under the lock when
the data device opened, and the fresh members otherwise; the last lock and unlock change
nothing. -/
theorem init_eq (m : Memory) (o : InitOutcome) :
    init H m o =
      if o.dataFd then
        (setEnable H o.enable 0 1 (initBuffer o { fresh H m with dataFd := true }.lock).unlock).2
      else fresh H m := by
  unfold init; dsimp only
  split
  · rename_i hd
    rw [lock_unlock (setEnable_sysFsMutex ..), hd]
  · rename_i hd
    simp only [Bool.not_eq_true] at hd
    rw [hd]; rfl

/-- The constructor logs no fault: its locks are taken free and released, and it builds a
path only once the data device has opened. -/
@[simp] theorem init_faults (m : Memory) (o : InitOutcome) : (init H m o).faults = [] := by
  unfold init; dsimp only
  split
  · have hd : ({ fresh H m with dataFd := o.dataFd }.lock).dataFd = true := ‹_›
    rw [unlock_faults, lock_faults, setEnable_sysFsMutex, setEnable_faults_of_dataFd H _ _ _
      (by rw [unlock_dataFd, initBuffer_dataFd o hd, hd]), unlock_sysFsMutex, unlock_faults,
      initBuffer_faults o hd, initBuffer_sysFsMutex o hd, lock_sysFsMutex, lock_faults]
    rfl
  · rfl

/-- `CwMcuSensor::~CwMcuSensor()`. -/
def destroy (o : SetEnableOutcome) (s : CwMcuSensor) : CwMcuSensor :=
  if s.mEnabled ≠ 0 then (setEnable H o 0 0 s).2 else s

/-- `getEnable(handle)`. -/
def getEnable (_handle : ℤ) : ℤ := 0

/-- `hasPendingEvents()`. -/
def hasPendingEvents (s : CwMcuSensor) : Bool := s.mPendingMask != 0

/-! ### The command of `batch` -/

/-- The command `batch` formats fits its 32-byte buffer when the flags are one digit:
`find_sensor` gives two digits at most, and each narrowed duration eleven characters. -/
theorem length_batch_command_lt {handle flags : ℤ}
    (h1 : ¬ H.sensorsIdEnd ≤ uint32 (H.findSensor handle)) (hf : 0 ≤ flags ∧ flags < 10)
    (p t : ℤ) :
    (toString (H.findSensor handle) ++ " " ++ toString flags ++ " " ++
      toString (int32 p) ++ " " ++ toString (int32 t) ++ "\n").length < 32 := by
  obtain ⟨k, hk, -⟩ :=
    (H.uint32_findSensor_lt_iff H.sensorsIdEnd_lt handle).mp (Nat.lt_of_not_le h1)
  have := H.tag_lt_32 k
  have hw := length_toString_le (x := H.findSensor handle) (e := 2) (by omega)
    (by rw [findSensor_of_kindOfHandle H hk]; simp; omega)
  have hfl := length_toString_le (x := flags) (e := 1) (by omega) (by omega)
  have hp := length_toString_int32 p
  have ht := length_toString_int32 t
  have hs : " ".length = 1 := rfl
  have hn : "\n".length = 1 := rfl
  rw [findSensor_of_kindOfHandle H hk] at hw ⊢
  simp only [Int.natCast_nonneg, not_lt.mpr, if_false, hf.1] at hw hfl
  simp only [String.length_append]
  omega

/-- **What `batch` writes to `batch_enable`.** Past its checks, with flags of one digit and
a period and a timeout of fewer than `2^31` ms, `batch` appends writes to other attributes
and then, when the open and the write of `batch_enable` go through, its command: in decimal,
`find_sensor(handle)`, the flags, `⌊period_ns / 10^6⌋` and `⌊timeout / 10^6⌋`, separated by
spaces and ended by a newline. -/
theorem batch_writes_decimal_command (o : BatchOutcome) (handle flags periodNs timeout : ℤ)
    (s : CwMcuSensor) (h1 : ¬ H.sensorsIdEnd ≤ uint32 (H.findSensor handle))
    (h2 : ¬ ((H.findSensor handle = H.tag .light ∨
      H.findSensor handle = H.tag .significantMotion) ∧ 0 < timeout))
    (h3 : Int.land flags H.batchDryRun = 0) (hf : 0 ≤ flags ∧ flags < 10)
    (hp : 0 ≤ periodNs ∧ periodNs / NS_PER_MS < 2 ^ 31)
    (ht : 0 ≤ timeout ∧ timeout / NS_PER_MS < 2 ^ 31) :
    ∃ pre, (∀ w ∈ pre, w.1 ≠ .batchEnable) ∧
      (batch H o handle flags periodNs timeout s).2.sysfs = s.sysfs ++ pre ++
        written o.batchEnable (.batchEnable, toString (H.findSensor handle) ++ " " ++
          toString flags ++ " " ++ toString (periodNs / NS_PER_MS) ++ " " ++
          toString (timeout / NS_PER_MS) ++ "\n") := by
  have hms : (0 : ℤ) ≤ NS_PER_MS := by decide
  have hq : ∀ x : ℤ, 0 ≤ x ∧ x / NS_PER_MS < 2 ^ 31 →
      int32 (x.tdiv NS_PER_MS) = x / NS_PER_MS := fun x hx => by
    have := Int.ediv_nonneg hx.1 hms
    rw [Int.tdiv_eq_ediv hx.1 hms, int32_of_range ⟨by omega, hx.2⟩]
  rw [batch_of_checks H o handle flags periodNs timeout s h1 h2 h3]
  dsimp only
  rw [snprintfWrite_of_lt (length_batch_command_lt H h1 hf _ _), hq _ hp, hq _ ht]
  refine ⟨_, ?_, by rw [List.append_assoc s.sysfs]⟩
  have hw : ∀ {o : SysfsOutcome} {w' : Attr × String}, w'.1 ≠ .batchEnable →
      ∀ w ∈ written o w', w.1 ≠ .batchEnable := fun h _ hw => mem_written hw ▸ h
  split_ifs <;>
    simp only [List.forall_mem_append, List.append_nil, List.not_mem_nil, false_implies,
      implies_true, true_and] <;>
    (repeat' apply And.intro) <;> apply hw <;> nofun

theorem batch_command_for_one_second_period :
    let o : BatchOutcome := { (default : BatchOutcome) with batchEnable := ⟨true, true, 0⟩ }
    ∃ pre, (∀ w ∈ pre, w.1 ≠ .batchEnable) ∧
      (batch Header.sample o 0 0 1000000000 0 (init Header.sample default .ok)).2.sysfs =
        (init Header.sample default .ok).sysfs ++ pre ++
          written o.batchEnable (.batchEnable,
            toString (Header.sample.findSensor 0) ++ " " ++ toString (0 : ℤ) ++ " " ++
            toString ((1000000000 : ℤ) / NS_PER_MS) ++ " " ++ toString ((0 : ℤ) / NS_PER_MS) ++
            "\n") :=
  batch_writes_decimal_command Header.sample _ _ _ _ _ _ (by decide) (by decide) (by decide)
    (by decide) (by decide) (by decide)

/-- A period of `2^31` ms: `delay_ms` wraps to `INT_MIN` in the command. -/
theorem batch_delay_wraps_past_int :
    let o : BatchOutcome := { (default : BatchOutcome) with batchEnable := ⟨true, true, 0⟩ }
    (2 ^ 31 * NS_PER_MS) / NS_PER_MS = 2147483648 ∧
      lastWrite .batchEnable (batch Header.sample o 0 0 (2 ^ 31 * NS_PER_MS) 0
        (init Header.sample default .ok)).2.sysfs = some "0 0 -2147483648 0\n" := by
  decide

/-! ### The command of `setDelay` -/

/-- The command `setDelay` formats fits its 80-byte buffer for every `int64` delay: two
digits of `find_sensor`, and at most a sign and 13 digits of milliseconds. -/
theorem length_delay_command_lt (k : SensorKind) {delayNs : ℤ}
    (hd : -2 ^ 63 ≤ delayNs ∧ delayNs < 2 ^ 63) :
    (toString (H.tag k : ℤ) ++ " " ++ toString (delayNs.tdiv NS_PER_MS) ++ "\n").length < 80 := by
  have := H.tag_lt_32 k
  have hw := length_toString_le (x := (H.tag k : ℤ)) (e := 2) (by omega) (by simp; omega)
  have hq : (delayNs.tdiv NS_PER_MS).natAbs < 10 ^ 13 := by
    rw [Int.natAbs_tdiv]
    show delayNs.natAbs / 1000000 < 10 ^ 13
    omega
  have hl := length_toString_le (e := 13) (by omega) hq
  have hs : " ".length = 1 := rfl
  have hn : "\n".length = 1 := rfl
  simp only [String.length_append]
  split at hw <;> split at hl <;> omega

/-- **What `setDelay` writes to `delay_ms`.** For the handle of every sensor kind and every
`int64` delay, negative ones included (nothing checks the delay), `setDelay` returns `0` and
appends, when the open and the write of `delay_ms` go through, exactly `find_sensor(handle)`
and the delay in milliseconds truncated toward zero, in decimal, separated by a space and
ended by a newline. -/
theorem setDelay_writes_decimal_command (o : SysfsOutcome) (k : SensorKind) {delayNs : ℤ}
    (hd : -2 ^ 63 ≤ delayNs ∧ delayNs < 2 ^ 63) (s : CwMcuSensor) :
    (setDelay H o (H.handle k) delayNs s).1 = 0 ∧
      (setDelay H o (H.handle k) delayNs s).2.sysfs = s.sysfs ++
        written o (.delayMs, toString (H.tag k : ℤ) ++ " " ++ toString (delayNs.tdiv NS_PER_MS) ++
          "\n") := by
  rw [setDelay_eq]
  simp only [H.findSensor_handle, uint32_tag_lt, if_false, true_and]
  rw [snprintfWrite_of_lt (length_delay_command_lt H k hd)]

/-- A delay of `-1.5` ms for the gyroscope is written as `2 -1`. -/
theorem setDelay_command_for_negative_delay :
    let o : SysfsOutcome := ⟨true, true, 0⟩
    let s := init Header.sample default .ok
    (-2 ^ 63 ≤ (-1500000 : ℤ) ∧ (-1500000 : ℤ) < 2 ^ 63) ∧
      toString ((-1500000 : ℤ).tdiv NS_PER_MS) = "-1" ∧
      ((setDelay Header.sample o (Header.sample.handle .gyro) (-1500000) s).1 = 0 ∧
        (setDelay Header.sample o (Header.sample.handle .gyro) (-1500000) s).2.sysfs = s.sysfs ++
          written o (.delayMs, toString (Header.sample.tag .gyro : ℤ) ++ " " ++
            toString ((-1500000 : ℤ).tdiv NS_PER_MS) ++ "\n")) :=
  ⟨by decide, by decide, setDelay_writes_decimal_command Header.sample _ _ (by decide) _⟩
/-! ### Rejected calls -/

/-- **A rejected call changes only what it writes before its checks.** A handle that fails
the call's range test (`numSensors` for `setEnable` and `setDelay`, `CW_SENSORS_ID_END` for
`batch` and `flush`), or a `batch` asking a timeout of the light or significant-motion
sensor, makes the call return `-EINVAL` and write no attribute. By then `setEnable` has set
`fill_block_debug` from the property, under the lock; `flush` has set
`mFlushSensorEnabled` to the handle; `setDelay` has taken and released the lock; `batch` has
done nothing. -/
theorem rejected_call_writes_only_debug_state (s : CwMcuSensor) :
    (∀ o handle en, H.numSensors ≤ uint32 (H.findSensor handle) →
      setEnable H o handle en s =
        (-EINVAL, { s with fillBlockDebug := o.fillBlock }.lock.unlock)) ∧
    (∀ o handle delayNs, H.numSensors ≤ uint32 (H.findSensor handle) →
      setDelay H o handle delayNs s = (-EINVAL, s.lock.unlock)) ∧
    (∀ o handle flags periodNs timeout,
      H.sensorsIdEnd ≤ uint32 (H.findSensor handle) ∨
        ((H.findSensor handle = H.tag .light ∨ H.findSensor handle = H.tag .significantMotion) ∧
          0 < timeout) →
      batch H o handle flags periodNs timeout s = (-EINVAL, s)) ∧
    (∀ o handle, H.sensorsIdEnd ≤ uint32 (H.findSensor handle) →
      flush H o handle s = (-EINVAL, { s with mFlushSensorEnabled := handle })) := by
  refine ⟨fun o handle en hc => ?_, fun o handle delayNs hc => ?_,
    fun o handle flags periodNs timeout hc => ?_, fun o handle hc => ?_⟩
  · simp only [setEnable, if_pos hc]; rfl
  · simp only [setDelay, if_pos hc]
  · unfold batch; dsimp only
    by_cases h1 : H.sensorsIdEnd ≤ uint32 (H.findSensor handle)
    · rw [if_pos h1]
    · rw [if_neg h1, if_pos (hc.resolve_left h1)]
  · simp only [flush, if_pos hc]

theorem rejected_calls_on_unknown_handle :
    let s := init Header.sample default .ok
    setEnable Header.sample default 99 1 s =
        (-EINVAL, { s with fillBlockDebug := false }.lock.unlock) ∧
      setDelay Header.sample default 99 0 s = (-EINVAL, s.lock.unlock) ∧
      batch Header.sample default (Header.sample.handle .light) 0 0 1 s = (-EINVAL, s) ∧
      flush Header.sample default 99 s = (-EINVAL, { s with mFlushSensorEnabled := 99 }) :=
  let h := rejected_call_writes_only_debug_state Header.sample (init Header.sample default .ok)
  ⟨h.1 _ _ _ (by decide), h.2.1 _ _ _ (by decide),
    h.2.2.1 _ _ _ _ _ (.inr ⟨.inl (by decide), by decide⟩), h.2.2.2 _ _ (by decide)⟩

/-- From the constructor's state, a rejected `flush` leaves its handle in
`mFlushSensorEnabled`, and a rejected `setEnable` leaves the property in
`fill_block_debug`. -/
theorem rejected_calls_leave_debug_state :
    let s := init Header.sample default .ok
    (flush Header.sample default 99 s).1 = -EINVAL ∧
      s.mFlushSensorEnabled = -1 ∧ (flush Header.sample default 99 s).2.mFlushSensorEnabled = 99 ∧
      (setEnable Header.sample ⟨true, default, default⟩ 99 1 s).1 = -EINVAL ∧
      s.fillBlockDebug = false ∧
      (setEnable Header.sample ⟨true, default, default⟩ 99 1 s).2.fillBlockDebug = true := by
  decide

end CwMcuSensor

end SensorHub
