import SensorHub.Control

/-!
# The calibration files

`cw_save_calibrator_file` prints a calibration vector with `fprintf`, and
`cw_read_calibrator_file` reads one back with `fscanf`: three `int`s for the accelerometer
and the gyroscope, `COMPASS_CALIBRATION_DATA_SIZE` of them for the compass. Two blocks call
them. The constructor copies the vectors saved under `/data/misc` to the hub's attributes
`calibrator_data_mag` and `calibrator_data_acc` (`restoreCalibration`); `setEnable`, when it
disables the compass, the orientation or the rotation vector, copies the hub's compass
calibration back to `SAVE_PATH_MAG` (`setEnableCalibration`). Neither block touches a member
of the class: they act on the files alone (`Disk`), beside the class's part of their callers
(`init`, `setEnable`).

A file is its content, or `none` when `fopen` cannot open it for reading. An `int *` argument
is an array `ℕ → BitVec 32`; the `temp_data` of `setEnable` is never initialised, so it is an
input, whatever the stack held.

The results:

* `calibratorFile_reads_back_saved_vector`: a file the save wrote in full reads back as the
  saved vector, with no fault, for each of the three kinds: the separators `fprintf` prints
  are the white space the `fscanf` formats skip;
* `cwReadCalibratorFile_ret`: the read returns `0` or `-1`. The accelerometer and gyroscope
  branch returns `0` whatever `fscanf` returns, and the compass loop returns the `0` of a
  matching failure as it is;
* `calibration_saved_from_unread_data`: so both callers save vectors the read did not
  fill;
* `compass_calibration_restored_after_reset`: a compass calibration that `setEnable` saves
  from a well-formed attribute is written back by the constructor after the hub's attribute
  is lost.
-/

namespace SensorHub

namespace CwMcuSensor

variable (H : Header)

/-- The `#define`s of the calibration vectors. -/
def COMPASS_CALIBRATION_DATA_SIZE : ℕ := 26
def G_SENSOR_CALIBRATION_DATA_SIZE : ℕ := 3

/-! ### `cw_save_calibrator_file` -/

/-- The magnetic branch of `cw_save_calibrator_file` from index `i`, with `k` iterations
left: `fprintf(fp_file, "%d%c", str[i], (i == (COMPASS_CALIBRATION_DATA_SIZE-1)) ? '\n' : ' ')`. -/
def saveCompassFrom (str : ℕ → BitVec 32) : ℕ → ℕ → String
  | 0, _ => ""
  | k + 1, i =>
    toString (str i).toInt ++
      toString (if i = COMPASS_CALIBRATION_DATA_SIZE - 1 then '\n' else ' ') ++
      saveCompassFrom str k (i + 1)

/-- What the `fprintf` calls of `cw_save_calibrator_file(type, path, str)` print. -/
def calibratorText (type : ℤ) (str : ℕ → BitVec 32) : String :=
  if type = H.tag .gyro ∨ type = H.tag .acceleration then
    toString (str 0).toInt ++ " " ++ toString (str 1).toInt ++ " " ++ toString (str 2).toInt ++
      "\n"
  else if type = H.tag .magnetic then saveCompassFrom str COMPASS_CALIBRATION_DATA_SIZE 0
  else ""

/-- The outcomes of the I/O of `cw_save_calibrator_file`. -/
structure SaveOutcome where
  /-- `fopen(path, "w+")` succeeded, emptying the file. -/
  opened : Bool
  /-- How many of the printed characters reach the file by `fclose`: all of them unless a
  write fails. -/
  kept : ℕ
  deriving Inhabited

/-- `cw_save_calibrator_file(type, path, str)`, on the content `file` at `path`. -/
def cwSaveCalibratorFile (o : SaveOutcome) (type : ℤ) (str : ℕ → BitVec 32)
    (file : Option (List Char)) : Option (List Char) :=
  if o.opened then some ((calibratorText H type str).data.take o.kept) else file

/-! ### `cw_read_calibrator_file` -/

/-- The format `"%d %d %d\n"`. -/
def threeIntsFormat : List Directive := [.decimal, .space, .decimal, .space, .decimal, .space]

/-- The format `"%d "`. -/
def intFormat : List Directive := [.decimal, .space]

/-- The stores of a `fscanf` call through `&str[i], &str[i+1], ...`. -/
def storeFrom (str : ℕ → BitVec 32) (i : ℕ) : List (BitVec 32) → ℕ → BitVec 32
  | [] => str
  | v :: vs => storeFrom (Function.update str i v) (i + 1) vs

/-- What `cw_read_calibrator_file` leaves: its return value, the array, and the faults of its
conversions. -/
structure CalibrationRead where
  ret : ℤ
  str : ℕ → BitVec 32
  faults : List Fault

/-- The magnetic branch of `cw_read_calibrator_file` from index `i`, with `k` iterations
left: `readBytes = fscanf(fp, "%d ", &str[i])`, returned when it is below `1`. -/
def readCompassFrom : ℕ → ℕ → List Char → (ℕ → BitVec 32) → List Fault → CalibrationRead
  | 0, _, _, str, fs => ⟨0, str, fs⟩
  | k + 1, i, cs, str, fs =>
    let r := fscanf intFormat cs
    let str := storeFrom str i r.stored
    if r.ret < 1 then ⟨r.ret, str, fs ++ r.faults⟩
    else readCompassFrom k (i + 1) r.rest str (fs ++ r.faults)

/-- `cw_read_calibrator_file(type, path, str)`, on the content `file` at `path`. -/
def cwReadCalibratorFile (type : ℤ) (file : Option (List Char)) (str : ℕ → BitVec 32) :
    CalibrationRead :=
  match file with
  | none => ⟨-1, str, []⟩
  | some cs =>
    if type = H.tag .gyro ∨ type = H.tag .acceleration then
      let r := fscanf threeIntsFormat cs
      ⟨0, storeFrom str 0 r.stored, r.faults⟩
    else if type = H.tag .magnetic then readCompassFrom COMPASS_CALIBRATION_DATA_SIZE 0 cs str []
    else ⟨0, str, []⟩

/-! ### The callers -/

/-- The calibration files: the two the driver keeps and the hub's two attributes. -/
inductive CalibrationFile
  /-- `SAVE_PATH_MAG`. -/
  | savePathMag
  /-- `SAVE_PATH_ACC`. -/
  | savePathAcc
  /-- `calibrator_data_mag` under the hub's sysfs directory. -/
  | calibratorDataMag
  /-- `calibrator_data_acc` under the hub's sysfs directory. -/
  | calibratorDataAcc
  deriving DecidableEq

/-- The calibration files, and the faults the reads have logged. -/
structure Disk where
  files : CalibrationFile → Option (List Char)
  faults : List Fault

/-- `cw_save_calibrator_file(type, f, str)` on the disk. -/
def Disk.save (o : SaveOutcome) (f : CalibrationFile) (type : ℤ) (str : ℕ → BitVec 32)
    (d : Disk) : Disk :=
  { d with files := Function.update d.files f (cwSaveCalibratorFile H o type str (d.files f)) }

/-- `cw_read_calibrator_file(type, f, str)` on the disk: its result, and the disk with its
faults logged. -/
def Disk.read (type : ℤ) (f : CalibrationFile) (str : ℕ → BitVec 32) (d : Disk) :
    CalibrationRead × Disk :=
  let r := cwReadCalibratorFile H type (d.files f) str
  (r, { d with faults := d.faults ++ r.faults })

/-- The constructor's block that restores the saved calibration to the hub, from the
zero-initialised `compass_temp_data` and `gs_temp_data`. -/
def restoreCalibration (mag acc : SaveOutcome) (d : Disk) : Disk :=
  let (rc, d) := d.read H (H.tag .magnetic) .savePathMag fun _ => 0
  let d := if rc.ret = 0 then d.save H mag .calibratorDataMag (H.tag .magnetic) rc.str else d
  let (rg, d) := d.read H (H.tag .acceleration) .savePathAcc fun _ => 0
  if rg.ret = 0 ∧ ¬ (rg.str 0 = 0 ∧ rg.str 1 = 0 ∧ rg.str 2 = 0) then
    d.save H acc .calibratorDataAcc (H.tag .acceleration) rg.str
  else d

/-- The block of `setEnable(handle, en)` on the calibration files, with `tempData` the
uninitialised `temp_data`: a handle past the table returns first; disabling the compass, the
orientation or the rotation vector saves the hub's compass calibration to `SAVE_PATH_MAG`. -/
def setEnableCalibration (o : SaveOutcome) (handle en : ℤ) (tempData : ℕ → BitVec 32)
    (d : Disk) : Disk :=
  let flags : ℕ := if en = 0 then 0 else 1
  let what := H.findSensor handle
  if H.numSensors ≤ uint32 what then d else
  if (what = H.tag .magnetic ∧ flags = 0) ∨ (what = H.tag .orientation ∧ flags = 0) ∨
      (what = H.tag .rotationVector ∧ flags = 0) then
    let (rc, d) := d.read H (H.tag .magnetic) .calibratorDataMag tempData
    if rc.ret = 0 then d.save H o .savePathMag (H.tag .magnetic) rc.str else d
  else d

/-! ### A saved file reads back as the saved vector -/

theorem data_toString_char (c : Char) : (toString c).data = [c] := rfl

theorem isSpace_separator (i : ℕ) :
    isSpace (if i = COMPASS_CALIBRATION_DATA_SIZE - 1 then '\n' else ' ') := by
  split <;> rfl

theorem data_saveCompassFrom_succ (a : ℕ → BitVec 32) (k i : ℕ) :
    (saveCompassFrom a (k + 1) i).data = (toString (a i).toInt).data ++
      (if i = COMPASS_CALIBRATION_DATA_SIZE - 1 then '\n' else ' ') ::
        (saveCompassFrom a k (i + 1)).data := by
  simp [saveCompassFrom, data_toString_char]

theorem skipSpace_saveCompassFrom (a : ℕ → BitVec 32) (k i : ℕ) :
    skipSpace (saveCompassFrom a k i).data = (saveCompassFrom a k i).data := by
  cases k with
  | zero => rfl
  | succ k => rw [data_saveCompassFrom_succ, skipSpace_toString_append]

/-- The loop of the read takes back, entry by entry, what the loop of the save printed. -/
theorem readCompassFrom_saveCompassFrom (a str : ℕ → BitVec 32) (fs : List Fault) (k i : ℕ) :
    readCompassFrom k i (saveCompassFrom a k i).data str fs =
      ⟨0, fun j => if i ≤ j ∧ j < i + k then a j else str j, fs⟩ := by
  induction k generalizing i str with
  | zero =>
    simp only [readCompassFrom, CalibrationRead.mk.injEq, true_and, and_true]
    funext j; rw [if_neg (by omega)]
  | succ k ih =>
    have hr : fscanf intFormat (saveCompassFrom a (k + 1) i).data =
        ⟨1, [a i], (saveCompassFrom a k (i + 1)).data, []⟩ := by
      rw [data_saveCompassFrom_succ, fscanf, intFormat,
        fscanfFrom_decimal_space _ (isSpace_separator i), skipSpace_saveCompassFrom]
      rfl
    simp only [readCompassFrom, hr, storeFrom, List.append_nil]
    rw [if_neg (by decide), ih]
    simp only [CalibrationRead.mk.injEq, true_and, and_true]
    funext j
    by_cases hj : j = i
    · subst hj; simp
    · simp only [Function.update_noteq hj]
      congr 1; apply propext; omega

theorem fscanf_threeInts (a : ℕ → BitVec 32) :
    fscanf threeIntsFormat (toString (a 0).toInt ++ " " ++ toString (a 1).toInt ++ " " ++
      toString (a 2).toInt ++ "\n").data = ⟨3, [a 0, a 1, a 2], [], []⟩ := by
  have hs : " ".data = [' '] := rfl
  have hn : "\n".data = ['\n'] := rfl
  simp only [String.data_append, hs, hn, List.append_assoc, List.singleton_append,
    List.cons_append, List.nil_append]
  rw [fscanf, threeIntsFormat, fscanfFrom_decimal_space _ (by rfl), skipSpace_toString_append,
    fscanfFrom_decimal_space _ (by rfl), skipSpace_toString_append,
    fscanfFrom_decimal_space _ (by rfl)]
  rfl

theorem storeFrom_three (a str : ℕ → BitVec 32) :
    storeFrom str 0 [a 0, a 1, a 2] = fun i => if i < 3 then a i else str i := by
  funext i
  simp only [storeFrom, Function.update_apply]
  split_ifs <;> first | (subst_vars; rfl) | omega

/-- Distinct kinds have distinct tags, as `int`s. -/
theorem tag_ne {k k' : SensorKind} (h : k ≠ k') : (H.tag k : ℤ) ≠ H.tag k' :=
  fun e => h (H.tag_inj.mp (Int.ofNat_inj.mp e))

/-- A save whose `fopen` succeeded and all of whose text reached the file. -/
theorem cwSaveCalibratorFile_of_full {o : SaveOutcome} {type : ℤ} {str : ℕ → BitVec 32}
    (ho : o.opened = true) (hk : (calibratorText H type str).length ≤ o.kept)
    (file : Option (List Char)) :
    cwSaveCalibratorFile H o type str file = some (calibratorText H type str).data := by
  rw [cwSaveCalibratorFile, if_pos ho,
    List.take_of_length_le (l := (calibratorText H type str).data) hk]

/-- The text of a calibration vector reads back as the vector. -/
theorem cwReadCalibratorFile_calibratorText (type : ℤ)
    (htype : type = H.tag .acceleration ∨ type = H.tag .gyro ∨ type = H.tag .magnetic)
    (a str : ℕ → BitVec 32) :
    cwReadCalibratorFile H type (some (calibratorText H type a).data) str =
      ⟨0, fun i => if i < (if type = H.tag .magnetic then COMPASS_CALIBRATION_DATA_SIZE
        else G_SENSOR_CALIBRATION_DATA_SIZE) then a i else str i, []⟩ := by
  have ha := tag_ne H (show SensorKind.acceleration ≠ .magnetic by decide)
  have hg := tag_ne H (show SensorKind.gyro ≠ .magnetic by decide)
  rcases htype with rfl | rfl | rfl <;>
    simp only [cwReadCalibratorFile, calibratorText, ha, hg, ha.symm, hg.symm, or_true, true_or,
      or_self, if_true, if_false, fscanf_threeInts, storeFrom_three,
      readCompassFrom_saveCompassFrom, Nat.zero_le, true_and, Nat.zero_add,
      G_SENSOR_CALIBRATION_DATA_SIZE]

/-- **A calibration file saved in full reads back as the saved vector.** For the
accelerometer, the gyroscope and the compass, and every vector `a` of `int`s: when
`cw_save_calibrator_file` opened the file and every character it printed reached it,
`cw_read_calibrator_file` on that file returns `0`, sets the first 3 entries of its array
(26 for the compass) to those of `a`, leaves the others, and meets no undefined
conversion. -/
theorem calibratorFile_reads_back_saved_vector (type : ℤ)
    (htype : type = H.tag .acceleration ∨ type = H.tag .gyro ∨ type = H.tag .magnetic)
    (a str : ℕ → BitVec 32) (o : SaveOutcome) (file : Option (List Char))
    (ho : o.opened = true) (hk : (calibratorText H type a).length ≤ o.kept) :
    cwReadCalibratorFile H type (cwSaveCalibratorFile H o type a file) str =
      ⟨0, fun i => if i < (if type = H.tag .magnetic then COMPASS_CALIBRATION_DATA_SIZE
        else G_SENSOR_CALIBRATION_DATA_SIZE) then a i else str i, []⟩ := by
  rw [cwSaveCalibratorFile_of_full H ho hk]
  exact cwReadCalibratorFile_calibratorText H type htype a str

theorem calibratorFile_reads_back_extreme_accelerometer_vector :
    let a : ℕ → BitVec 32 := fun i =>
      if i = 0 then BitVec.ofInt 32 (-2147483648) else if i = 1 then BitVec.ofInt 32 2147483647
      else 0
    let type : ℤ := Header.sample.tag .acceleration
    cwReadCalibratorFile Header.sample type
        (cwSaveCalibratorFile Header.sample ⟨true, 64⟩ type a none) (fun _ => 0) =
      ⟨0, fun i => if i < (if type = Header.sample.tag .magnetic then COMPASS_CALIBRATION_DATA_SIZE
        else G_SENSOR_CALIBRATION_DATA_SIZE) then a i else 0, []⟩ :=
  calibratorFile_reads_back_saved_vector Header.sample _ (.inl rfl) _ _ _ _ rfl (by decide)

/-! ### What a read returns on other files -/

theorem readCompassFrom_ret (k i : ℕ) (cs : List Char) (str : ℕ → BitVec 32)
    (fs : List Fault) :
    (readCompassFrom k i cs str fs).ret = 0 ∨ (readCompassFrom k i cs str fs).ret = -1 := by
  induction k generalizing i cs str fs with
  | zero => exact .inl rfl
  | succ k ih =>
    simp only [readCompassFrom]
    split
    · next h =>
      have := fscanf_ret intFormat cs
      simp only [EOF] at this
      dsimp only
      omega
    · exact ih _ _ _ _

/-- The read returns `0` or `-1`. -/
theorem cwReadCalibratorFile_ret (type : ℤ) (file : Option (List Char)) (str : ℕ → BitVec 32) :
    (cwReadCalibratorFile H type file str).ret = 0 ∨
      (cwReadCalibratorFile H type file str).ret = -1 := by
  unfold cwReadCalibratorFile
  split
  · exact .inr rfl
  · split
    · exact .inl rfl
    · split
      · exact readCompassFrom_ret _ _ _ _ _
      · exact .inl rfl

/-- A compass attribute holding `x` reads as `0` with nothing stored, and the block of
`setEnable` that disables the compass then saves the uninitialised `temp_data` to
`SAVE_PATH_MAG`, whatever it holds. A saved accelerometer file holding `5` reads as `0` with
two entries unread, and the constructor saves the vector `5 0 0` to the hub. -/
theorem calibration_saved_from_unread_data (o mag acc : SaveOutcome)
    (tempData : ℕ → BitVec 32) (files : CalibrationFile → Option (List Char))
    (fs : List Fault) :
    cwReadCalibratorFile Header.sample (Header.sample.tag .magnetic) (some ['x']) tempData =
        ⟨0, tempData, []⟩ ∧
      (setEnableCalibration Header.sample o (Header.sample.handle .magnetic) 0 tempData
          ⟨Function.update files .calibratorDataMag (some ['x']), fs⟩).files .savePathMag =
        cwSaveCalibratorFile Header.sample o (Header.sample.tag .magnetic) tempData
          (files .savePathMag) ∧
      cwReadCalibratorFile Header.sample (Header.sample.tag .acceleration) (some ['5'])
          (fun _ => 0) = ⟨0, Function.update (fun _ => 0) 0 5, []⟩ ∧
      (restoreCalibration Header.sample mag acc
          ⟨Function.update files .savePathAcc (some ['5']), fs⟩).files .calibratorDataAcc =
        cwSaveCalibratorFile Header.sample acc (Header.sample.tag .acceleration)
          (Function.update (fun _ => 0) 0 5) (files .calibratorDataAcc) := by
  have hx : cwReadCalibratorFile Header.sample (Header.sample.tag .magnetic) (some ['x'])
      tempData = ⟨0, tempData, []⟩ := rfl
  have h5 : cwReadCalibratorFile Header.sample (Header.sample.tag .acceleration) (some ['5'])
      (fun _ => 0) = ⟨0, Function.update (fun _ => 0) 0 5, []⟩ := rfl
  refine ⟨hx, ?_, h5, ?_⟩
  · simp [setEnableCalibration, Disk.read, Disk.save, hx]
  · simp only [restoreCalibration, Disk.read, Disk.save, apply_ite Disk.files, ite_apply,
      Function.update_apply, reduceCtorEq, if_false, if_true, ite_self, h5]
    rw [if_pos (by decide)]

/-! ### The compass calibration across a reset of the hub -/

theorem saveCompassFrom_congr {a b : ℕ → BitVec 32} (k i : ℕ)
    (h : ∀ j, i ≤ j → j < i + k → a j = b j) : saveCompassFrom a k i = saveCompassFrom b k i := by
  induction k generalizing i with
  | zero => rfl
  | succ k ih =>
    simp only [saveCompassFrom]
    rw [h i le_rfl (by omega), ih (i + 1) fun j h1 h2 => h j (by omega) (by omega)]

/-- The compass text reads the first `COMPASS_CALIBRATION_DATA_SIZE` entries only. -/
theorem calibratorText_magnetic_congr {a b : ℕ → BitVec 32}
    (h : ∀ j < COMPASS_CALIBRATION_DATA_SIZE, a j = b j) :
    calibratorText H (H.tag .magnetic) a = calibratorText H (H.tag .magnetic) b := by
  simp only [calibratorText, tag_ne H (show SensorKind.magnetic ≠ .gyro by decide),
    tag_ne H (show SensorKind.magnetic ≠ .acceleration by decide), or_self, if_false, if_true]
  exact saveCompassFrom_congr _ _ fun j _ hj => h j (by omega)

/-- **The compass calibration survives a reset of the hub.** Disabling the compass, the
orientation or the rotation vector while the hub's `calibrator_data_mag` holds the
calibration `c` saves `c` to `SAVE_PATH_MAG`, whatever `temp_data` held; whatever the hub's
attribute holds afterwards, the constructor writes `c` back to it. Both saves are taken to
go through in full. -/
theorem compass_calibration_restored_after_reset (k : SensorKind)
    (hk : k = .magnetic ∨ k = .orientation ∨ k = .rotationVector)
    (o mag acc : SaveOutcome) (c tempData : ℕ → BitVec 32) (d : Disk) (junk : Option (List Char))
    (hd : d.files .calibratorDataMag = some (calibratorText H (H.tag .magnetic) c).data)
    (ho : o.opened = true ∧ (calibratorText H (H.tag .magnetic) c).length ≤ o.kept)
    (hmag : mag.opened = true ∧ (calibratorText H (H.tag .magnetic) c).length ≤ mag.kept) :
    let d₁ := setEnableCalibration H o (H.handle k) 0 tempData d
    (restoreCalibration H mag acc
        { d₁ with files := Function.update d₁.files .calibratorDataMag junk }).files
        .calibratorDataMag = some (calibratorText H (H.tag .magnetic) c).data := by
  have hread : ∀ str, cwReadCalibratorFile H (H.tag .magnetic)
      (some (calibratorText H (H.tag .magnetic) c).data) str =
        ⟨0, fun i => if i < COMPASS_CALIBRATION_DATA_SIZE then c i else str i, []⟩ := fun str => by
    simpa using cwReadCalibratorFile_calibratorText H _ (.inr (.inr rfl)) c str
  have htext : ∀ str : ℕ → BitVec 32, calibratorText H (H.tag .magnetic)
      (fun i => if i < COMPASS_CALIBRATION_DATA_SIZE then c i else str i) =
        calibratorText H (H.tag .magnetic) c :=
    fun _ => calibratorText_magnetic_congr H fun j hj => if_pos hj
  have hsave : ∀ (o : SaveOutcome) (str : ℕ → BitVec 32) file, o.opened = true →
      (calibratorText H (H.tag .magnetic) c).length ≤ o.kept →
      cwSaveCalibratorFile H o (H.tag .magnetic)
        (fun i => if i < COMPASS_CALIBRATION_DATA_SIZE then c i else str i) file =
        some (calibratorText H (H.tag .magnetic) c).data := fun o str file h1 h2 => by
    rw [cwSaveCalibratorFile_of_full H h1 (by rwa [htext]), htext]
  intro d₁
  have h₁ : d₁.files .savePathMag = some (calibratorText H (H.tag .magnetic) c).data := by
    have hw : (H.tag k : ℤ) = H.tag .magnetic ∨ (H.tag k : ℤ) = H.tag .orientation ∨
        (H.tag k : ℤ) = H.tag .rotationVector := by rcases hk with rfl | rfl | rfl <;> simp
    simp only [d₁, setEnableCalibration, Header.findSensor_handle, uint32_tag_lt, if_false,
      if_true, and_true, hw, Disk.read, hd, hread, Disk.save, Function.update_same,
      hsave o _ _ ho.1 ho.2]
  simp only [restoreCalibration, Disk.read, Disk.save, apply_ite Disk.files, ite_apply,
    Function.update_apply, reduceCtorEq, if_false, if_true, ite_self, h₁, hread,
    hsave mag _ _ hmag.1 hmag.2]

/-- Disabling the orientation sensor (handle `5`) saves a compass calibration of `1`s from
the hub's attribute; after the attribute is lost, the constructor restores it. -/
theorem compass_calibration_restored_after_orientation_disabled :
    let c : ℕ → BitVec 32 := fun _ => 1
    let text := calibratorText Header.sample (Header.sample.tag .magnetic) c
    let d : Disk := ⟨fun f => if f = .calibratorDataMag then some text.data else none, []⟩
    let d₁ := setEnableCalibration Header.sample ⟨true, 64⟩ (Header.sample.handle .orientation) 0
      (fun _ => 0) d
    (restoreCalibration Header.sample ⟨true, 64⟩ ⟨true, 64⟩
        { d₁ with files := Function.update d₁.files .calibratorDataMag none }).files
        .calibratorDataMag = some text.data :=
  compass_calibration_restored_after_reset Header.sample .orientation (.inr (.inl rfl))
    ⟨true, 64⟩ ⟨true, 64⟩ ⟨true, 64⟩ _ _ _ none rfl ⟨rfl, by decide⟩ ⟨rfl, by decide⟩

end CwMcuSensor

end SensorHub
