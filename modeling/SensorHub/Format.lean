import SensorHub.Driver
import Mathlib.Data.Nat.Digits

/-!
# `%d` in `printf` and `scanf`

The driver prints every number it writes with `%d`, and reads the calibration files back
with `fscanf`. This module models the two conversions.

`printf`'s `%d` is `toString` on `ℤ`: a minus sign for a negative number, then the decimal
digits of its magnitude, `Nat.toDigits 10` (`toString_data`). `fscanf` runs the directives
of its format over the input in order (C11 7.21.6.2). White space in the format skips white
space in the input. `%d` skips white space, reads an optional sign and the longest run of
decimal digits, and stores the number through its argument. A conversion that finds the
input at its end fails with an input failure, one that finds no digit with a matching
failure, and either ends the call: `fscanf` returns the number of values stored, or `EOF`
for an input failure before the first. A number outside `int` is undefined behaviour; the
model stores its low 32 bits and logs `Fault.scanRange`.

The results:

* `numeral_toDigits`: `Nat.toDigits 10 n` is a decimal numeral of `n`;
* `length_toString_int32`: an `int` prints in at most 11 characters;
* `scanDecimal_toString`: a `%d` conversion reads back every number `%d` printed, when no
  digit follows it;
* `fscanfFrom_decimal_space`: hence the directives of `"%d "` read back an `int` printed
  before a white-space character, and store it without a fault.
-/

namespace SensorHub

/-! ### Decimal numerals -/

/-- The value of a run of decimal digits, accumulated from the left as `strtol` does. -/
def decimalValue (ds : List Char) : ℕ :=
  ds.foldl (fun v c => 10 * v + (c.toNat - '0'.toNat)) 0

theorem decimalValue_append_singleton (ds : List Char) (c : Char) :
    decimalValue (ds ++ [c]) = 10 * decimalValue ds + (c.toNat - '0'.toNat) := by
  simp [decimalValue]

/-- `ds` is a decimal numeral of `n`: one digit or more, which denote `n`. -/
structure Numeral (ds : List Char) (n : ℕ) : Prop where
  ne_nil : ds ≠ []
  isDigit : ∀ c ∈ ds, c.isDigit
  value : decimalValue ds = n

theorem toDigitsCore_append (b f n : ℕ) (ds : List Char) :
    Nat.toDigitsCore b f n ds = Nat.toDigitsCore b f n [] ++ ds := by
  induction f generalizing n ds with
  | zero => rfl
  | succ f ih =>
    simp only [Nat.toDigitsCore]
    split
    · rfl
    · rw [ih _ (_ :: ds), ih _ [_], List.append_assoc, List.singleton_append]

theorem digitChar_numeral {d : ℕ} (h : d < 10) :
    (Nat.digitChar d).isDigit ∧ (Nat.digitChar d).toNat - '0'.toNat = d := by
  have : ∀ d : Fin 10, (Nat.digitChar d).isDigit ∧ (Nat.digitChar d).toNat - '0'.toNat = d := by
    decide
  exact this ⟨d, h⟩

/-- With fuel past `n`, `toDigitsCore` prints `n`: the last digit comes off the end. -/
theorem numeral_toDigitsCore {f n : ℕ} (h : n < f) : Numeral (Nat.toDigitsCore 10 f n []) n := by
  induction f generalizing n with
  | zero => omega
  | succ f ih =>
    obtain ⟨hd, hv⟩ := digitChar_numeral (Nat.mod_lt n (show 10 > 0 by omega))
    simp only [Nat.toDigitsCore]
    split
    · next h0 =>
      refine ⟨List.cons_ne_nil _ _, by simpa using hd, ?_⟩
      simp only [decimalValue, List.foldl]
      omega
    · obtain ⟨-, hdig, hval⟩ := ih (n := n / 10) (by omega)
      rw [toDigitsCore_append]
      refine ⟨by simp, ?_, by rw [decimalValue_append_singleton, hval, hv]; omega⟩
      simp only [List.mem_append, List.mem_singleton]
      rintro c (hc | rfl)
      exacts [hdig c hc, hd]

theorem numeral_toDigits (n : ℕ) : Numeral (Nat.toDigits 10 n) n :=
  numeral_toDigitsCore (Nat.lt_succ_self n)

/-! ### `printf` -/

/-- `%d`: a minus sign for a negative number, then the digits of its magnitude. -/
theorem toString_data (x : ℤ) :
    (toString x).data = (if x < 0 then ['-'] else []) ++ Nat.toDigits 10 x.natAbs := by
  cases x with
  | ofNat m => rfl
  | negSucc m =>
    simp only [Int.negSucc_lt_zero, if_true]
    rfl

/-- `%d` prints a number of `e` digits or fewer in `e` characters, and a sign. -/
theorem length_toString_le {x : ℤ} {e : ℕ} (he : 0 < e) (hx : x.natAbs < 10 ^ e) :
    (toString x).length ≤ (if x < 0 then 1 else 0) + e := by
  have hd : (Nat.toDigits 10 x.natAbs).length ≤ e := Nat.repr_length _ e he hx
  have hl : (toString x).length = (toString x).data.length := rfl
  rw [hl, toString_data, List.length_append]
  split <;> simp only [List.length_singleton, List.length_nil] <;> omega

theorem int32_range (x : ℤ) : -2 ^ 31 ≤ int32 x ∧ int32 x < 2 ^ 31 := by
  have := (BitVec.ofInt 32 x).isLt
  simp only [int32, BitVec.toInt_eq_toNat_cond]
  split <;> omega

/-- The narrowing keeps a number that an `int` holds. -/
theorem int32_of_range {x : ℤ} (h : -2 ^ 31 ≤ x ∧ x < 2 ^ 31) : int32 x = x := by
  simp only [int32, BitVec.toInt_ofInt, Int.bmod]
  split <;> omega

/-- An `int` prints in at most 11 characters: a sign and 10 digits. -/
theorem length_toString_int32 (x : ℤ) : (toString (int32 x)).length ≤ 11 := by
  have hr := int32_range x
  have := length_toString_le (x := int32 x) (e := 10) (by omega) (by omega)
  split at this <;> omega

/-! ### `scanf` -/

/-- `EOF`. -/
def EOF : ℤ := -1

/-- `isspace` in the C locale. -/
def isSpace (c : Char) : Bool :=
  c == ' ' || c == '\t' || c == '\n' || c == '\x0B' || c == '\x0C' || c == '\r'

/-- A white-space directive: the input from its first character that is not white space. -/
def skipSpace (cs : List Char) : List Char := cs.dropWhile isSpace

/-- How a directive of `scanf` fails. -/
inductive ScanFailure
  /-- The input ended before the directive read a character. -/
  | input
  /-- The input does not match the directive. -/
  | matching

/-- A `%d` conversion: white space, an optional sign and the longest run of decimal digits,
of which there must be one. It returns the number and the input after it. -/
def scanDecimal (cs : List Char) : Except ScanFailure (ℤ × List Char) :=
  match skipSpace cs with
  | [] => .error .input
  | c :: cs =>
    let body := if c = '-' ∨ c = '+' then cs else c :: cs
    let ds := body.takeWhile Char.isDigit
    if ds = [] then .error .matching
    else .ok (if c = '-' then -(decimalValue ds : ℤ) else decimalValue ds,
      body.dropWhile Char.isDigit)

/-- The directives of the driver's `fscanf` formats. -/
inductive Directive
  /-- A white-space character. -/
  | space
  /-- `%d`, storing through the next argument. -/
  | decimal

/-- What a `fscanf` call leaves: its return value, the values it stored through its
arguments, in order, the input after the directives it ran (after a failure, from the failing
conversion on; no caller reads it), and the faults it logged. -/
structure Scan where
  ret : ℤ
  stored : List (BitVec 32)
  rest : List Char
  faults : List Fault

/-- A number that an `int` holds. -/
def inInt (v : ℤ) : Bool := decide (-2 ^ 31 ≤ v ∧ v < 2 ^ 31)

/-- `fscanf` from the directives `fmt` on, with the values `vs` stored so far. -/
def fscanfFrom : List Directive → List Char → List (BitVec 32) → List Fault → Scan
  | [], cs, vs, fs => ⟨vs.length, vs, cs, fs⟩
  | .space :: fmt, cs, vs, fs => fscanfFrom fmt (skipSpace cs) vs fs
  | .decimal :: fmt, cs, vs, fs =>
    match scanDecimal cs with
    | .ok (v, cs) =>
      fscanfFrom fmt cs (vs ++ [BitVec.ofInt 32 v])
        (CwMcuSensor.logUnless (inInt v) (.scanRange v) fs)
    | .error .input => ⟨if vs = [] then EOF else vs.length, vs, cs, fs⟩
    | .error .matching => ⟨vs.length, vs, cs, fs⟩

/-- `fscanf(fp, format, ...)` on the input `cs`. -/
def fscanf (fmt : List Directive) (cs : List Char) : Scan := fscanfFrom fmt cs [] []

/-- `fscanf` returns `EOF` or a count. -/
theorem fscanfFrom_ret (fmt : List Directive) (cs : List Char) (vs : List (BitVec 32))
    (fs : List Fault) :
    (fscanfFrom fmt cs vs fs).ret = EOF ∨ 0 ≤ (fscanfFrom fmt cs vs fs).ret := by
  induction fmt generalizing cs vs fs with
  | nil => exact .inr (Int.natCast_nonneg _)
  | cons d fmt ih =>
    cases d with
    | space => exact ih _ _ _
    | decimal =>
      simp only [fscanfFrom]
      split
      · exact ih _ _ _
      · split
        · exact .inl rfl
        · exact .inr (Int.natCast_nonneg _)
      · exact .inr (Int.natCast_nonneg _)

theorem fscanf_ret (fmt : List Directive) (cs : List Char) :
    (fscanf fmt cs).ret = EOF ∨ 0 ≤ (fscanf fmt cs).ret :=
  fscanfFrom_ret fmt cs [] []

/-! ### Reading back what `printf` wrote -/

theorem isSpace_of_isDigit {c : Char} (h : c.isDigit) : isSpace c = false := by
  simp only [isSpace, Bool.or_eq_false_iff, beq_eq_false_iff_ne, ne_eq]
  refine ⟨⟨⟨⟨⟨?_, ?_⟩, ?_⟩, ?_⟩, ?_⟩, ?_⟩ <;> rintro rfl <;> exact absurd h (by decide)

/-- What `%d` prints starts with a digit or a minus sign. -/
theorem toString_data_eq_cons (x : ℤ) :
    ∃ c cs, (toString x).data = c :: cs ∧ (c = '-' ∨ c.isDigit) := by
  obtain ⟨hne, hdig, -⟩ := numeral_toDigits x.natAbs
  obtain ⟨d, ds, hds⟩ := List.exists_cons_of_ne_nil hne
  rw [toString_data, hds]
  split
  · exact ⟨_, _, rfl, .inl rfl⟩
  · exact ⟨_, _, rfl, .inr (hdig d (by simp [hds]))⟩

theorem skipSpace_toString_append (x : ℤ) (rest : List Char) :
    skipSpace ((toString x).data ++ rest) = (toString x).data ++ rest := by
  obtain ⟨c, cs, h, hc⟩ := toString_data_eq_cons x
  have : isSpace c = false := by
    rcases hc with rfl | hc
    · rfl
    · exact isSpace_of_isDigit hc
  simp [skipSpace, h, List.dropWhile_cons, this]

/-- A run of digits stops at a character that is not a digit. -/
theorem takeWhile_isDigit_of_head {rest : List Char} (hr : ∀ c ∈ rest.head?, c.isDigit = false) :
    rest.takeWhile Char.isDigit = [] ∧ rest.dropWhile Char.isDigit = rest := by
  cases rest with
  | nil => simp
  | cons c cs => simp [List.takeWhile_cons, List.dropWhile_cons, hr c rfl]

/-- **`%d` reads back what `%d` printed**, when no digit follows it. -/
theorem scanDecimal_toString (x : ℤ) {rest : List Char}
    (hr : ∀ c ∈ rest.head?, c.isDigit = false) :
    scanDecimal ((toString x).data ++ rest) = .ok (x, rest) := by
  obtain ⟨hne, hdig, hval⟩ := numeral_toDigits x.natAbs
  obtain ⟨ht, hdr⟩ := takeWhile_isDigit_of_head hr
  have hN : (Nat.toDigits 10 x.natAbs ++ rest).takeWhile Char.isDigit =
      Nat.toDigits 10 x.natAbs ∧
      (Nat.toDigits 10 x.natAbs ++ rest).dropWhile Char.isDigit = rest := by
    rw [List.takeWhile_append_of_pos hdig, List.dropWhile_append_of_pos hdig, ht, hdr]
    exact ⟨List.append_nil _, rfl⟩
  rw [scanDecimal, skipSpace_toString_append, toString_data]
  by_cases hx : x < 0
  · simp only [hx, if_true, List.singleton_append, List.cons_append, List.nil_append, true_or,
      hN, hne, if_false, hval]
    congr; omega
  · obtain ⟨d, ds, hds⟩ := List.exists_cons_of_ne_nil hne
    have hd := hdig d (by simp [hds])
    have hsign : ¬ (d = '-' ∨ d = '+') := by rintro (rfl | rfl) <;> exact absurd hd (by decide)
    simp only [hx, if_false, List.nil_append, hds, List.cons_append, hsign]
    rw [← List.cons_append, ← hds]
    have hm : d ≠ '-' := fun h => hsign (.inl h)
    simp only [hN, hne, if_false, hval, hm]
    congr; omega

theorem ofInt_toInt (x : BitVec 32) : BitVec.ofInt 32 x.toInt = x := by
  apply BitVec.eq_of_toNat_eq
  have := x.isLt
  simp only [BitVec.toNat_ofInt, BitVec.toInt_eq_toNat_cond]
  split <;> omega

theorem inInt_toInt (x : BitVec 32) : inInt x.toInt = true := by
  have := x.isLt
  simp only [inInt, BitVec.toInt_eq_toNat_cond, decide_eq_true_eq]
  split <;> omega

/-- **`"%d "` reads back an `int` printed before white space**: it stores the number, logs
no fault, and leaves the input after the white space. -/
theorem fscanfFrom_decimal_space (x : BitVec 32) {sep : Char} (hs : isSpace sep)
    (rest : List Char) (fmt : List Directive) (vs : List (BitVec 32)) (fs : List Fault) :
    fscanfFrom (.decimal :: .space :: fmt) ((toString x.toInt).data ++ sep :: rest) vs fs =
      fscanfFrom fmt (skipSpace rest) (vs ++ [x]) fs := by
  have hr : ∀ c ∈ (sep :: rest).head?, c.isDigit = false := by
    simp only [List.head?_cons, Option.mem_def, Option.some.injEq, forall_eq']
    cases h : sep.isDigit
    · rfl
    · simp [isSpace_of_isDigit h] at hs
  simp only [fscanfFrom, scanDecimal_toString _ hr, ofInt_toInt, inInt_toInt,
    CwMcuSensor.logUnless, if_true]
  simp [skipSpace, List.dropWhile_cons, hs]

end SensorHub
