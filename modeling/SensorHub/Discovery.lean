import SensorHub.Control

/-!
# Finding the device

The constructor takes the number `dev_num` of its IIO device from `find_type_by_name`,
which scans `iio_dir = /sys/bus/iio/devices/` for an entry `iio:device<n>` whose `name`
file reads `CwMcuSensor`, and falls back to device `0` when the scan fails. What the scan
reads is an input: the entries `readdir` returns and what `open` and `read` give on each
path (`IioTree`), and the outcome of each `malloc` with the unspecified first contents of
the locals `number` and `thisname` (`ScanOutcome`). The locals keep their contents from one
entry to the next, as in C: a failed `sscanf` leaves `number` as the last entry set it, a
failed `read` leaves `thisname` as the last read filled it.

The path of an entry's `name` file is built in a buffer of
`sizeof(iio_dir) - 1 + typeLen + numstrlen + 6` bytes, where `numstrlen` is what `sscanf`
returned: the number of conversions, `1`, not the number of digits. `snprintf` cuts the
path to fit, so it is whole only for a device number of one digit, and a cut path ends
short of `/name`. On a tree shaped as sysfs is, where only the entries' `name` files open
(`SysfsShaped`):

* every device the scan returns has a number of one digit, is an entry of the directory,
  and its `name` file reads `name` (or a failed `read` compared a stale buffer, logged as
  undefined behaviour) (`findTypeByName_found`);
* every device of one digit whose `name` file reads `name` makes the scan succeed, with the
  first such device in `readdir` order (`findTypeByName_finds_digit_device`).

So a `CwMcuSensor` device numbered `10` or more is never found, and the constructor opens
`/dev/iio:device0` in its place (`devNum_lt_ten`).

Three steps have no defined behaviour: a `%d` that reads a number no `int` holds, the read of
`d_name[strlen(type) + numstrlen]` before the name when `type` is empty and `sscanf` returns
`EOF`, and the store `thisname[size] = '\0'` after a failed `read`, with `size` the
`(size_t)-1` it returned. They are logged as `DiscoveryFault`s. The directory stream is
never closed; nothing in the model observes it.
-/

namespace SensorHub

/-- `iio_dir`. -/
def iioDir : List Char := "/sys/bus/iio/devices/".data

def ENODEV : ℤ := 19
def ENOMEM : ℤ := 12
def ERANGE : ℤ := 34

/-- `IIO_MAX_NAME_LENGTH`, the size of `thisname`. -/
def IIO_MAX_NAME_LENGTH : ℕ := 30

/-- What `open(filename, O_RDONLY)` and then `read(fd, thisname, sizeof(thisname) - 1)`
give on a path. -/
inductive NameFile
  /-- The `open` fails. -/
  | missing
  /-- The `read` returns `-1`. -/
  | readError
  /-- The `read` returns the first bytes of the file, at most 29 of them. -/
  | read (bytes : List Char)
  deriving DecidableEq, Inhabited

/-- The sysfs tree as `find_type_by_name` reads it. Names are the characters before the
terminating NUL. -/
structure IioTree where
  /-- The names `readdir` returns on `iio_dir`, in order; `none` when `opendir` fails. -/
  entries : Option (List (List Char))
  /-- What each path gives. -/
  file : List Char → NameFile

/-- The outcomes the scan depends on besides the tree. -/
structure ScanOutcome where
  /-- Whether the `malloc` of the iteration at the `i`-th entry succeeds. -/
  alloc : ℕ → Bool
  /-- The unspecified first contents of `number` and of `thisname`. -/
  number : BitVec 32
  thisname : ℕ → Char
  deriving Inhabited

/-- Undefined behaviour in `find_type_by_name`. -/
inductive DiscoveryFault
  /-- `sscanf`'s `%d` read a number `v` no `int` holds. -/
  | scanRange (v : ℤ)
  /-- `d_name[strlen(type) + numstrlen]` at the index `(size_t)-1`. -/
  | entryIndex
  /-- `thisname[size] = '\0'` with `size` the `(size_t)-1` a failed `read` returned. -/
  | nameIndex
  deriving DecidableEq, Repr

/-- The locals the loop carries from one entry to the next, and the faults so far. -/
structure ScanState where
  number : BitVec 32
  thisname : ℕ → Char
  faults : List DiscoveryFault

/-- The test that selects an entry: not `.` or `..`, longer than `type`, and starting with
it. -/
def qualifies (type d : List Char) : Bool :=
  d != ".".data && d != "..".data && decide (type.length < d.length) && d.take type.length == type

/-- `numstrlen = sscanf(s, "%d", &number)`: what `sscanf` returns, `number` after it, and the
fault of a number outside `int`. -/
def sscanfDecimal (s : List Char) (number : BitVec 32) : ℤ × BitVec 32 × List DiscoveryFault :=
  match scanDecimal s with
  | .ok (v, _) => (1, BitVec.ofInt 32 v, if inInt v then [] else [.scanRange v])
  | .error .input => (EOF, number, [])
  | .error .matching => (0, number, [])

/-- `d_name[k]`: the terminating NUL at the name's length. -/
def entryChar (d : List Char) (k : ℕ) : Char := d.getD k '\x00'

/-- `snprintf(filename, size, "%s%s%d/name", iio_dir, type, number)` with
`size = sizeof(iio_dir) - 1 + typeLen + numstrlen + 6`. -/
def namePath (type : List Char) (numstrlen : ℤ) (number : BitVec 32) : List Char :=
  let size := (iioDir.length : ℤ) + type.length + numstrlen + 6
  (iioDir ++ type ++ (toString number.toInt).data ++ "/name".data).take (size - 1).toNat

/-- `thisname` after `read` put `bs` at its start. -/
def readInto (bs : List Char) (thisname : ℕ → Char) : ℕ → Char := fun j => bs.getD j (thisname j)

/-- `strncmp(name, thisname, nameLen) == 0` and
`!thisname[nameLen] || isspace(thisname[nameLen])`. -/
def nameMatches (name : List Char) (thisname : ℕ → Char) : Bool :=
  (List.range name.length).map thisname == name &&
    (thisname name.length == '\x00' || isSpace (thisname name.length))

/-- The loop from the `open` of the `name` file on: `.inl` what `find_type_by_name`
returns, `.inr` the locals the next entry starts from. -/
def openName (name : List Char) (f : NameFile) (st : ScanState) :
    ℤ × List DiscoveryFault ⊕ ScanState :=
  match f with
  | .missing => .inr st
  | .readError =>
    let st := { st with faults := st.faults ++ [.nameIndex] }
    if nameMatches name st.thisname then .inl (st.number.toInt, st.faults) else .inr st
  | .read bytes =>
    let bs := bytes.take (IIO_MAX_NAME_LENGTH - 1)
    let st := { st with thisname := readInto bs st.thisname }
    if bs.length < name.length then .inr st else
    let st := { st with thisname := Function.update st.thisname bs.length '\x00' }
    if nameMatches name st.thisname then .inl (st.number.toInt, st.faults) else .inr st

/-- The body of the loop at the entry `d`, with the outcome `alloc` of its `malloc`. -/
def scanEntry (name type : List Char) (tree : IioTree) (alloc : Bool) (d : List Char)
    (st : ScanState) : ℤ × List DiscoveryFault ⊕ ScanState :=
  if qualifies type d then
    let (numstrlen, number, new) := sscanfDecimal (d.drop type.length) st.number
    let idx := (type.length : ℤ) + numstrlen
    let st : ScanState :=
      ⟨number, st.thisname, st.faults ++ new ++ if idx < 0 then [.entryIndex] else []⟩
    if entryChar d idx.toNat = ':' then .inr st else
    if !alloc then .inl (-ENOMEM, st.faults) else
    openName name (tree.file (namePath type numstrlen number)) st
  else .inr st

/-- The loop over the entries from the `i`-th on. -/
def scanEntries (name type : List Char) (tree : IioTree) (o : ScanOutcome) :
    ℕ → List (List Char) → ScanState → ℤ × List DiscoveryFault
  | _, [], st => (-ENODEV, st.faults)
  | i, d :: ds, st =>
    match scanEntry name type tree (o.alloc i) d st with
    | .inl r => r
    | .inr st => scanEntries name type tree o (i + 1) ds st

/-- `find_type_by_name(name, type)`: what it returns, and the faults on the way. -/
def findTypeByName (name type : List Char) (tree : IioTree) (o : ScanOutcome) :
    ℤ × List DiscoveryFault :=
  if IIO_MAX_NAME_LENGTH - 1 ≤ name.length then (-ERANGE, []) else
  match tree.entries with
  | none => (-ENODEV, [])
  | some es => scanEntries name type tree o 0 es ⟨o.number, o.thisname, []⟩

/-- `dev_num` in the constructor: the device `find_type_by_name("CwMcuSensor", "iio:device")`
finds, or `0`. -/
def devNum (tree : IioTree) (o : ScanOutcome) : ℕ :=
  let r := (findTypeByName "CwMcuSensor".data "iio:device".data tree o).1
  if r < 0 then 0 else r.toNat

/-! ### A tree shaped as sysfs -/

/-- The `name` file of an entry. -/
def nameFileOf (e : List Char) : List Char := iioDir ++ e ++ "/name".data

/-- Only the `name` files of the entries open. -/
def SysfsShaped (tree : IioTree) : Prop :=
  ∀ p, tree.file p ≠ .missing → ∃ es, tree.entries = some es ∧ ∃ e ∈ es, p = nameFileOf e

/-- The first 29 bytes of a `name` file hold `name`, then NUL, white space or nothing. -/
def nameRead (name : List Char) : NameFile → Bool
  | .read bytes =>
    let bs := bytes.take (IIO_MAX_NAME_LENGTH - 1)
    let c := bs.getD name.length '\x00'
    bs.take name.length == name && (c == '\x00' || isSpace c)
  | _ => false

/-! ### `%d` prints one character only for one digit -/

theorem digit_lt {c : Char} (h : c.isDigit) : c.toNat - '0'.toNat < 10 := by
  simp only [Char.isDigit, Bool.and_eq_true, decide_eq_true_eq] at h
  have h57 : c.toNat ≤ 57 := UInt32.toNat_le_of_le (by decide) h.2
  have h0 : '0'.toNat = 48 := rfl
  omega

theorem lt_ten_of_length_toString_le_one {v : ℤ} (h : (toString v).data.length ≤ 1) :
    0 ≤ v ∧ v < 10 := by
  obtain ⟨hne, hdig, hval⟩ := numeral_toDigits v.natAbs
  rw [toString_data] at h
  split at h
  · rcases hd : Nat.toDigits 10 v.natAbs with _ | ⟨c, _⟩
    · exact absurd hd hne
    · simp [hd] at h
  · rcases hd : Nat.toDigits 10 v.natAbs with _ | ⟨c, _ | ⟨c', t⟩⟩
    · exact absurd hd hne
    · rw [hd] at hval hdig
      have := digit_lt (hdig c (List.mem_singleton_self c))
      simp only [decimalValue, List.foldl] at hval
      omega
    · simp [hd] at h

/-- A number below ten prints as its one digit. -/
theorem toString_data_of_lt_ten {n : ℕ} (hn : n < 10) :
    (toString (n : ℤ)).data = [Nat.digitChar n] := by
  rw [toString_data]
  simp [Nat.toDigits, Nat.toDigitsCore, Nat.div_eq_of_lt hn, Nat.mod_eq_of_lt hn]

theorem ne_e_of_mem_toString {v : ℤ} {c : Char} (hc : c ∈ (toString v).data) : c ≠ 'e' := by
  rw [toString_data, List.mem_append] at hc
  rintro rfl
  rcases hc with hc | hc
  · split at hc <;> simp at hc
  · exact absurd ((numeral_toDigits v.natAbs).isDigit _ hc) (by decide)

theorem e_not_mem_take_name {k : ℕ} (hk : k < 5) : 'e' ∉ ("/name".data).take k := by
  have : ∀ k : Fin 5, 'e' ∉ ("/name".data).take k := by decide
  exact this ⟨k, hk⟩

/-! ### The path of the `name` file -/

/-- A path cut before the end of its `/name` is no entry's `name` file: the last character
of a `name` file is `e`, and neither a printed number nor a proper prefix of `/name` holds
one. -/
theorem eq_of_take_eq_nameFileOf {type ds e : List Char} {m : ℕ} (hm : 0 < m)
    (hds : ∀ c ∈ ds, c ≠ 'e')
    (h : (iioDir ++ type ++ ds ++ "/name".data).take (iioDir.length + type.length + m) =
      nameFileOf e) :
    ds.length + 5 ≤ m ∧ e = type ++ ds := by
  have h' : type ++ (ds ++ "/name".data).take m = e ++ "/name".data := by
    rw [show iioDir ++ type ++ ds ++ "/name".data = (iioDir ++ type) ++ (ds ++ "/name".data) by
        simp,
      show iioDir.length + type.length + m = (iioDir ++ type).length + m by simp,
      List.take_append] at h
    simpa [nameFileOf] using h
  by_cases hl : ds.length + 5 ≤ m
  · rw [List.take_of_length_le (by simpa using hl)] at h'
    exact ⟨hl, (List.append_cancel_right (by simpa using h')).symm⟩
  · exfalso
    have hX : (ds ++ "/name".data).take m ≠ [] := by simp; omega
    have hlast : ((ds ++ "/name".data).take m).getLast? = some 'e' := by
      have := congrArg List.getLast? h'
      rw [List.getLast?_append, List.getLast?_append, List.getLast?_eq_getLast _ hX] at this
      rw [List.getLast?_eq_getLast _ hX]
      simpa using this
    have he := List.mem_of_getLast?_eq_some hlast
    rw [List.take_append_eq_append_take, List.mem_append] at he
    rcases he with he | he
    · exact hds _ (List.mem_of_mem_take he) rfl
    · exact e_not_mem_take_name (by omega) he

/-- The path of a `name` file that opens on a tree shaped as sysfs: whole, so the number in
it has one digit, and naming an entry of the directory. -/
theorem namePath_opened {tree : IioTree} (hs : SysfsShaped tree) {type : List Char} {k : ℤ}
    (hk : -1 ≤ k ∧ k ≤ 1) {number : BitVec 32}
    (hf : tree.file (namePath type k number) ≠ .missing) :
    0 ≤ number.toInt ∧ number.toInt < 10 ∧
      namePath type k number = nameFileOf (type ++ (toString number.toInt).data) ∧
      ∃ es, tree.entries = some es ∧ type ++ (toString number.toInt).data ∈ es := by
  obtain ⟨es, hes, e, he, hp⟩ := hs _ hf
  have hm : ((iioDir.length : ℤ) + type.length + k + 6 - 1).toNat =
      iioDir.length + type.length + (k + 5).toNat := by omega
  have hp' := hp
  rw [namePath, hm] at hp'
  obtain ⟨hl, rfl⟩ :=
    eq_of_take_eq_nameFileOf (by omega) (fun c hc => ne_e_of_mem_toString hc) hp'
  obtain ⟨h0, h10⟩ := lt_ten_of_length_toString_le_one (v := number.toInt) (by omega)
  exact ⟨h0, h10, hp, es, hes, he⟩

/-! ### One entry -/

theorem sscanfDecimal_fst (s : List Char) (number : BitVec 32) :
    -1 ≤ (sscanfDecimal s number).1 ∧ (sscanfDecimal s number).1 ≤ 1 := by
  unfold sscanfDecimal
  split <;> simp [EOF]

theorem sscanfDecimal_toString {v : ℤ} (hv : inInt v) (number : BitVec 32) :
    sscanfDecimal (toString v).data number = (1, BitVec.ofInt 32 v, []) := by
  have h : scanDecimal ((toString v).data ++ []) = .ok (v, []) := scanDecimal_toString v (by simp)
  rw [List.append_nil] at h
  simp [sscanfDecimal, h, hv]

theorem update_readInto_of_le {bs : List Char} {j : ℕ} (h : j ≤ bs.length)
    (thisname : ℕ → Char) :
    Function.update (readInto bs thisname) bs.length '\x00' j = bs.getD j '\x00' := by
  rcases Nat.lt_or_eq_of_le h with h | rfl
  · rw [Function.update_noteq (by omega), readInto, List.getD_eq_getElem _ _ h,
      List.getD_eq_getElem _ _ h]
  · simp

/-- After a `read` of at least `nameLen` bytes and the NUL after them, the test compares
`name` with the bytes read. -/
theorem nameMatches_read {name bs : List Char} (h : name.length ≤ bs.length)
    (thisname : ℕ → Char) :
    nameMatches name (Function.update (readInto bs thisname) bs.length '\x00') =
      (bs.take name.length == name &&
        (bs.getD name.length '\x00' == '\x00' || isSpace (bs.getD name.length '\x00'))) := by
  have hmap : (List.range name.length).map
      (Function.update (readInto bs thisname) bs.length '\x00') = bs.take name.length := by
    apply List.ext_getElem (by simpa using h)
    intro j h1 h2
    simp only [List.length_map, List.length_range] at h1
    simp only [List.getElem_map, List.getElem_take]
    rw [List.getElem_range, update_readInto_of_le (by omega), List.getD_eq_getElem]
  rw [nameMatches, hmap, update_readInto_of_le h]

/-- What a return after the `open` carries: the number, after a `name` file that opened and
read as `name`, or after a failed `read` whose fault is logged. -/
theorem openName_inl {name : List Char} {f : NameFile} {st : ScanState} {v : ℤ}
    {fs : List DiscoveryFault} (h : openName name f st = .inl (v, fs)) :
    v = st.number.toInt ∧ f ≠ .missing ∧ (nameRead name f ∨ .nameIndex ∈ fs) := by
  cases f with
  | missing => cases h
  | readError =>
    simp only [openName] at h
    split at h
    · cases h; exact ⟨rfl, nofun, .inr (by simp)⟩
    · cases h
  | read bytes =>
    simp only [openName] at h
    split_ifs at h with h1 h2
    cases h
    rw [nameMatches_read (by omega)] at h2
    exact ⟨rfl, nofun, .inl h2⟩

theorem openName_of_nameRead {name : List Char} {f : NameFile} (hf : nameRead name f)
    (st : ScanState) : openName name f st = .inl (st.number.toInt, st.faults) := by
  cases f with
  | read bytes =>
    have hl : name.length ≤ (bytes.take (IIO_MAX_NAME_LENGTH - 1)).length := by
      simp only [nameRead, Bool.and_eq_true, beq_iff_eq] at hf
      have := congrArg List.length hf.1
      simp only [List.length_take] at this ⊢
      omega
    simp only [openName, if_neg (Nat.not_lt.mpr hl), nameMatches_read hl]
    exact if_pos hf
  | _ => cases hf

/-- **One entry.** On a tree shaped as sysfs, the loop returns at an entry only when its
`malloc` fails, or with a number of one digit whose entry is in the directory and whose
`name` file read as `name` (or a failed `read` logged its fault). -/
theorem scanEntry_inl {tree : IioTree} (hs : SysfsShaped tree) {name type d : List Char}
    {alloc : Bool} {st : ScanState} {v : ℤ} {fs : List DiscoveryFault}
    (h : scanEntry name type tree alloc d st = .inl (v, fs)) :
    (v = -ENOMEM ∧ alloc = false) ∨
      (0 ≤ v ∧ v < 10 ∧ ∃ es, tree.entries = some es ∧ type ++ (toString v).data ∈ es ∧
        (nameRead name (tree.file (nameFileOf (type ++ (toString v).data))) ∨
          .nameIndex ∈ fs)) := by
  unfold scanEntry at h
  by_cases hq : qualifies type d
  swap
  · rw [if_neg hq] at h; cases h
  rw [if_pos hq] at h
  have hk := sscanfDecimal_fst (d.drop type.length) st.number
  rcases hsc : sscanfDecimal (d.drop type.length) st.number with ⟨k, number, new⟩
  rw [hsc] at h hk
  dsimp only at h hk
  by_cases hc : entryChar d ((type.length : ℤ) + k).toNat = ':'
  · rw [if_pos hc] at h; cases h
  rw [if_neg hc] at h
  cases alloc
  · cases h; exact .inl ⟨rfl, rfl⟩
  · obtain ⟨rfl, hf, hm⟩ := openName_inl h
    obtain ⟨h0, h10, hp, es, hes, he⟩ := namePath_opened hs hk hf
    rw [hp] at hm
    exact .inr ⟨h0, h10, es, hes, he, hm⟩

theorem qualifies_digit (type : List Char) {c : Char} (hc : c.isDigit) :
    qualifies type (type ++ [c]) := by
  have hdot : ∀ l : List Char, l.getLast? = some '.' → type ++ [c] ≠ l := by
    rintro l hl rfl
    simp only [List.getLast?_append, List.getLast?_singleton, Option.some.injEq] at hl
    cases hl
    exact absurd hc (by decide)
  simp only [qualifies, Bool.and_eq_true, bne_iff_ne, ne_eq, beq_iff_eq, decide_eq_true_eq]
  exact ⟨⟨⟨hdot _ rfl, hdot _ rfl⟩, by simp⟩, by simp⟩

/-- An entry of one digit whose `name` file reads as `name` ends the loop. -/
theorem scanEntry_digit (name type : List Char) {tree : IioTree} {n : ℕ} (hn : n < 10)
    (hname : nameRead name (tree.file (nameFileOf (type ++ (toString (n : ℤ)).data))))
    (st : ScanState) :
    ∃ r, scanEntry name type tree true (type ++ (toString (n : ℤ)).data) st = .inl r := by
  have hd := toString_data_of_lt_ten hn
  have hv : inInt (n : ℤ) := by simp only [inInt, decide_eq_true_eq]; omega
  have hn' : (BitVec.ofInt 32 (n : ℤ)).toInt = n := int32_of_range (by omega)
  have hpath : namePath type 1 (BitVec.ofInt 32 (n : ℤ)) =
      nameFileOf (type ++ (toString (n : ℤ)).data) := by
    rw [namePath, hn', hd]
    exact List.take_of_length_le (by simp [iioDir]; omega)
  have hnul : entryChar (type ++ [Nat.digitChar n]) (type.length + 1) = '\x00' :=
    List.getD_eq_default _ _ (by simp)
  rw [scanEntry, if_pos (by rw [hd]; exact qualifies_digit type (digitChar_numeral hn).1),
    List.drop_left, sscanfDecimal_toString hv]
  dsimp only
  rw [← hd] at hnul
  simp only [show ((type.length : ℤ) + 1).toNat = type.length + 1 by omega, hnul,
    if_neg (show ¬ ((type.length : ℤ) + 1 < 0) by omega), hpath, openName_of_nameRead hname]
  exact ⟨_, rfl⟩

/-! ### The loop -/

section Loop

variable {tree : IioTree} (hs : SysfsShaped tree) {name type : List Char} {o : ScanOutcome}
include hs

theorem scanEntries_found {i : ℕ} {es : List (List Char)} {st : ScanState}
    (h0 : 0 ≤ (scanEntries name type tree o i es st).1) :
    let r := scanEntries name type tree o i es st
    r.1 < 10 ∧ ∃ es', tree.entries = some es' ∧ type ++ (toString r.1).data ∈ es' ∧
      (nameRead name (tree.file (nameFileOf (type ++ (toString r.1).data))) ∨
        .nameIndex ∈ r.2) := by
  induction es generalizing i st with
  | nil => exact absurd h0 (by simp [scanEntries, ENODEV])
  | cons d ds ih =>
    simp only [scanEntries] at h0 ⊢
    split at h0
    · next r hr =>
      rcases scanEntry_inl hs hr with ⟨hv, -⟩ | ⟨-, h10, hr'⟩
      · simp [hv, ENOMEM] at h0
      · exact ⟨h10, hr'⟩
    · exact ih h0

theorem scanEntries_finds (halloc : ∀ i, o.alloc i = true) {n : ℕ} (hn : n < 10)
    (hname : nameRead name (tree.file (nameFileOf (type ++ (toString (n : ℤ)).data))))
    {i : ℕ} {es : List (List Char)} (he : type ++ (toString (n : ℤ)).data ∈ es)
    (st : ScanState) :
    0 ≤ (scanEntries name type tree o i es st).1 ∧ (scanEntries name type tree o i es st).1 < 10 := by
  induction es generalizing i st with
  | nil => cases he
  | cons d ds ih =>
    simp only [scanEntries]
    split
    · next r hr =>
      rcases scanEntry_inl hs hr with ⟨-, ha⟩ | ⟨h0, h10, -⟩
      · exact absurd (halloc i) (by simp [ha])
      · exact ⟨h0, h10⟩
    · next st' hr =>
      rcases List.mem_cons.mp he with rfl | he
      · obtain ⟨r, hr'⟩ := scanEntry_digit name type hn hname st
        rw [halloc i, hr'] at hr
        cases hr
      · exact ih he st'

end Loop

/-! ### What the scan finds -/

/-- **What the scan finds.** On a tree shaped as sysfs, a device the scan returns has a
number `r` of one digit, the entry `type ++ r` is in the directory, and its `name` file
read as `name`, unless a failed `read` compared a stale buffer, which is logged. A device
numbered `10` or more is never returned: the path of its `name` file is cut short. -/
theorem findTypeByName_found {tree : IioTree} (hs : SysfsShaped tree) (name type : List Char)
    (o : ScanOutcome) (h0 : 0 ≤ (findTypeByName name type tree o).1) :
    let r := findTypeByName name type tree o
    r.1 < 10 ∧ ∃ es, tree.entries = some es ∧ type ++ (toString r.1).data ∈ es ∧
      (nameRead name (tree.file (nameFileOf (type ++ (toString r.1).data))) ∨
        .nameIndex ∈ r.2) := by
  unfold findTypeByName at h0 ⊢
  split_ifs at h0 ⊢
  · exact absurd h0 (by simp [ERANGE])
  · split at h0
    · exact absurd h0 (by simp [ENODEV])
    · next es _ => exact scanEntries_found hs h0

/-- A listing with the hub at `iio:device3`, after a trigger and another device at
`iio:device10`. -/
def sampleTree : IioTree :=
  ⟨some [".".data, "..".data, "iio:trigger0".data, "iio:device10".data, "iio:device3".data],
    fun p => if p = nameFileOf "iio:device3".data then .read "CwMcuSensor\n".data
      else if p = nameFileOf "iio:device10".data then .read "lsm6ds3\n".data
      else .missing⟩

theorem sampleTree_sysfsShaped : SysfsShaped sampleTree := fun p hp => by
  simp only [sampleTree] at hp
  split_ifs at hp with h3 h10
  · exact ⟨_, rfl, _, by decide, h3⟩
  · exact ⟨_, rfl, _, by decide, h10⟩
  · exact absurd rfl hp

theorem findTypeByName_found_device_three :
    let o : ScanOutcome := ⟨fun _ => true, 0, fun _ => '\x00'⟩
    SysfsShaped sampleTree ∧
      0 ≤ (findTypeByName "CwMcuSensor".data "iio:device".data sampleTree o).1 ∧
      let r := findTypeByName "CwMcuSensor".data "iio:device".data sampleTree o
      r.1 < 10 ∧ ∃ es, sampleTree.entries = some es ∧ "iio:device".data ++ (toString r.1).data ∈ es ∧
        (nameRead "CwMcuSensor".data
            (sampleTree.file (nameFileOf ("iio:device".data ++ (toString r.1).data))) ∨
          .nameIndex ∈ r.2) :=
  ⟨sampleTree_sysfsShaped, by decide,
    findTypeByName_found sampleTree_sysfsShaped _ _ _ (by decide)⟩

/-- **Every device of one digit is found.** On a tree shaped as sysfs, with every
`malloc` succeeding and a `name` shorter than `thisname` can hold, an entry `type ++ n`
with `n` one digit whose `name` file reads as `name` makes the scan return a device,
the first such one in `readdir` order. -/
theorem findTypeByName_finds_digit_device {tree : IioTree} (hs : SysfsShaped tree)
    {name : List Char} (type : List Char) {o : ScanOutcome} (halloc : ∀ i, o.alloc i = true)
    (hlen : name.length < IIO_MAX_NAME_LENGTH - 1) {es : List (List Char)}
    (hes : tree.entries = some es) {n : ℕ} (hn : n < 10)
    (he : type ++ (toString (n : ℤ)).data ∈ es)
    (hname : nameRead name (tree.file (nameFileOf (type ++ (toString (n : ℤ)).data)))) :
    0 ≤ (findTypeByName name type tree o).1 ∧ (findTypeByName name type tree o).1 < 10 := by
  rw [findTypeByName, if_neg (by omega), hes]
  exact scanEntries_finds hs halloc hn hname he _

theorem findTypeByName_finds_device_three :
    let o : ScanOutcome := ⟨fun _ => true, 0, fun _ => '\x00'⟩
    let es := [".".data, "..".data, "iio:trigger0".data, "iio:device10".data, "iio:device3".data]
    SysfsShaped sampleTree ∧ (∀ i, o.alloc i = true) ∧
      "CwMcuSensor".data.length < IIO_MAX_NAME_LENGTH - 1 ∧ sampleTree.entries = some es ∧
      3 < 10 ∧ "iio:device".data ++ (toString ((3 : ℕ) : ℤ)).data ∈ es ∧
      nameRead "CwMcuSensor".data
        (sampleTree.file (nameFileOf ("iio:device".data ++ (toString ((3 : ℕ) : ℤ)).data))) ∧
      0 ≤ (findTypeByName "CwMcuSensor".data "iio:device".data sampleTree o).1 ∧
        (findTypeByName "CwMcuSensor".data "iio:device".data sampleTree o).1 < 10 := by
  intro o es
  have he : "iio:device".data ++ (toString ((3 : ℕ) : ℤ)).data ∈ es := by decide
  have hn : nameRead "CwMcuSensor".data
      (sampleTree.file (nameFileOf ("iio:device".data ++ (toString ((3 : ℕ) : ℤ)).data))) := by
    decide
  exact ⟨sampleTree_sysfsShaped, fun _ => rfl, by decide, rfl, by decide, he, hn,
    findTypeByName_finds_digit_device sampleTree_sysfsShaped _ (fun _ => rfl) (by decide) rfl
      (by decide) he hn⟩

/-- The scan never returns a number of two digits or more. -/
theorem findTypeByName_lt_ten {tree : IioTree} (hs : SysfsShaped tree) (name type : List Char)
    (o : ScanOutcome) : (findTypeByName name type tree o).1 < 10 := by
  unfold findTypeByName
  split_ifs
  · simp [ERANGE]
  · split
    · simp [ENODEV]
    · next es _ =>
      by_cases h0 : 0 ≤ (scanEntries name type tree o 0 es ⟨o.number, o.thisname, []⟩).1
      · exact (scanEntries_found hs h0).1
      · omega

/-- The device the constructor opens, `/dev/iio:device<dev_num>`, has a number of one
digit on every tree shaped as sysfs. -/
theorem devNum_lt_ten {tree : IioTree} (hs : SysfsShaped tree) (o : ScanOutcome) :
    devNum tree o < 10 := by
  have h := findTypeByName_lt_ten hs "CwMcuSensor".data "iio:device".data o
  show (if (findTypeByName "CwMcuSensor".data "iio:device".data tree o).1 < 0 then 0
    else (findTypeByName "CwMcuSensor".data "iio:device".data tree o).1.toNat) < 10
  split <;> omega

theorem devNum_of_sampleTree :
    SysfsShaped sampleTree ∧ devNum sampleTree ⟨fun _ => true, 0, fun _ => '\x00'⟩ = 3 ∧
      devNum sampleTree ⟨fun _ => true, 0, fun _ => '\x00'⟩ < 10 :=
  ⟨sampleTree_sysfsShaped, by decide, devNum_lt_ten sampleTree_sysfsShaped _⟩

/-- With the hub at `iio:device10`, the scan opens `.../iio:device10/nam` and fails. -/
example :
    let tree : IioTree := ⟨some ["iio:device10".data], fun p =>
      if p = nameFileOf "iio:device10".data then .read "CwMcuSensor\n".data else .missing⟩
    findTypeByName "CwMcuSensor".data "iio:device".data tree ⟨fun _ => true, 0, fun _ => '\x00'⟩ =
      (-ENODEV, []) := by
  decide

end SensorHub
