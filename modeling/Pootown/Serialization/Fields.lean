import Mathlib.Tactic
import Pootown.Library.Fallible
import Pootown.Library.JsonText
import Pootown.Model.Primitives

/-!
# Snapshot fields

The checks both snapshot formats make of a field.

* `integer`, `amount`, `text`, `opaqueIdentifier`, ...: one checked field, and what it makes of the
  value that was written for it;
* `hydrateRng`: the record both formats hold, and the first to be read back whole;
* `length_str_le`, `length_rngJson_le`, ...: the size of what is written for a field.

An absent property reads as `undefined`; no check tells that from `null` where it is read before
the names of the fields have been checked, so `Fields.get` gives `null` for it.
-/

namespace Pootown.Snapshot

open Fallible CanonicalJson JsonText

/-- What a failed check throws, by its message. -/
abbrev SnapshotError := String

abbrev Fields := List (String × Json)

/-! ### Checked fields -/

def record (value : Json) (label : String) : Except SnapshotError Fields :=
  match value with
  | .obj fields => .ok fields
  | _ => .error (label ++ " must be an object")

/-- The sorted names of the fields are the sorted expected names. -/
def exactKeys (fields : Fields) (keys : List String) (label : String) :
    Except SnapshotError Unit :=
  require ((fields.map Prod.fst).Perm keys) (label ++ " has unknown or missing fields")

def Fields.get (fields : Fields) (key : String) : Json := (fields.lookup key).getD .null

def integer (value : Json) (label : String) (minimum maximum : ℤ) : Except SnapshotError ℤ :=
  let message := label ++ " must be a safe integer between " ++ toString minimum ++ " and " ++
    toString maximum
  match value with
  | .num n =>
    if IsSafeInteger n ∧ minimum ≤ n ∧ n ≤ maximum then .ok n else .error message
  | _ => .error message

/-- The default bounds of `integer`. -/
def safeIntegerFrom0 (value : Json) (label : String) : Except SnapshotError ℤ :=
  integer value label 0 9007199254740991

/-- An integer that the model keeps as a natural number. -/
def natural (value : Json) (label : String) (minimum maximum : ℕ) : Except SnapshotError ℕ := do
  let n ← integer value label minimum maximum
  return n.toNat

def nullable {α : Type} (value : Json) (read : Json → Except SnapshotError α) :
    Except SnapshotError (Option α) :=
  match value with
  | .null => .ok none
  | value => do
    let a ← read value
    return some a

/-- The pattern `^(0|[1-9][0-9]{0,77})$`. -/
def isCanonicalDecimal (text : String) : Bool :=
  match text.toList with
  | [] => false
  | c :: cs =>
    if c = '0' then cs.isEmpty
    else c.isDigit && decide (cs.length ≤ 77) && cs.all Char.isDigit

/-- An amount of cash, in decimal digits. -/
def amount (value : Json) (label overflow : String) : Except SnapshotError ℤ :=
  let message := label ++ " must be a canonical unsigned decimal string"
  match value with
  | .str text => do
    require (isCanonicalDecimal text = true) message
    let amount : ℤ := Nat.ofDigitChars 10 text.toList 0
    require (IsMatchCash amount) overflow
    return amount
  | _ => .error message

/-- The amounts of a lobby, whose range is checked by `matchCash`. -/
def decimal (value : Json) (label : String) : Except SnapshotError ℤ :=
  amount value label "in-match cash must fit the canonical unsigned decimal contract"

/-- The amounts of a game. -/
def cash (value : Json) (label : String) : Except SnapshotError ℤ :=
  amount value label (label ++ " exceeds match cash limits")

def text (value : Json) (label : String) (maximum : ℕ) : Except SnapshotError String :=
  match value with
  | .str text =>
    if 1 ≤ utf16Length text ∧ utf16Length text ≤ maximum then .ok text
    else .error (label ++ " must be a bounded string")
  | _ => .error (label ++ " must be a bounded string")

def opaqueIdentifier (value : Json) (label : String) : Except SnapshotError String := do
  let identifier ← text value label 128
  require (validOpaqueId identifier = true) (label ++ " must be a valid opaque identifier")
  return identifier

def boolean (value : Json) (label : String) : Except SnapshotError Bool :=
  match value with
  | .bool b => .ok b
  | _ => .error (label ++ " must be boolean")

/-- One of a list of words. -/
def oneOf {α : Type} (words : List (String × α)) (value : Json) (message : SnapshotError) :
    Except SnapshotError α :=
  match value with
  | .str word => requireSome (words.lookup word) message
  | _ => .error message

def Json.isNull (value : Json) : Bool :=
  match value with
  | .null => true
  | _ => false

def Json.isNumber (value : Json) (expected : ℤ) : Bool :=
  match value with
  | .num n => n == expected
  | _ => false

def array (value : Json) (message : SnapshotError) : Except SnapshotError (List Json) :=
  match value with
  | .arr items => .ok items
  | _ => .error message

/-- A value that has to be one given string. -/
def Json.isText (value : Json) (expected : String) : Bool :=
  match value with
  | .str text => text == expected
  | _ => false

/-- What each item of a list makes, given its index. -/
def mapItems {α : Type} (read : Json → ℕ → Except SnapshotError α) :
    ℕ → List Json → Except SnapshotError (List α)
  | _, [] => .ok []
  | index, item :: items => do
    let a ← read item index
    let rest ← mapItems read (index + 1) items
    return a :: rest

def rngFields (value : Json) : Except SnapshotError Fields := do
  let rng ← record value "rng"
  exactKeys rng ["algorithm", "state", "draws", "bytesConsumed"] "rng"
  return rng

def readRng (rng : Fields) : Except SnapshotError RandomCheckpoint := do
  let algorithm ← text (rng.get "algorithm") "rng.algorithm" 64
  let state ← text (rng.get "state") "rng.state" 4096
  let draws ← safeIntegerFrom0 (rng.get "draws") "rng.draws"
  let bytesConsumed ← safeIntegerFrom0 (rng.get "bytesConsumed") "rng.bytesConsumed"
  return ⟨algorithm, state, draws, bytesConsumed⟩

def hydrateRng (value : Json) : Except SnapshotError RandomCheckpoint := do
  let rng ← rngFields value
  readRng rng

/-! ### Written fields -/

/-- A `bigint` is written as its decimal digits. -/
def bigintJson (amount : ℤ) : Json := .str (toString amount)

def natJson (n : ℕ) : Json := .num n

def nullableJson {α : Type} (write : α → Json) : Option α → Json
  | none => .null
  | some a => write a

def rngEntries (rng : RandomCheckpoint) : Fields :=
  [("algorithm", .str rng.algorithm), ("state", .str rng.state), ("draws", .num rng.draws),
    ("bytesConsumed", .num rng.bytesConsumed)]

def rngJson (rng : RandomCheckpoint) : Json := .obj (rngEntries rng)

/-! ### Fields read back -/

@[simp] theorem record_obj (fields : Fields) (label : String) :
    record (.obj fields) label = .ok fields := rfl

theorem oneOf_str {α : Type} {words : List (String × α)} {word : String} {message : SnapshotError}
    {a : α} : oneOf words (.str word) message = .ok a ↔ words.lookup word = some a :=
  requireSome_eq_ok

@[simp] theorem array_arr (items : List Json) (message : SnapshotError) :
    array (.arr items) message = .ok items := rfl

theorem exactKeys_eq_ok {fields : Fields} {keys : List String} {label : String} {u : Unit} :
    exactKeys fields keys label = .ok u ↔ (fields.map Prod.fst).Perm keys := require_eq_ok

theorem integer_num {n m minimum maximum : ℤ} {label : String} :
    integer (.num n) label minimum maximum = .ok m ↔
      m = n ∧ IsSafeInteger n ∧ minimum ≤ n ∧ n ≤ maximum := by
  unfold integer
  simp only [ite_eq_ok, error_eq_ok, and_false, or_false, ok_eq_ok]
  exact ⟨fun h => ⟨h.2.symm, h.1⟩, fun h => ⟨h.2, h.1.symm⟩⟩

theorem safeIntegerFrom0_num {n m : ℤ} {label : String} :
    safeIntegerFrom0 (.num n) label = .ok m ↔ m = n ∧ IsSafeInteger n ∧ 0 ≤ n := by
  rw [safeIntegerFrom0, integer_num]
  exact and_congr_right fun _ => ⟨fun h => ⟨h.1, h.2.1⟩, fun h => ⟨h.1, h.2, h.1.2⟩⟩

theorem natural_natJson {n m minimum maximum : ℕ} {label : String} :
    natural (natJson n) label minimum maximum = .ok m ↔
      m = n ∧ IsSafeInteger n ∧ minimum ≤ n ∧ n ≤ maximum := by
  simp only [natural, natJson, bind_eq_ok, integer_num, pure_eq_ok]
  constructor
  · rintro ⟨a, ⟨rfl, hsafe, hmin, hmax⟩, rfl⟩
    exact ⟨Int.toNat_natCast n, hsafe, by omega, by omega⟩
  · rintro ⟨rfl, hsafe, hmin, hmax⟩
    exact ⟨m, ⟨rfl, hsafe, by omega, by omega⟩, Int.toNat_natCast m⟩

/-- A natural number below a bound that is itself safe. -/
theorem natural_le {n m maximum : ℕ} {label : String} (h : maximum ≤ 9007199254740991) :
    natural (natJson n) label 0 maximum = .ok m ↔ m = n ∧ n ≤ maximum := by
  rw [natural_natJson]
  refine and_congr_right fun _ => ⟨fun hn => hn.2.2, fun hn => ⟨by omega, Nat.zero_le _, hn⟩⟩

theorem toList_toString {n : ℤ} (h : 0 ≤ n) :
    (toString n).toList = Nat.toDigits 10 n.toNat := by
  obtain ⟨m, rfl⟩ := Int.eq_ofNat_of_zero_le h
  exact Nat.toList_repr

theorem isCanonicalDecimal_toString {n : ℤ} :
    isCanonicalDecimal (toString n) = true ↔ IsMatchCash n := by
  rcases lt_or_ge n 0 with hneg | hpos
  · obtain ⟨m, rfl⟩ : ∃ m : ℕ, n = Int.negSucc m := Int.eq_negSucc_of_lt_zero hneg
    have htext : (toString (Int.negSucc m)).toList = '-' :: Nat.toDigits 10 (m + 1) := by
      show ("-" ++ Nat.repr (m + 1)).toList = _
      rw [String.toList_append, Nat.toList_repr]
      rfl
    simp only [isCanonicalDecimal, htext]
    simp only [Char.reduceEq, if_false, show Char.isDigit '-' = false from rfl, Bool.false_and,
      Bool.false_eq_true, false_iff]
    omega
  · have hsmall : IsMatchCash n ↔ n.toNat < 10 ^ 78 := by
      simp only [IsMatchCash, maxMatchCash]
      omega
    rw [hsmall, ← Nat.length_toDigits_le_iff (b := 10) (by omega) (by omega)]
    obtain ⟨c, cs, hdigits, hdigit⟩ := head_toDigits n.toNat
    have hall : cs.all Char.isDigit = true := by
      rw [List.all_eq_true]
      intro d hd
      exact Nat.isDigit_of_mem_toDigits (b := 10) (n := n.toNat) (by omega) le_rfl
        (hdigits ▸ List.mem_cons_of_mem _ hd)
    simp only [isCanonicalDecimal, toList_toString hpos, hdigits]
    split_ifs with hzero
    · -- the only literal that starts with a zero is zero itself
      have hn : n.toNat = 0 := by
        by_contra hne
        refine head_toDigits_ne_zero (Nat.pos_of_ne_zero hne) ?_
        rw [hdigits, hzero]
        rfl
      rw [hn, Nat.toDigits_zero] at hdigits
      cases hdigits
      simp
    · simp [hdigit, hall, Nat.lt_succ_iff]

theorem amount_bigintJson {n m : ℤ} {label overflow : String} :
    amount (bigintJson n) label overflow = .ok m ↔ m = n ∧ IsMatchCash n := by
  simp only [amount, bigintJson, bind_eq_ok, require_eq_ok, exists_const, pure_eq_ok,
    isCanonicalDecimal_toString]
  constructor
  · rintro ⟨hcash, -, rfl⟩
    rw [toList_toString hcash.1, Nat.ofDigitChars_ten_toDigits]
    exact ⟨Int.toNat_of_nonneg hcash.1, hcash⟩
  · rintro ⟨rfl, hcash⟩
    rw [toList_toString hcash.1, Nat.ofDigitChars_ten_toDigits, Int.toNat_of_nonneg hcash.1]
    exact ⟨hcash, hcash, rfl⟩

theorem decimal_bigintJson {n m : ℤ} {label : String} :
    decimal (bigintJson n) label = .ok m ↔ m = n ∧ IsMatchCash n := amount_bigintJson

theorem cash_bigintJson {n m : ℤ} {label : String} :
    cash (bigintJson n) label = .ok m ↔ m = n ∧ IsMatchCash n := amount_bigintJson

theorem text_str {s t label : String} {maximum : ℕ} :
    text (.str s) label maximum = .ok t ↔ t = s ∧ 1 ≤ utf16Length s ∧ utf16Length s ≤ maximum := by
  unfold text
  simp only [ite_eq_ok, error_eq_ok, and_false, or_false, ok_eq_ok]
  exact ⟨fun h => ⟨h.2.symm, h.1⟩, fun h => ⟨h.2, h.1.symm⟩⟩

theorem validOpaqueId_length {value : String} (h : validOpaqueId value = true) :
    1 ≤ utf16Length value ∧ utf16Length value ≤ 128 := by
  have hascii : ∀ c : Char, isOpaqueIdChar c = true → c.val < 0x10000 := by
    intro c hc
    simp only [isOpaqueIdChar, Bool.or_eq_true, beq_iff_eq] at hc
    rcases hc with (halphanum | rfl) | rfl
    · have hranges : (decide (c.val ≥ 'A'.val ∧ c.val ≤ 'Z'.val) ||
          (decide (c.val ≥ 'a'.val) && decide (c.val ≤ 'z'.val)) ||
          (decide (c.val ≥ '0'.val) && decide (c.val ≤ '9'.val))) = true := halphanum
      simp only [Bool.or_eq_true, Bool.and_eq_true, decide_eq_true_eq] at hranges
      rcases hranges with (hc | hc) | hc
      · exact UInt32.lt_of_le_of_lt hc.2 (by decide)
      · exact UInt32.lt_of_le_of_lt hc.2 (by decide)
      · exact UInt32.lt_of_le_of_lt hc.2 (by decide)
    · decide
    · decide
  unfold validOpaqueId at h
  unfold utf16Length
  cases hchars : value.toList with
  | nil => simp [hchars] at h
  | cons c cs =>
    simp only [hchars, Bool.and_eq_true, decide_eq_true_eq, List.all_eq_true] at h
    obtain ⟨⟨hlen, hc⟩, hcs⟩ := h
    have hones : ∀ d ∈ c :: cs, (if d.val < 0x10000 then 1 else 2) = 1 := by
      intro d hd
      refine if_pos (hascii d ?_)
      rcases List.mem_cons.1 hd with rfl | hd
      · simp [isOpaqueIdChar, hc]
      · exact hcs d hd
    rw [List.map_congr_left hones]
    simp
    omega

theorem opaqueIdentifier_str {s t label : String} :
    opaqueIdentifier (.str s) label = .ok t ↔ t = s ∧ validOpaqueId s = true := by
  simp only [opaqueIdentifier, bind_eq_ok, text_str, require_eq_ok, exists_const, pure_eq_ok]
  constructor
  · rintro ⟨_, ⟨rfl, -⟩, hvalid, rfl⟩
    exact ⟨rfl, hvalid⟩
  · rintro ⟨rfl, hvalid⟩
    exact ⟨t, ⟨rfl, validOpaqueId_length hvalid⟩, hvalid, rfl⟩

@[simp] theorem boolean_bool (b : Bool) (label : String) : boolean (.bool b) label = .ok b := rfl

@[simp] theorem Fields.get_cons_self (key : String) (value : Json) (fields : Fields) :
    Fields.get ((key, value) :: fields) key = value := by
  simp [Fields.get]

@[simp] theorem Fields.get_cons_ne {key other : String} (h : key ≠ other) (value : Json)
    (fields : Fields) : Fields.get ((other, value) :: fields) key = Fields.get fields key := by
  have hne : (key == other) = false := by simpa using h
  simp [Fields.get, List.lookup_cons, hne]

theorem isNumber_num {n expected : ℤ} : Json.isNumber (.num n) expected = true ↔ n = expected :=
  beq_iff_eq

theorem isNumber_natJson {n : ℕ} {expected : ℤ} :
    Json.isNumber (natJson n) expected = true ↔ (n : ℤ) = expected := isNumber_num

theorem isText_str {s expected : String} : Json.isText (.str s) expected = true ↔ s = expected :=
  beq_iff_eq

@[simp] theorem nullableJson_none {α : Type} (write : α → Json) :
    nullableJson write none = .null := rfl

@[simp] theorem nullableJson_some {α : Type} (write : α → Json) (a : α) :
    nullableJson write (some a) = write a := rfl

/-- A list is read back when every item is. -/
theorem mapItems_map {α : Type} {read : Json → ℕ → Except SnapshotError α} {write : α → Json}
    {Fits : ℕ → α → Prop} (h : ∀ i a b, read (write a) i = .ok b ↔ b = a ∧ Fits i a) {start : ℕ}
    {l out : List α} :
    mapItems read start (l.map write) = .ok out ↔
      out = l ∧ ∀ i a, l[i]? = some a → Fits (start + i) a := by
  induction l generalizing start out with
  | nil => simp [mapItems, eq_comm]
  | cons a l ih =>
    simp only [List.map_cons, mapItems, bind_eq_ok, h, ih, pure_eq_ok]
    constructor
    · rintro ⟨_, ⟨rfl, ha⟩, _, ⟨rfl, hl⟩, rfl⟩
      refine ⟨rfl, fun i b hb => ?_⟩
      cases i with
      | zero =>
        cases hb
        exact ha
      | succ i =>
        rw [show start + (i + 1) = start + 1 + i by omega]
        exact hl i b hb
    · rintro ⟨rfl, hall⟩
      refine ⟨a, ⟨rfl, hall 0 a rfl⟩, l, ⟨rfl, fun i b hb => ?_⟩, rfl⟩
      rw [show start + 1 + i = start + (i + 1) by omega]
      exact hall (i + 1) b hb

/-- An optional value is read back when the value is, and is not written as `null`. -/
theorem nullable_nullableJson {α : Type} {read : Json → Except SnapshotError α} {write : α → Json}
    {Fits : α → Prop} (hne : ∀ a, write a ≠ .null)
    (h : ∀ a b, read (write a) = .ok b ↔ b = a ∧ Fits a) {o out : Option α} :
    nullable (nullableJson write o) read = .ok out ↔ out = o ∧ ∀ a, o = some a → Fits a := by
  cases o with
  | none => simp [nullableJson, nullable, eq_comm]
  | some a =>
    have hread : nullable (write a) read = (do
        let a ← read (write a)
        return some a) := by
      unfold nullable
      split
      · exact absurd ‹_› (hne a)
      · rfl
    simp only [nullableJson, hread, bind_eq_ok, h, pure_eq_ok, Option.some.injEq]
    constructor
    · rintro ⟨_, ⟨rfl, ha⟩, rfl⟩
      exact ⟨rfl, fun b hb => hb ▸ ha⟩
    · rintro ⟨rfl, ha⟩
      exact ⟨a, ⟨rfl, ha a rfl⟩, rfl⟩

theorem rngFields_rngJson {rng : RandomCheckpoint} {fields : Fields} :
    rngFields (rngJson rng) = .ok fields ↔ fields = rngEntries rng := by
  simp only [rngFields, rngJson, record_obj, bind_eq_ok, ok_eq_ok, exists_eq_left', exactKeys_eq_ok,
    exists_const, pure_eq_ok, rngEntries, List.map_cons, List.map_nil, List.Perm.refl, true_and]
  exact eq_comm

theorem readRng_rngEntries {rng rng' : RandomCheckpoint} :
    readRng (rngEntries rng) = .ok rng' ↔ rng' = rng ∧ ValidRandomCheckpoint rng := by
  simp only [readRng, rngEntries, bind_eq_ok, Fields.get_cons_self, Fields.get_cons_ne, text_str,
    safeIntegerFrom0_num, pure_eq_ok, ne_eq, String.reduceEq, not_false_eq_true, and_assoc,
    exists_eq_left]
  constructor
  · rintro ⟨h1, h2, h3, h4, h5, h6, h7, h8, h9, h10, rfl⟩
    exact ⟨rfl, h1, h2, h3, h4, ⟨h5, h6⟩, h7, ⟨h8, h9⟩, h10⟩
  · rintro ⟨rfl, h1, h2, h3, h4, ⟨h5, h6⟩, h7, ⟨h8, h9⟩, h10⟩
    exact ⟨h1, h2, h3, h4, h5, h6, h7, h8, h9, h10, rfl⟩

theorem hydrateRng_rngJson {rng rng' : RandomCheckpoint} :
    hydrateRng (rngJson rng) = .ok rng' ↔ rng' = rng ∧ ValidRandomCheckpoint rng := by
  simp only [hydrateRng, bind_eq_ok, rngFields_rngJson, exists_eq_left, readRng_rngEntries]

/-- A time a snapshot can carry. -/
abbrev Recordable (time : ℤ) : Prop := IsSafeInteger time ∧ 0 ≤ time

theorem Recordable.plain {time : ℤ} (h : Recordable time) : Plain (.num time) := .num h.1

theorem plain_nullableJson {α : Type} {write : α → Json} {o : Option α}
    (h : ∀ a, o = some a → Plain (write a)) : Plain (nullableJson write o) := by
  cases o with
  | none => exact .null
  | some a => exact h a rfl

theorem plain_natJson {n : ℕ} (h : n ≤ 9007199254740991) : Plain (natJson n) := .num (by omega)

theorem plain_rngJson {rng : RandomCheckpoint} (h : ValidRandomCheckpoint rng) :
    Plain (rngJson rng) := by
  refine .obj (by simp [rngEntries]) ?_
  simp only [rngEntries, List.forall_mem_cons]
  exact ⟨.str _, .str _, .num h.2.2.2.2.1, .num h.2.2.2.2.2.2.1, by simp⟩

/-! ### Sizes -/

theorem length_natJson_le {n : ℕ} (h : n ≤ 9007199254740991) :
    (render (natJson n)).length ≤ 17 := by
  show (number (n : ℤ)).length ≤ 17
  exact length_number_le (by omega)

theorem length_bigintJson_le {n : ℤ} (h : IsMatchCash n) :
    (render (bigintJson n)).length ≤ 470 := by
  have hdigits : (toString n).toList.length ≤ 78 := by
    rw [toList_toString h.1]
    refine (Nat.length_toDigits_le_iff (by decide) (by decide)).2 ?_
    have hmax : maxMatchCash < 10 ^ 78 := by decide
    have hn := h.2
    omega
  have hquote := length_quote_le (toString n)
  show (quote (toString n)).length ≤ 470
  omega

theorem length_str_le {s : String} {bound : ℕ} (h : utf16Length s ≤ bound) :
    (render (.str s)).length ≤ 6 * bound + 2 := by
  have hunits : s.toList.length ≤ utf16Length s := by
    unfold utf16Length
    induction s.toList with
    | nil => simp
    | cons c rest ih =>
      rw [List.map_cons, List.sum_cons, List.length_cons]
      split <;> omega
  have hquote := length_quote_le s
  show (quote s).length ≤ _
  omega

theorem length_nullableJson_le {α : Type} {write : α → Json} {o : Option α} {bound : ℕ}
    (hbound : 4 ≤ bound) (h : ∀ a, o = some a → (render (write a)).length ≤ bound) :
    (render (nullableJson write o)).length ≤ bound := by
  cases o with
  | none => exact hbound
  | some a => exact h a rfl

theorem length_id_le {id : String} (h : validOpaqueId id = true) :
    (render (.str id)).length ≤ 770 :=
  length_str_le (validOpaqueId_length h).2

theorem length_rngJson_le {rng : RandomCheckpoint} (h : ValidRandomCheckpoint rng) :
    (render (rngJson rng)).length ≤ 26000 := by
  obtain ⟨-, halgorithm, -, hstate, hdraws, -, hbytes, -⟩ := h
  exact (length_render_obj_le ["algorithm", "state", "draws", "bytesConsumed"] rfl
    (.cons (length_str_le halgorithm) (.cons (length_str_le hstate)
      (.cons (length_number_le hdraws) (.cons (length_number_le hbytes) .nil))))).trans
    (by decide +kernel)

end Pootown.Snapshot
