import Mathlib.Tactic
import Mathlib.Data.Int.Log
import Pootown.Library.CanonicalJson

/-!
# Reading JSON texts

The grammar of JSON as a reader, and the round trip through a text.

* `roundEven`, `toDouble`: the double nearest to a number, ties to the even one;
* `readString`, `readNumber`, `readValue`: the three kinds of token, with fuel for the nesting;
* `parseJson`: the value of a text.  A later field of an object replaces an earlier one of the same
  name.  Values hold no number but safe integers, and no unpaired surrogate: a text with one of
  these has no value here;
* `Plain`: the values a text shows in full, and `parseJson_render`: they are read back.
-/

namespace JsonText

open CanonicalJson

/-! ### Doubles -/

/-- The nearest integer, ties to the even one. -/
def roundEven (q : ℚ) : ℤ :=
  if q - ⌊q⌋ < 1 / 2 then ⌊q⌋
  else if 1 / 2 < q - ⌊q⌋ then ⌊q⌋ + 1
  else if ⌊q⌋ % 2 = 0 then ⌊q⌋ else ⌊q⌋ + 1

/-- The exponent of the last of the 53 binary digits of a double. -/
def lastExponent (q : ℚ) : ℤ := max (Int.log 2 |q| - 52) (-1074)

/-- The double nearest to a number.  Beyond the range of doubles the exponent goes on growing,
which is as far from the integers below `2 ^ 53` as an infinity is. -/
def toDouble (q : ℚ) : ℚ := roundEven (q / 2 ^ lastExponent q) * 2 ^ lastExponent q

/-- The integers that doubles tell apart. -/
abbrev Safe (n : ℤ) : Prop := -9007199254740991 ≤ n ∧ n ≤ 9007199254740991

/-- The double nearest to a number, when it is a safe integer. -/
def safeInteger (q : ℚ) : Option ℤ :=
  if (toDouble q).den = 1 ∧ Safe (toDouble q).num then some (toDouble q).num else none

theorem roundEven_intCast (n : ℤ) : roundEven n = n := by
  simp [roundEven]

theorem lastExponent_le {n : ℤ} (h : Safe n) : lastExponent n ≤ 0 := by
  have hlt : Int.log 2 |(n : ℚ)| < 53 := by
    rcases eq_or_ne n 0 with rfl | hne
    · simp
    · have habs : |(n : ℚ)| < (2 : ℚ) ^ (53 : ℤ) := by
        have hn : |n| < 2 ^ 53 := by
          rw [abs_lt]
          omega
        exact_mod_cast hn
      exact (Int.lt_zpow_iff_log_lt (by norm_num) (abs_pos.2 (by exact_mod_cast hne))).1
        (by exact_mod_cast habs)
  have hlog : Int.log 2 |(n : ℚ)| - 52 ≤ 0 := by omega
  exact max_le hlog (by norm_num)

/-- Safe integers are doubles. -/
theorem toDouble_intCast {n : ℤ} (h : Safe n) : toDouble n = n := by
  obtain ⟨k, hk⟩ : ∃ k : ℕ, lastExponent n = -(k : ℤ) :=
    ⟨(-lastExponent n).toNat, by have := lastExponent_le h; omega⟩
  have hscaled : (n : ℚ) / 2 ^ (-(k : ℤ)) = ((n * 2 ^ k : ℤ) : ℚ) := by
    rw [zpow_neg, zpow_natCast, div_inv_eq_mul]
    push_cast
    rfl
  rw [toDouble, hk, hscaled, roundEven_intCast, zpow_neg, zpow_natCast]
  push_cast
  exact mul_inv_cancel_right₀ (by positivity) _

theorem safeInteger_intCast {n : ℤ} (h : Safe n) : safeInteger n = some n := by
  rw [safeInteger, toDouble_intCast h]
  simp [h]

/-! ### Tokens -/

/-- White space between tokens. -/
def isSpace (c : Char) : Bool := c == ' ' || c == '\x09' || c == '\x0a' || c == '\x0d'

def skipSpace (text : List Char) : List Char := text.dropWhile isSpace

def hexDigit (c : Char) : Option ℕ :=
  if c.isDigit then some (c.toNat - 48)
  else if 'a' ≤ c ∧ c ≤ 'f' then some (c.toNat - 87)
  else if 'A' ≤ c ∧ c ≤ 'F' then some (c.toNat - 55)
  else none

/-- The code unit that four hexadecimal digits write. -/
def readUnit : List Char → Option (ℕ × List Char)
  | a :: b :: c :: d :: rest => do
    let a ← hexDigit a
    let b ← hexDigit b
    let c ← hexDigit c
    let d ← hexDigit d
    return (((a * 16 + b) * 16 + c) * 16 + d, rest)
  | _ => none

/-- The character a code unit begins: by itself, or as the first half of a surrogate pair. -/
def readUnicode (text : List Char) : Option (Char × List Char) := do
  let (unit, rest) ← readUnit text
  if unit < 0xd800 ∨ 0xe000 ≤ unit then return (Char.ofNat unit, rest)
  match rest with
  | '\x5c' :: 'u' :: rest =>
    let (low, rest) ← readUnit rest
    if unit < 0xdc00 ∧ 0xdc00 ≤ low ∧ low < 0xe000 then
      return (Char.ofNat (0x10000 + (unit - 0xd800) * 0x400 + (low - 0xdc00)), rest)
    else none
  | _ => none

/-- One character of a string literal. -/
def readChar : List Char → Option (Char × List Char)
  | '\x5c' :: 'u' :: rest => readUnicode rest
  | '\x5c' :: 'b' :: rest => some ('\x08', rest)
  | '\x5c' :: 't' :: rest => some ('\x09', rest)
  | '\x5c' :: 'n' :: rest => some ('\x0a', rest)
  | '\x5c' :: 'f' :: rest => some ('\x0c', rest)
  | '\x5c' :: 'r' :: rest => some ('\x0d', rest)
  | '\x5c' :: c :: rest => if c = '\x22' ∨ c = '\x5c' ∨ c = '/' then some (c, rest) else none
  | '\x5c' :: [] => none
  | c :: rest => if c.toNat < 32 then none else some (c, rest)
  | [] => none

/-- A string literal after its opening quote. -/
def readString : ℕ → List Char → Option (List Char × List Char)
  | 0, _ => none
  | fuel + 1, text =>
    if text.head? = some '\x22' then some ([], text.tail)
    else do
      let (c, rest) ← readChar text
      let (cs, rest) ← readString fuel rest
      return (c :: cs, rest)

/-- The digits a text starts with: their value, their number and what follows. -/
def readDigits (text : List Char) : ℕ × ℕ × List Char :=
  (Nat.ofDigitChars 10 (text.takeWhile Char.isDigit) 0, (text.takeWhile Char.isDigit).length,
    text.dropWhile Char.isDigit)

/-- The decimals after a point, as an integer and their number. -/
def readFraction : List Char → Option (ℕ × ℕ × List Char)
  | '.' :: rest => if (readDigits rest).2.1 = 0 then none else some (readDigits rest)
  | rest => some (0, 0, rest)

/-- The exponent of ten. -/
def readExponent : List Char → Option (ℤ × List Char)
  | c :: rest =>
    if c = 'e' ∨ c = 'E' then
      let negative := rest.head? == some '-'
      let signed := if rest.head? = some '-' ∨ rest.head? = some '+' then rest.tail else rest
      let (value, count, rest) := readDigits signed
      if count = 0 then none else some (if negative then -(value : ℤ) else value, rest)
    else some (0, c :: rest)
  | [] => some (0, [])

/-- A number literal without its sign. -/
def readMagnitude (text : List Char) : Option (ℚ × List Char) :=
  let (whole, count, rest) := readDigits text
  if count = 0 ∨ (1 < count ∧ text.head? = some '0') then none
  else do
    let (decimals, places, rest) ← readFraction rest
    let (exponent, rest) ← readExponent rest
    return ((whole * 10 ^ places + decimals : ℕ) * (10 : ℚ) ^ (exponent - places), rest)

/-- A number literal that denotes a safe integer. -/
def readNumber (text : List Char) : Option (ℤ × List Char) :=
  if text.head? = some '-' then do
    let (magnitude, rest) ← readMagnitude text.tail
    let value ← safeInteger (-magnitude)
    return (value, rest)
  else do
    let (magnitude, rest) ← readMagnitude text
    let value ← safeInteger magnitude
    return (value, rest)

/-! ### Values -/

/-- A field of an object read so far: a later one of the same name takes its place. -/
def assign (fields : List (String × Json)) (field : String × Json) : List (String × Json) :=
  if field.1 ∈ fields.map Prod.fst then
    fields.map fun other => if other.1 = field.1 then field else other
  else fields ++ [field]

/-- The rest of a word whose first letter has been read. -/
def readWord (word : List Char) (value : Json) (text : List Char) : Option (Json × List Char) :=
  if word <+: text then some (value, text.drop word.length) else none

mutual

def readValue : ℕ → List Char → Option (Json × List Char)
  | 0, _ => none
  | fuel + 1, text =>
    match skipSpace text with
    | [] => none
    | c :: rest =>
      if c = 'n' then readWord "ull".toList .null rest
      else if c = 't' then readWord "rue".toList (.bool true) rest
      else if c = 'f' then readWord "alse".toList (.bool false) rest
      else if c = '\x22' then
        (readString (rest.length + 1) rest).map fun (cs, rest) => (.str (String.ofList cs), rest)
      else if c = '[' then
        if (skipSpace rest).head? = some ']' then some (.arr [], (skipSpace rest).tail)
        else (readItems fuel rest).map fun (items, rest) => (.arr items, rest)
      else if c = '\x7b' then
        if (skipSpace rest).head? = some '\x7d' then some (.obj [], (skipSpace rest).tail)
        else (readFields fuel rest).map fun (fields, rest) => (.obj (fields.foldl assign []), rest)
      else (readNumber (c :: rest)).map fun (value, rest) => (.num value, rest)

/-- The items of an array after its opening bracket, when it has any. -/
def readItems : ℕ → List Char → Option (List Json × List Char)
  | 0, _ => none
  | fuel + 1, text => do
    let (item, rest) ← readValue fuel text
    match skipSpace rest with
    | ',' :: rest =>
      let (items, rest) ← readItems fuel rest
      return (item :: items, rest)
    | ']' :: rest => return ([item], rest)
    | _ => none

/-- The fields of an object after its opening brace, when it has any. -/
def readFields : ℕ → List Char → Option (List (String × Json) × List Char)
  | 0, _ => none
  | fuel + 1, text =>
    match skipSpace text with
    | '\x22' :: rest => do
      let (key, rest) ← readString (rest.length + 1) rest
      match skipSpace rest with
      | ':' :: rest =>
        let (value, rest) ← readValue fuel rest
        match skipSpace rest with
        | ',' :: rest =>
          let (fields, rest) ← readFields fuel rest
          return ((String.ofList key, value) :: fields, rest)
        | '\x7d' :: rest => return ([(String.ofList key, value)], rest)
        | _ => none
      | _ => none
    | _ => none

end

/-- The value of a text. -/
def parseJson (text : String) : Option Json :=
  match readValue (text.toList.length + 1) text.toList with
  | some (value, rest) => if skipSpace rest = [] then some value else none
  | none => none

/-! ### Reading rendered tokens -/

/-- What follows a value inside a text. -/
def Ends (rest : List Char) : Prop := ∀ c ∈ rest.head?, c = ',' ∨ c = ']' ∨ c = '\x7d'

theorem ends_cons {c : Char} {rest : List Char} (h : c = ',' ∨ c = ']' ∨ c = '\x7d') :
    Ends (c :: rest) := by
  intro c' hc'
  cases hc'
  exact h

theorem Ends.follows {rest : List Char} (h : Ends rest) : Follows rest := by
  intro c hc
  rcases h c hc with rfl | rfl | rfl <;> rfl

theorem skipSpace_cons {c : Char} (rest : List Char) (h : isSpace c = false) :
    skipSpace (c :: rest) = c :: rest := by
  simp [skipSpace, h]

theorem Ends.skipSpace {rest : List Char} (h : Ends rest) : skipSpace rest = rest := by
  cases rest with
  | nil => rfl
  | cons c rest =>
    refine skipSpace_cons rest ?_
    rcases h c rfl with rfl | rfl | rfl <;> rfl

theorem hexDigit_digitChar : ∀ n < 16, hexDigit (Nat.digitChar n) = some n := by decide

theorem readChar_escapeChar (c : Char) (rest : List Char) :
    readChar (escapeChar c ++ rest) = some (c, rest) := by
  unfold escapeChar
  split_ifs with h1 h2 h3 h4 h5 h6 h7 h8
  · subst h1
    rfl
  · subst h2
    rfl
  · subst h3
    rfl
  · subst h4
    rfl
  · subst h5
    rfl
  · subst h6
    rfl
  · subst h7
    rfl
  · -- a control character without a letter of its own is written as a code unit
    have hhigh := hexDigit_digitChar (c.toNat / 16) (by omega)
    have hlow := hexDigit_digitChar (c.toNat % 16) (by omega)
    have hn : c.toNat / 16 * 16 + c.toNat % 16 = c.toNat := by omega
    have hzero : hexDigit '0' = some 0 := by decide
    have hunit : readUnit ('0' :: '0' :: Nat.digitChar (c.toNat / 16) ::
        Nat.digitChar (c.toNat % 16) :: rest) = some (c.toNat, rest) := by
      simp [readUnit, hhigh, hlow, hzero, hn]
    show readUnicode ('0' :: '0' :: Nat.digitChar (c.toNat / 16) ::
      Nat.digitChar (c.toNat % 16) :: rest) = some (c, rest)
    have hsmall : c.toNat < 0xd800 := by omega
    simp [readUnicode, hunit, hsmall, Char.ofNat_toNat]
  · show readChar (c :: rest) = _
    unfold readChar
    split <;> simp_all

theorem readString_escaped {l rest : List Char} {fuel : ℕ} (h : l.length < fuel) :
    readString fuel (l.flatMap escapeChar ++ '\x22' :: rest) = some (l, rest) := by
  induction l generalizing fuel with
  | nil =>
    obtain ⟨fuel, rfl⟩ : ∃ n, fuel = n + 1 := ⟨fuel - 1, by simp at h; omega⟩
    simp [readString]
  | cons c l ih =>
    obtain ⟨fuel, rfl⟩ : ∃ n, fuel = n + 1 := ⟨fuel - 1, by simp at h; omega⟩
    obtain ⟨d, tail, hd, hne⟩ := head_escapeChar c
    have hhead : ((c :: l).flatMap escapeChar ++ '\x22' :: rest).head? ≠ some '\x22' := by
      simpa [hd] using hne
    rw [readString, if_neg hhead, List.flatMap_cons, List.append_assoc, readChar_escapeChar]
    have hlt : l.length < fuel := by simpa using h
    simp [ih hlt]

theorem readDigits_toDigits (n : ℕ) {rest : List Char} (h : Follows rest) :
    readDigits (Nat.toDigits 10 n ++ rest) = (n, (Nat.toDigits 10 n).length, rest) := by
  have hdigits : ∀ c ∈ Nat.toDigits 10 n, c.isDigit = true := fun c hc =>
    Nat.isDigit_of_mem_toDigits (by omega) le_rfl hc
  have hstop : rest.takeWhile Char.isDigit = [] ∧ rest.dropWhile Char.isDigit = rest := by
    cases rest with
    | nil => exact ⟨rfl, rfl⟩
    | cons c rest => simp [h c rfl]
  rw [readDigits, List.takeWhile_append_of_pos hdigits, List.dropWhile_append_of_pos hdigits,
    hstop.1, hstop.2, List.append_nil, Nat.ofDigitChars_ten_toDigits]

/-- A literal of several digits does not start with a zero. -/
theorem head_toDigits_ne_zero {n : ℕ} (h : 0 < n) : (Nat.toDigits 10 n).head? ≠ some '0' := by
  induction n using Nat.strong_induction_on with
  | _ n ih =>
    rcases lt_or_ge n 10 with hlt | hge
    · rw [Nat.toDigits_of_lt_base hlt]
      have hall : ∀ d < 10, 0 < d → Nat.digitChar d ≠ '0' := by decide
      simpa using hall n hlt h
    · rw [Nat.toDigits_of_base_le (by omega) hge,
        List.head?_append_of_ne_nil _ Nat.toDigits_ne_nil]
      exact ih (n / 10) (by omega) (by omega)

theorem readMagnitude_toDigits (n : ℕ) {rest : List Char} (h : Ends rest) :
    readMagnitude (Nat.toDigits 10 n ++ rest) = some ((n : ℚ), rest) := by
  have hcount : (Nat.toDigits 10 n).length ≠ 0 := by
    simp
  have hzero : ¬(1 < (Nat.toDigits 10 n).length ∧
      (Nat.toDigits 10 n ++ rest).head? = some '0') := by
    rintro ⟨hlong, hhead⟩
    rw [List.head?_append_of_ne_nil _ Nat.toDigits_ne_nil] at hhead
    rcases Nat.eq_zero_or_pos n with rfl | hpos
    · rw [Nat.toDigits_zero] at hlong
      simp at hlong
    · exact head_toDigits_ne_zero hpos hhead
  have hfraction : readFraction rest = some (0, 0, rest) := by
    cases rest with
    | nil => rfl
    | cons c rest => rcases h c rfl with rfl | rfl | rfl <;> rfl
  have hexponent : readExponent rest = some (0, rest) := by
    cases rest with
    | nil => rfl
    | cons c rest => rcases h c rfl with rfl | rfl | rfl <;> rfl
  rw [readMagnitude, readDigits_toDigits n h.follows]
  simp only [hcount, hzero, or_self, if_false, hfraction]
  simp [hexponent]

theorem readNumber_number {n : ℤ} {rest : List Char} (hn : Safe n) (h : Ends rest) :
    readNumber (number n ++ rest) = some (n, rest) := by
  cases n with
  | ofNat m =>
    obtain ⟨c, tail, hc, hdigit⟩ := head_toDigits m
    have hsign : (number (.ofNat m) ++ rest).head? ≠ some '-' := by
      rw [number, hc]
      rintro hminus
      cases hminus
      cases hdigit
    have hsafe := safeInteger_intCast hn
    rw [readNumber, if_neg hsign, number, readMagnitude_toDigits m h]
    simp only [Int.ofNat_eq_natCast, Int.cast_natCast] at hsafe
    simp [hsafe]
  | negSucc m =>
    have hsafe : safeInteger (-((m + 1 : ℕ) : ℚ)) = some (Int.negSucc m) := by
      rw [← Int.cast_negSucc]
      exact safeInteger_intCast hn
    rw [readNumber, number, List.cons_append, List.head?_cons, if_pos rfl, List.tail_cons,
      readMagnitude_toDigits (m + 1) h]
    simp only [Option.bind_eq_bind, Option.bind_some, hsafe]
    rfl

/-! ### Reading rendered values -/

/-- The values a text shows in full: safe numbers, and no name twice in an object. -/
inductive Plain : Json → Prop
  | null : Plain .null
  | bool (value : Bool) : Plain (.bool value)
  | num {value : ℤ} : Safe value → Plain (.num value)
  | str (value : String) : Plain (.str value)
  | arr {items : List Json} : (∀ item ∈ items, Plain item) → Plain (.arr items)
  | obj {fields : List (String × Json)} : (fields.map Prod.fst).Nodup →
      (∀ field ∈ fields, Plain field.2) → Plain (.obj fields)

theorem foldl_assign {fields read : List (String × Json)}
    (h : ((read ++ fields).map Prod.fst).Nodup) : fields.foldl assign read = read ++ fields := by
  induction fields generalizing read with
  | nil => simp
  | cons field fields ih =>
    have hnew : field.1 ∉ read.map Prod.fst := by
      rw [List.map_append, List.nodup_append] at h
      intro hmem
      exact h.2.2 _ hmem _ (by simp) rfl
    have hassign : assign read field = read ++ [field] := if_neg hnew
    rw [List.foldl_cons, hassign, ih (by simpa using h)]
    simp

/-- Enough fuel for a text. -/
def Reads (v : Json) : Prop :=
  ∀ (fuel : ℕ) (rest : List Char), (render v).length < fuel → Ends rest →
    readValue fuel (render v ++ rest) = some (v, rest)

theorem isSpace_of_kind {c : Char} (h : kindOf c ≠ 7) : isSpace c = false := by
  by_contra hspace
  rw [Bool.not_eq_false] at hspace
  simp only [isSpace, Bool.or_eq_true, beq_iff_eq] at hspace
  rcases hspace with ((rfl | rfl) | rfl) | rfl <;> exact h rfl

theorem skipSpace_render (v : Json) (rest : List Char) :
    skipSpace (render v ++ rest) = render v ++ rest := by
  obtain ⟨c, tail, hc, hkind⟩ := head_render v
  rw [hc, List.cons_append]
  refine skipSpace_cons _ (isSpace_of_kind ?_)
  rw [hkind]
  cases v with
  | bool b => cases b <;> simp [Json.kind]
  | _ => simp [Json.kind]

theorem reads_word {v : Json} (c : Char) (word : List Char) (hrender : render v = c :: word)
    (hread : ∀ rest, (if c = 'n' then readWord "ull".toList .null (word ++ rest)
      else if c = 't' then readWord "rue".toList (.bool true) (word ++ rest)
      else readWord "alse".toList (.bool false) (word ++ rest)) = some (v, rest))
    (hc : c = 'n' ∨ c = 't' ∨ c = 'f') : Reads v := by
  intro fuel rest hfuel _
  obtain ⟨fuel, rfl⟩ : ∃ n, fuel = n + 1 := ⟨fuel - 1, by omega⟩
  rw [readValue, skipSpace_render, hrender, List.cons_append, ← hread rest]
  rcases hc with rfl | rfl | rfl <;> rfl

theorem readWord_append (word : List Char) (v : Json) (rest : List Char) :
    readWord word v (word ++ rest) = some (v, rest) := by
  simp [readWord]

theorem length_lt_escaped (l rest : List Char) :
    l.length < (l.flatMap escapeChar ++ '\x22' :: rest).length + 1 := by
  have hlen : l.length ≤ (l.flatMap escapeChar).length := by
    rw [List.length_flatMap]
    refine (List.length_le_sum_of_one_le _ fun n hn => ?_).trans' (by simp)
    obtain ⟨c, -, rfl⟩ := List.mem_map.1 hn
    obtain ⟨d, tail, hd, -⟩ := head_escapeChar c
    simp [hd]
  rw [List.length_append]
  omega

theorem reads_str (s : String) : Reads (.str s) := by
  intro fuel rest hfuel _
  obtain ⟨fuel, rfl⟩ : ∃ n, fuel = n + 1 := ⟨fuel - 1, by omega⟩
  have hbody : readString ((s.toList.flatMap escapeChar ++ '\x22' :: rest).length + 1)
      (s.toList.flatMap escapeChar ++ '\x22' :: rest) = some (s.toList, rest) := by
    exact readString_escaped (length_lt_escaped ..)
  have htext : render (.str s) ++ rest =
      '\x22' :: (s.toList.flatMap escapeChar ++ '\x22' :: rest) := by
    simp [render, quote]
  rw [readValue, skipSpace_render, htext]
  show Option.map _ (readString _ _) = _
  rw [hbody]
  simp

theorem reads_num {n : ℤ} (hn : Safe n) : Reads (.num n) := by
  intro fuel rest hfuel hends
  obtain ⟨fuel, rfl⟩ : ∃ n, fuel = n + 1 := ⟨fuel - 1, by omega⟩
  obtain ⟨c, tail, hc, hkind⟩ := head_render (.num n)
  have hread := readNumber_number hn hends
  rw [readValue, skipSpace_render, hc, List.cons_append]
  rw [show number n = c :: tail from by rw [← hc, render], List.cons_append] at hread
  have hne : c ≠ 'n' ∧ c ≠ 't' ∧ c ≠ 'f' ∧ c ≠ '\x22' ∧ c ≠ '[' ∧ c ≠ '\x7b' := by
    refine ⟨?_, ?_, ?_, ?_, ?_, ?_⟩ <;>
      (rintro rfl; cases hkind)
  simp [hne, hread]

theorem readItems_render {items : List Json} {fuel : ℕ} {rest : List Char} (hne : items ≠ [])
    (hitems : ∀ item ∈ items, Reads item)
    (hfuel : (commaSeparated (items.map render)).length + 1 < fuel) :
    readItems fuel (commaSeparated (items.map render) ++ ']' :: rest) = some (items, rest) := by
  induction items generalizing fuel with
  | nil => exact absurd rfl hne
  | cons item items ih =>
    obtain ⟨fuel, rfl⟩ : ∃ n, fuel = n + 1 := ⟨fuel - 1, by omega⟩
    have hitem := hitems item (List.mem_cons_self ..)
    cases items with
    | nil =>
      simp only [List.map_cons, List.map_nil, commaSeparated, List.flatMap_nil,
        List.append_nil] at hfuel ⊢
      rw [readItems, hitem fuel (']' :: rest) (by omega) (ends_cons (by simp))]
      rfl
    | cons next items =>
      have htext : commaSeparated ((item :: next :: items).map render) =
          render item ++ ',' :: commaSeparated ((next :: items).map render) := rfl
      rw [htext] at hfuel ⊢
      rw [List.length_append, List.length_cons] at hfuel
      have hrest := @ih fuel (by simp)
        (fun other hother => hitems other (List.mem_cons_of_mem _ hother)) (by omega)
      rw [readItems, List.append_assoc, List.cons_append,
        hitem fuel _ (by omega) (ends_cons (by simp))]
      show (do
        let (items, rest) ← readItems fuel _
        return (item :: items, rest)) = _
      rw [hrest]
      rfl

/-- The first field of an object, and what the reader does after it. -/
theorem readFields_field {key : String} {value : Json} {fuel : ℕ} {tail : List Char}
    (hvalue : Reads value) (hfuel : (render value).length < fuel) : Ends tail →
    readFields (fuel + 1) (renderField (key, render value) ++ tail) =
      match tail with
      | ',' :: rest => do
        let (fields, rest) ← readFields fuel rest
        return ((key, value) :: fields, rest)
      | '\x7d' :: rest => return ([(key, value)], rest)
      | _ => none := by
  intro hends
  have htext : renderField (key, render value) ++ tail = '\x22' ::
      (key.toList.flatMap escapeChar ++ '\x22' :: ':' :: (render value ++ tail)) := by
    simp [renderField, quote]
  have hkey := @readString_escaped _ (':' :: (render value ++ tail)) _
    (length_lt_escaped key.toList (':' :: (render value ++ tail)))
  rw [htext, readFields, skipSpace_cons _ (by decide)]
  simp only [hkey, Option.bind_eq_bind, Option.bind_some, skipSpace_cons (c := ':') _ (by decide)]
  rw [hvalue fuel _ hfuel hends]
  simp only [Option.bind_some, hends.skipSpace, String.ofList_toList]

theorem readFields_render {fields : List (String × Json)} {fuel : ℕ} {rest : List Char}
    (hne : fields ≠ []) (hfields : ∀ field ∈ fields, Reads field.2)
    (hfuel : (commaSeparated ((renderFields fields).map renderField)).length + 1 < fuel) :
    readFields fuel (commaSeparated ((renderFields fields).map renderField) ++ '\x7d' :: rest) =
      some (fields, rest) := by
  induction fields generalizing fuel with
  | nil => exact absurd rfl hne
  | cons field fields ih =>
    obtain ⟨key, value⟩ := field
    obtain ⟨fuel, rfl⟩ : ∃ n, fuel = n + 1 := ⟨fuel - 1, by omega⟩
    have hvalue : Reads value := hfields (key, value) (List.mem_cons_self ..)
    have hlen : (render value).length ≤ (renderField (key, render value)).length := by
      simp [renderField]
      omega
    cases fields with
    | nil =>
      have htext : commaSeparated ((renderFields [(key, value)]).map renderField) =
          renderField (key, render value) := by
        simp [renderFields, commaSeparated]
      rw [htext] at hfuel ⊢
      rw [readFields_field hvalue (by omega) (ends_cons (by simp))]
      rfl
    | cons next fields =>
      have htext :
          commaSeparated ((renderFields ((key, value) :: next :: fields)).map renderField) =
            renderField (key, render value) ++
              ',' :: commaSeparated ((renderFields (next :: fields)).map renderField) := by
        simp [renderFields, commaSeparated]
      rw [htext] at hfuel ⊢
      rw [List.length_append, List.length_cons] at hfuel
      have hrest := @ih fuel (by simp)
        (fun other hother => hfields other (List.mem_cons_of_mem _ hother)) (by omega)
      rw [List.append_assoc, List.cons_append,
        readFields_field hvalue (by omega) (ends_cons (by simp))]
      simp only [hrest]
      rfl

theorem reads_arr {items : List Json} (h : ∀ item ∈ items, Reads item) : Reads (.arr items) := by
  intro fuel rest hfuel _
  obtain ⟨fuel, rfl⟩ : ∃ n, fuel = n + 1 := ⟨fuel - 1, by omega⟩
  have htext : render (.arr items) ++ rest =
      '[' :: (commaSeparated (items.map render) ++ ']' :: rest) := by
    simp [render, renderItems_eq]
  have hlen : (render (.arr items)).length = (commaSeparated (items.map render)).length + 2 := by
    simp [render, renderItems_eq]
  rw [readValue, skipSpace_render, htext]
  cases items with
  | nil => rfl
  | cons item items =>
    have hopen : (skipSpace (commaSeparated ((item :: items).map render) ++ ']' :: rest)).head? ≠
        some ']' := by
      obtain ⟨c, tail, hc, hne⟩ := head_render_ne item
      rw [List.map_cons, commaSeparated, List.append_assoc, skipSpace_render, hc]
      simpa using hne
    have hread := @readItems_render _ fuel rest (by simp) h (by omega)
    show (if _ then _ else Option.map _ _) = _
    rw [if_neg hopen, hread]
    rfl

theorem reads_obj {fields : List (String × Json)} (hkeys : (fields.map Prod.fst).Nodup)
    (h : ∀ field ∈ fields, Reads field.2) : Reads (.obj fields) := by
  intro fuel rest hfuel _
  obtain ⟨fuel, rfl⟩ : ∃ n, fuel = n + 1 := ⟨fuel - 1, by omega⟩
  have htext : render (.obj fields) ++ rest =
      '\x7b' :: (commaSeparated ((renderFields fields).map renderField) ++ '\x7d' :: rest) := by
    simp [render]
  have hlen : (render (.obj fields)).length =
      (commaSeparated ((renderFields fields).map renderField)).length + 2 := by
    simp [render]
  rw [readValue, skipSpace_render, htext]
  cases fields with
  | nil => rfl
  | cons field fields =>
    have hopen : (skipSpace (commaSeparated ((renderFields (field :: fields)).map renderField) ++
        '\x7d' :: rest)).head? ≠ some '\x7d' := by
      obtain ⟨key, value⟩ := field
      rw [renderFields, List.map_cons, commaSeparated, renderField, quote]
      simp [skipSpace, isSpace]
    have hread := @readFields_render _ fuel rest (by simp) h (by omega)
    have hassign : (field :: fields).foldl assign [] = field :: fields := foldl_assign hkeys
    generalize commaSeparated ((renderFields (field :: fields)).map renderField) = body at hopen hread ⊢
    simp only [Char.reduceEq, if_false, if_true, hopen, hread, Option.map_some, hassign]

theorem Plain.reads {v : Json} (h : Plain v) : Reads v := by
  induction h with
  | null =>
    exact reads_word 'n' ['u', 'l', 'l'] (by rw [render]; rfl)
      (readWord_append ['u', 'l', 'l'] .null) (by simp)
  | bool b =>
    cases b with
    | false =>
      exact reads_word 'f' ['a', 'l', 's', 'e'] (by rw [render]; rfl)
        (readWord_append ['a', 'l', 's', 'e'] (.bool false)) (by simp)
    | true =>
      exact reads_word 't' ['r', 'u', 'e'] (by rw [render]; rfl)
        (readWord_append ['r', 'u', 'e'] (.bool true)) (by simp)
  | num hn => exact reads_num hn
  | str s => exact reads_str s
  | arr _ ih => exact reads_arr ih
  | obj hkeys _ ih => exact reads_obj hkeys ih

/-- What is written in full is read back. -/
theorem parseJson_render {v : Json} (h : Plain v) :
    parseJson (String.ofList (render v)) = some v := by
  have hend : Ends [] := by
    intro c hc
    cases hc
  have hread := h.reads ((render v).length + 1) [] (by omega) hend
  rw [List.append_nil] at hread
  simp [parseJson, hread, skipSpace]

end JsonText
