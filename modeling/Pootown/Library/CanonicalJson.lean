import Mathlib.Tactic

/-!
# Canonical JSON

A JSON value has one canonical text: its objects list their fields in key order, and nothing stands
between tokens.

* `Json`, with integers for numbers, and `render`, the text of a value as it stands;
* `normalise`: every object with its fields in key order; `canonicalJson`: the text of that;
* `Delimited f a`: the text `f a` determines `a` and shows where it ends;
* `render_injective`, and `canonicalJson_eq_iff`: two values share their canonical text exactly
  when they share their normal form;
* `length_render_obj_le`, `length_render_arr_le`: the size of a text, by those of its parts.
-/

namespace CanonicalJson

inductive Json
  | null
  | bool (value : Bool)
  | num (value : ℤ)
  | str (value : String)
  | arr (items : List Json)
  | obj (fields : List (String × Json))

/-! ### Rendering -/

/-- A character inside a string literal. -/
def escapeChar (c : Char) : List Char :=
  if c = '\x22' then ['\x5c', '\x22']
  else if c = '\x5c' then ['\x5c', '\x5c']
  else if c = '\x08' then ['\x5c', 'b']
  else if c = '\x09' then ['\x5c', 't']
  else if c = '\x0a' then ['\x5c', 'n']
  else if c = '\x0c' then ['\x5c', 'f']
  else if c = '\x0d' then ['\x5c', 'r']
  else if c.toNat < 32 then
    ['\x5c', 'u', '0', '0', Nat.digitChar (c.toNat / 16), Nat.digitChar (c.toNat % 16)]
  else [c]

/-- A string literal. -/
def quote (s : String) : List Char := '\x22' :: (s.toList.flatMap escapeChar ++ ['\x22'])

/-- A number literal. -/
def number : ℤ → List Char
  | .ofNat n => Nat.toDigits 10 n
  | .negSucc n => '-' :: Nat.toDigits 10 (n + 1)

/-- Texts separated by commas. -/
def commaSeparated : List (List Char) → List Char
  | [] => []
  | first :: rest => first ++ rest.flatMap fun text => ',' :: text

/-- A field of an object, its value already rendered. -/
def renderField (field : String × List Char) : List Char := quote field.1 ++ ':' :: field.2

mutual

/-- The text of a value, fields in the order they are listed. -/
def render : Json → List Char
  | .null => "null".toList
  | .bool true => "true".toList
  | .bool false => "false".toList
  | .num value => number value
  | .str value => quote value
  | .arr items => '[' :: (commaSeparated (renderItems items) ++ [']'])
  | .obj fields => '\x7b' :: (commaSeparated ((renderFields fields).map renderField) ++ ['\x7d'])

def renderItems : List Json → List (List Char)
  | [] => []
  | item :: rest => render item :: renderItems rest

def renderFields : List (String × Json) → List (String × List Char)
  | [] => []
  | (key, value) :: rest => (key, render value) :: renderFields rest

end

theorem renderItems_eq (items : List Json) : renderItems items = items.map render := by
  induction items with
  | nil => rfl
  | cons item rest ih => rw [renderItems, ih, List.map_cons]

theorem renderFields_eq (fields : List (String × Json)) :
    renderFields fields = fields.map fun field => (field.1, render field.2) := by
  induction fields with
  | nil => rfl
  | cons field rest ih =>
    obtain ⟨key, value⟩ := field
    rw [renderFields, ih, List.map_cons]

/-! ### Normal form -/

mutual

/-- Every object with its fields in key order. -/
def normalise : Json → Json
  | .arr items => .arr (normaliseItems items)
  | .obj fields => .obj ((normaliseFields fields).insertionSort fun a b => a.1 ≤ b.1)
  | value => value

def normaliseItems : List Json → List Json
  | [] => []
  | item :: rest => normalise item :: normaliseItems rest

def normaliseFields : List (String × Json) → List (String × Json)
  | [] => []
  | (key, value) :: rest => (key, normalise value) :: normaliseFields rest

end

/-- The canonical text of a value. -/
def canonicalJson (value : Json) : String := String.ofList (render (normalise value))

/-! ### Texts that show where they end -/

/-- What may follow a value: nothing that continues a number. -/
def Follows (rest : List Char) : Prop := ∀ c ∈ rest.head?, c.isDigit = false

/-- The text `f a` determines `a` and shows where it ends. -/
def Delimited {α : Type} (f : α → List Char) (a : α) : Prop :=
  ∀ a' r r', Follows r → Follows r' → f a ++ r = f a' ++ r' → a = a' ∧ r = r'

theorem follows_cons {c : Char} {rest : List Char} (h : c.isDigit = false) :
    Follows (c :: rest) := by
  intro c' hc'
  cases hc'
  exact h

/-! ### Characters and strings -/

/-- The value of a hexadecimal digit. -/
def hexValue (c : Char) : ℕ := if c.isDigit then c.toNat - 48 else c.toNat - 87

/-- Read one character of a string literal back. -/
def unescape : List Char → Option (Char × List Char)
  | '\x5c' :: 'u' :: _ :: _ :: high :: low :: rest =>
    some (Char.ofNat (hexValue high * 16 + hexValue low), rest)
  | '\x5c' :: 'b' :: rest => some ('\x08', rest)
  | '\x5c' :: 't' :: rest => some ('\x09', rest)
  | '\x5c' :: 'n' :: rest => some ('\x0a', rest)
  | '\x5c' :: 'f' :: rest => some ('\x0c', rest)
  | '\x5c' :: 'r' :: rest => some ('\x0d', rest)
  | '\x5c' :: c :: rest => some (c, rest)
  | c :: rest => some (c, rest)
  | [] => none

theorem hexValue_digitChar : ∀ n < 16, hexValue (Nat.digitChar n) = n := by decide

theorem unescape_escapeChar (c : Char) (rest : List Char) :
    unescape (escapeChar c ++ rest) = some (c, rest) := by
  unfold escapeChar
  split_ifs with h1 h2 h3 h4 h5 h6 h7 h8
  · subst h1
    rfl
  · subst h2
    rfl
  · subst h3
    rfl
  · subst h4
    rfl
  · subst h5
    rfl
  · subst h6
    rfl
  · subst h7
    rfl
  · have hhigh := hexValue_digitChar (c.toNat / 16) (by omega)
    have hlow := hexValue_digitChar (c.toNat % 16) (by omega)
    have hn : c.toNat / 16 * 16 + c.toNat % 16 = c.toNat := by omega
    show some (Char.ofNat (hexValue (Nat.digitChar (c.toNat / 16)) * 16 +
      hexValue (Nat.digitChar (c.toNat % 16))), rest) = _
    rw [hhigh, hlow, hn, Char.ofNat_toNat]
  · show unescape (c :: rest) = _
    unfold unescape
    split <;> simp_all

/-- No character starts the way a string literal ends. -/
theorem head_escapeChar (c : Char) : ∃ d rest, escapeChar c = d :: rest ∧ d ≠ '\x22' := by
  unfold escapeChar
  split_ifs with h1 <;> first | exact ⟨_, _, rfl, by decide⟩ | exact ⟨c, [], rfl, h1⟩

theorem escaped_inj {l l' r r' : List Char}
    (h : l.flatMap escapeChar ++ '\x22' :: r = l'.flatMap escapeChar ++ '\x22' :: r') :
    l = l' ∧ r = r' := by
  induction l generalizing l' with
  | nil =>
    cases l' with
    | nil => simpa using h
    | cons c' l' =>
      obtain ⟨d, rest, hd, hne⟩ := head_escapeChar c'
      simp only [List.flatMap_nil, List.nil_append, List.flatMap_cons, hd, List.cons_append,
        List.cons.injEq] at h
      exact absurd h.1.symm hne
  | cons c l ih =>
    cases l' with
    | nil =>
      obtain ⟨d, rest, hd, hne⟩ := head_escapeChar c
      simp only [List.flatMap_nil, List.nil_append, List.flatMap_cons, hd, List.cons_append,
        List.cons.injEq] at h
      exact absurd h.1 hne
    | cons c' l' =>
      rw [List.flatMap_cons, List.flatMap_cons, List.append_assoc, List.append_assoc] at h
      have hread := congrArg unescape h
      rw [unescape_escapeChar, unescape_escapeChar, Option.some.injEq, Prod.mk.injEq] at hread
      obtain ⟨rfl, hrest⟩ := hread
      obtain ⟨rfl, hr⟩ := ih hrest
      exact ⟨rfl, hr⟩

theorem quote_inj {s s' : String} {r r' : List Char} (h : quote s ++ r = quote s' ++ r') :
    s = s' ∧ r = r' := by
  simp only [quote, List.cons_append, List.append_assoc, List.cons.injEq, true_and,
    List.nil_append] at h
  obtain ⟨hl, hr⟩ := escaped_inj h
  exact ⟨String.toList_injective hl, hr⟩

/-! ### Numbers -/

theorem toDigits_inj {n n' : ℕ} {r r' : List Char} (hr : Follows r) (hr' : Follows r')
    (h : Nat.toDigits 10 n ++ r = Nat.toDigits 10 n' ++ r') : n = n' ∧ r = r' := by
  have hdigits : ∀ (m : ℕ) (t : List Char), Follows t →
      (Nat.toDigits 10 m ++ t).takeWhile Char.isDigit = Nat.toDigits 10 m := by
    intro m t ht
    rw [List.takeWhile_append_of_pos fun c hc => Nat.isDigit_of_mem_toDigits (by omega) le_rfl hc]
    cases t with
    | nil => simp
    | cons c t =>
      rw [List.takeWhile_cons_of_neg (by simp [ht c rfl]), List.append_nil]
  have heq := congrArg (List.takeWhile Char.isDigit) h
  rw [hdigits n r hr, hdigits n' r' hr'] at heq
  have hn := congrArg (fun digits => Nat.ofDigitChars 10 digits 0) heq
  simp only [Nat.ofDigitChars_ten_toDigits] at hn
  rw [heq] at h
  exact ⟨hn, List.append_cancel_left h⟩

theorem head_toDigits (n : ℕ) : ∃ c rest, Nat.toDigits 10 n = c :: rest ∧ c.isDigit = true := by
  cases hdigits : Nat.toDigits 10 n with
  | nil => exact absurd hdigits Nat.toDigits_ne_nil
  | cons c rest =>
    refine ⟨c, rest, rfl, Nat.isDigit_of_mem_toDigits (b := 10) (n := n) (by omega) le_rfl ?_⟩
    rw [hdigits]
    exact List.mem_cons_self ..

theorem number_inj {n n' : ℤ} {r r' : List Char} (hr : Follows r) (hr' : Follows r')
    (h : number n ++ r = number n' ++ r') : n = n' ∧ r = r' := by
  cases n with
  | ofNat m =>
    cases n' with
    | ofNat m' =>
      obtain ⟨hm, hrest⟩ := toDigits_inj hr hr' h
      exact ⟨congrArg Int.ofNat hm, hrest⟩
    | negSucc m' =>
      obtain ⟨c, rest, hc, hdigit⟩ := head_toDigits m
      simp only [number, hc, List.cons_append, List.cons.injEq] at h
      rw [h.1] at hdigit
      cases hdigit
  | negSucc m =>
    cases n' with
    | ofNat m' =>
      obtain ⟨c, rest, hc, hdigit⟩ := head_toDigits m'
      simp only [number, hc, List.cons_append, List.cons.injEq] at h
      rw [← h.1] at hdigit
      cases hdigit
    | negSucc m' =>
      simp only [number, List.cons_append, List.cons.injEq, true_and] at h
      obtain ⟨hm, hrest⟩ := toDigits_inj hr hr' h
      exact ⟨congrArg Int.negSucc (Nat.succ.inj hm), hrest⟩

/-! ### Sequences -/

section Sequences

variable {α : Type} {f : α → List Char} {close : Char}

theorem follows_rest (hclose : close.isDigit = false) (l : List α) (r : List Char) :
    Follows ((l.map f).flatMap (fun text => ',' :: text) ++ close :: r) := by
  cases l with
  | nil => exact follows_cons hclose
  | cons a l => exact follows_cons (by decide)

theorem rest_inj (hcomma : close ≠ ',') (hclose : close.isDigit = false) {l l' : List α}
    {r r' : List Char} (hl : ∀ a ∈ l, Delimited f a)
    (h : (l.map f).flatMap (fun text => ',' :: text) ++ close :: r =
      (l'.map f).flatMap (fun text => ',' :: text) ++ close :: r') : l = l' ∧ r = r' := by
  induction l generalizing l' with
  | nil =>
    cases l' with
    | nil => simpa using h
    | cons a' l' =>
      simp only [List.map_nil, List.flatMap_nil, List.nil_append, List.map_cons, List.flatMap_cons,
        List.cons_append, List.cons.injEq] at h
      exact absurd h.1 hcomma
  | cons a l ih =>
    cases l' with
    | nil =>
      simp only [List.map_nil, List.flatMap_nil, List.nil_append, List.map_cons, List.flatMap_cons,
        List.cons_append, List.cons.injEq] at h
      exact absurd h.1.symm hcomma
    | cons a' l' =>
      simp only [List.map_cons, List.flatMap_cons, List.cons_append, List.cons.injEq, true_and,
        List.append_assoc] at h
      obtain ⟨rfl, hrest⟩ := hl a (List.mem_cons_self ..) a' _ _ (follows_rest hclose l r)
        (follows_rest hclose l' r') h
      obtain ⟨rfl, hr⟩ := ih (fun b hb => hl b (List.mem_cons_of_mem _ hb)) hrest
      exact ⟨rfl, hr⟩

/-- A sequence closed by a character that starts none of its items shows its items and its end. -/
theorem commaSeparated_inj (hcomma : close ≠ ',') (hclose : close.isDigit = false)
    (hstart : ∀ a, ∃ c rest, f a = c :: rest ∧ c ≠ close) {l l' : List α} {r r' : List Char}
    (hl : ∀ a ∈ l, Delimited f a)
    (h : commaSeparated (l.map f) ++ close :: r = commaSeparated (l'.map f) ++ close :: r') :
    l = l' ∧ r = r' := by
  cases l with
  | nil =>
    cases l' with
    | nil => simpa [commaSeparated] using h
    | cons a' l' =>
      obtain ⟨c, rest, hc, hne⟩ := hstart a'
      simp only [commaSeparated, List.map_nil, List.nil_append, List.map_cons, hc,
        List.cons_append, List.cons.injEq] at h
      exact absurd h.1.symm hne
  | cons a l =>
    cases l' with
    | nil =>
      obtain ⟨c, rest, hc, hne⟩ := hstart a
      simp only [commaSeparated, List.map_nil, List.nil_append, List.map_cons, hc,
        List.cons_append, List.cons.injEq] at h
      exact absurd h.1 hne
    | cons a' l' =>
      simp only [commaSeparated, List.map_cons, List.append_assoc] at h
      obtain ⟨rfl, hrest⟩ := hl a (List.mem_cons_self ..) a' _ _ (follows_rest hclose l r)
        (follows_rest hclose l' r') h
      obtain ⟨rfl, hr⟩ := rest_inj hcomma hclose
        (fun b hb => hl b (List.mem_cons_of_mem _ hb)) hrest
      exact ⟨rfl, hr⟩

end Sequences

/-! ### Values -/

/-- What the first character of a text says about its value. -/
def kindOf (c : Char) : ℕ :=
  if c = 'n' then 0 else if c = 't' then 1 else if c = 'f' then 2 else if c = '\x22' then 3
  else if c = '[' then 4 else if c = '\x7b' then 5 else if c = '-' ∨ c.isDigit then 6 else 7

def Json.kind : Json → ℕ
  | .null => 0
  | .bool true => 1
  | .bool false => 2
  | .str _ => 3
  | .arr _ => 4
  | .obj _ => 5
  | .num _ => 6

theorem kindOf_digit {c : Char} (h : c.isDigit = true) : kindOf c = 6 := by
  unfold kindOf
  split_ifs with h1 h2 h3 h4 h5 h6 h7
  · subst h1; cases h
  · subst h2; cases h
  · subst h3; cases h
  · subst h4; cases h
  · subst h5; cases h
  · subst h6; cases h
  · rfl
  · exact absurd (.inr h) h7

theorem head_render (v : Json) : ∃ c rest, render v = c :: rest ∧ kindOf c = v.kind := by
  cases v with
  | null => exact ⟨_, _, rfl, rfl⟩
  | bool b => cases b <;> exact ⟨_, _, rfl, rfl⟩
  | num n =>
    cases n with
    | ofNat m =>
      obtain ⟨c, rest, hc, hdigit⟩ := head_toDigits m
      exact ⟨c, rest, by rw [render, number, hc], kindOf_digit hdigit⟩
    | negSucc m => exact ⟨_, _, rfl, rfl⟩
  | str s => exact ⟨_, _, rfl, rfl⟩
  | arr items => exact ⟨_, _, by rw [render], rfl⟩
  | obj fields => exact ⟨_, _, by rw [render], rfl⟩

/-- No value starts the way an array ends. -/
theorem head_render_ne (v : Json) : ∃ c rest, render v = c :: rest ∧ c ≠ ']' := by
  obtain ⟨c, rest, hc, hkind⟩ := head_render v
  refine ⟨c, rest, hc, fun hclose => ?_⟩
  rw [hclose] at hkind
  cases v with
  | bool b => cases b <;> cases hkind
  | _ => cases hkind

theorem kind_eq {v v' : Json} {r r' : List Char} (h : render v ++ r = render v' ++ r') :
    v.kind = v'.kind := by
  obtain ⟨c, rest, hc, hkind⟩ := head_render v
  obtain ⟨c', rest', hc', hkind'⟩ := head_render v'
  rw [hc, hc', List.cons_append, List.cons_append, List.cons.injEq] at h
  rw [← hkind, ← hkind', h.1]

/-- What holds of every array and object whose parts it holds of holds of every value. -/
theorem Json.induction {P : Json → Prop} (null : P .null) (bool : ∀ b, P (.bool b))
    (num : ∀ n, P (.num n)) (str : ∀ s, P (.str s))
    (arr : ∀ items, (∀ item ∈ items, P item) → P (.arr items))
    (obj : ∀ fields, (∀ field ∈ fields, P field.2) → P (.obj fields)) (v : Json) : P v := by
  refine @Json.rec P (fun items => ∀ item ∈ items, P item)
    (fun fields => ∀ field ∈ fields, P field.2) (fun field => P field.2)
    null bool num str arr obj ?_ ?_ ?_ ?_ ?_ v
  · simp
  · intro item rest hitem hrest
    exact List.forall_mem_cons.2 ⟨hitem, hrest⟩
  · simp
  · intro field rest hfield hrest
    exact List.forall_mem_cons.2 ⟨hfield, hrest⟩
  · intro key value hvalue
    exact hvalue

theorem delimited_field {field : String × Json} (h : Delimited render field.2) :
    Delimited (fun field : String × Json => renderField (field.1, render field.2)) field := by
  intro field' r r' hr hr' heq
  simp only [renderField, List.append_assoc, List.cons_append] at heq
  obtain ⟨hkey, hrest⟩ := quote_inj heq
  rw [List.cons.injEq] at hrest
  obtain ⟨hvalue, hfinal⟩ := h field'.2 r r' hr hr' hrest.2
  exact ⟨Prod.ext hkey hvalue, hfinal⟩

theorem delimited_render (v : Json) : Delimited render v := by
  induction v using Json.induction with
  | null =>
    intro v' r r' _ _ h
    cases v' with
    | null => exact ⟨rfl, List.append_cancel_left h⟩
    | bool b' => cases b' <;> cases kind_eq h
    | _ => cases kind_eq h
  | bool b =>
    intro v' r r' _ _ h
    cases v' with
    | bool b' =>
      have hb : b = b' := by
        have hkind := kind_eq h
        cases b <;> cases b' <;> first | rfl | cases hkind
      subst hb
      exact ⟨rfl, List.append_cancel_left h⟩
    | _ => cases b <;> cases kind_eq h
  | num n =>
    intro v' r r' hr hr' h
    cases v' with
    | num n' =>
      simp only [render] at h
      obtain ⟨rfl, hrest⟩ := number_inj hr hr' h
      exact ⟨rfl, hrest⟩
    | bool b' => cases b' <;> cases kind_eq h
    | _ => cases kind_eq h
  | str s =>
    intro v' r r' _ _ h
    cases v' with
    | str s' =>
      simp only [render] at h
      obtain ⟨rfl, hrest⟩ := quote_inj h
      exact ⟨rfl, hrest⟩
    | bool b' => cases b' <;> cases kind_eq h
    | _ => cases kind_eq h
  | arr items ih =>
    intro v' r r' _ _ h
    cases v' with
    | arr items' =>
      simp only [render, renderItems_eq, List.cons_append, List.cons.injEq, true_and,
        List.append_assoc, List.nil_append] at h
      obtain ⟨rfl, hrest⟩ := commaSeparated_inj (by decide) (by decide) head_render_ne ih h
      exact ⟨rfl, hrest⟩
    | bool b' => cases b' <;> cases kind_eq h
    | _ => cases kind_eq h
  | obj fields ih =>
    intro v' r r' _ _ h
    cases v' with
    | obj fields' =>
      simp only [render, renderFields_eq, List.map_map, List.cons_append, List.cons.injEq, true_and,
        List.append_assoc, List.nil_append] at h
      obtain ⟨rfl, hrest⟩ := commaSeparated_inj
        (f := fun field : String × Json => renderField (field.1, render field.2))
        (by decide) (by decide) (fun field => ⟨_, _, rfl, by decide⟩)
        (fun field hfield => delimited_field (ih field hfield)) h
      exact ⟨rfl, hrest⟩
    | bool b' => cases b' <;> cases kind_eq h
    | _ => cases kind_eq h

theorem render_injective : Function.Injective render := by
  intro v v' h
  have hnone : Follows [] := by
    intro c hc
    cases hc
  exact (delimited_render v v' [] [] hnone hnone (by rw [h])).1

theorem canonicalJson_eq_iff {v v' : Json} :
    canonicalJson v = canonicalJson v' ↔ normalise v = normalise v' := by
  constructor
  · intro h
    exact render_injective (String.ofList_injective h)
  · intro h
    rw [canonicalJson, canonicalJson, h]

/-! ### Sizes -/

theorem length_quote_le (s : String) : (quote s).length ≤ 6 * s.toList.length + 2 := by
  have hchar : ∀ c, (escapeChar c).length ≤ 6 := by
    intro c
    unfold escapeChar
    split_ifs <;> simp
  have hflat : (s.toList.flatMap escapeChar).length ≤ 6 * s.toList.length := by
    induction s.toList with
    | nil => simp
    | cons c rest ih =>
      have hc := hchar c
      simp only [List.flatMap_cons, List.length_append, List.length_cons]
      omega
  simp only [quote, List.length_cons, List.length_append, List.length_nil]
  omega

theorem length_commaSeparated_le (texts : List (List Char)) :
    (commaSeparated texts).length ≤ (texts.map fun text => text.length + 1).sum := by
  have hrest : ∀ rest : List (List Char), (rest.flatMap fun text => ',' :: text).length
      = (rest.map fun text => text.length + 1).sum := by
    intro rest
    simp [List.length_flatMap]
  cases texts with
  | nil => simp [commaSeparated]
  | cons first rest =>
    rw [commaSeparated, List.length_append, hrest, List.map_cons, List.sum_cons]
    omega

/-- An array takes its brackets, its items, and a comma for each but one. -/
theorem length_render_arr_le (items : List Json) {bound : ℕ}
    (h : ∀ item ∈ items, (render item).length ≤ bound) :
    (render (.arr items)).length ≤ items.length * (bound + 1) + 2 := by
  have hitems := length_commaSeparated_le (items.map render)
  have hsum : ((items.map render).map fun text => text.length + 1).sum
      ≤ items.length * (bound + 1) := by
    rw [List.map_map]
    refine (List.sum_le_card_nsmul _ (bound + 1) fun n hn => ?_).trans ?_
    · obtain ⟨item, hitem, rfl⟩ := List.mem_map.1 hn
      exact Nat.succ_le_succ (h item hitem)
    · simp
  rw [render, renderItems_eq]
  simp only [List.length_cons, List.length_append, List.length_nil]
  omega

/-- An object takes its braces, its names, its values, and a colon and a comma for each. -/
theorem length_render_obj_le {fields : List (String × Json)} (names : List String)
    {bounds : List ℕ} (hnames : fields.map Prod.fst = names)
    (h : List.Forall₂ (fun field bound => (render field.2).length ≤ bound) fields bounds) :
    (render (.obj fields)).length ≤
      (names.map fun name => (quote name).length + 2).sum + bounds.sum + 2 := by
  have hfields := length_commaSeparated_le ((renderFields fields).map renderField)
  have hsum : (((renderFields fields).map renderField).map fun text => text.length + 1).sum
      ≤ (names.map fun name => (quote name).length + 2).sum + bounds.sum := by
    subst hnames
    rw [renderFields_eq, List.map_map, List.map_map, List.map_map]
    clear hfields
    induction h with
    | nil => simp
    | cons hfield _ ih =>
      simp only [List.map_cons, List.sum_cons, Function.comp_apply, renderField, List.length_append,
        List.length_cons] at ih ⊢
      omega
  rw [render]
  simp only [List.length_cons, List.length_append, List.length_nil]
  omega

theorem length_number_le {n : ℤ} (h : -9007199254740991 ≤ n ∧ n ≤ 9007199254740991) :
    (number n).length ≤ 17 := by
  have hdigits : ∀ m : ℕ, m < 10 ^ 16 → (Nat.toDigits 10 m).length ≤ 16 := fun m hm =>
    (Nat.length_toDigits_le_iff (by decide) (by decide)).2 hm
  cases n with
  | ofNat m =>
    have hm := hdigits m (by simp only [Int.ofNat_eq_natCast] at h; omega)
    show (Nat.toDigits 10 m).length ≤ 17
    omega
  | negSucc m =>
    have hm := hdigits (m + 1) (by omega)
    show (Nat.toDigits 10 (m + 1)).length + 1 ≤ 17
    omega

end CanonicalJson
