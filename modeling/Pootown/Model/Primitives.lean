import Mathlib.Tactic

/-!
# Numbers, identifiers, money and randomness

The primitive values of the game core.

* `IsSafeInteger`: the integers a JavaScript number represents exactly.  Timestamps, versions and
  random-generator counters are `ℤ` bounded by it; seat indices, board positions and small counters
  are `ℕ`, so that the lower-bound checks of the source hold by typing.
* `validOpaqueId`: the identifier pattern `^[A-Za-z0-9][A-Za-z0-9_-]*$`, 1 to 128 characters.
* `maxMatchCash` and the checked cash arithmetic, over `ℤ` (the source's `bigint`).
* `GameplayPolicy`: the constants of the ruleset.
* `RandomCheckpoint`, `RandomSource`: the port to the random generator.
-/

namespace Pootown

/-! ### Numbers -/

/-- `Number.isSafeInteger` on an integer. -/
abbrev IsSafeInteger (n : ℤ) : Prop := -9007199254740991 ≤ n ∧ n ≤ 9007199254740991

/-- The last state version: a state that carries it accepts no further command. -/
def maxStateVersion : ℤ := 2147483647

/-! ### Identifiers -/

/-- A character after the first one of an identifier. -/
def isOpaqueIdChar (c : Char) : Bool := c.isAlphanum || c == '_' || c == '-'

/-- The identifier pattern shared by game, player and trade ids. -/
def validOpaqueId (value : String) : Bool :=
  match value.toList with
  | [] => false
  | c :: cs => decide (cs.length + 1 ≤ 128) && c.isAlphanum && cs.all isOpaqueIdChar

/-- The length of a JavaScript string, in UTF-16 code units. -/
def utf16Length (value : String) : ℕ :=
  (value.toList.map fun c => if c.val < 0x10000 then 1 else 2).sum

/-! ### Money -/

/-- The largest amount of in-match cash. -/
def maxMatchCash : ℤ := 10 ^ 78 - 1

/-- An amount that fits the canonical unsigned decimal contract. -/
abbrev IsMatchCash (value : ℤ) : Prop := 0 ≤ value ∧ value ≤ maxMatchCash

theorem isMatchCash_zero : IsMatchCash 0 := by decide

/-- Addition that refuses to exceed the maximum. -/
def checkedAddMatchCash (left right : ℤ) : Option ℤ :=
  if left + right ≤ maxMatchCash then some (left + right) else none

/-- Subtraction that refuses to go below zero. -/
def checkedSubtractMatchCash (left right : ℤ) : Option ℤ :=
  if right ≤ left then some (left - right) else none

theorem checkedAddMatchCash_eq_some {left right result : ℤ} :
    checkedAddMatchCash left right = some result ↔
      result = left + right ∧ left + right ≤ maxMatchCash := by
  unfold checkedAddMatchCash
  split_ifs with h
  · simp [h, eq_comm]
  · simp [h]

theorem checkedSubtractMatchCash_eq_some {left right result : ℤ} :
    checkedSubtractMatchCash left right = some result ↔ result = left - right ∧ right ≤ left := by
  unfold checkedSubtractMatchCash
  split_ifs with h
  · simp [h, eq_comm]
  · simp [h]

theorem checkedSubtractMatchCash_eq_none {left right : ℤ} :
    checkedSubtractMatchCash left right = none ↔ left < right := by
  unfold checkedSubtractMatchCash
  split_ifs with h
  · simp [h]
  · simpa using h

/-! ### Policy -/

namespace GameplayPolicy

@[simp] abbrev boardSize : ℕ := 40
@[simp] abbrev minimumPlayers : ℕ := 2
@[simp] abbrev maximumPlayers : ℕ := 4
@[simp] abbrev startingMatchCash : ℤ := 1500
@[simp] abbrev startingBankCash : ℤ := 1000000
@[simp] abbrev passGoSalary : ℤ := 200
@[simp] abbrev turnTimeoutMs : ℤ := 90000
@[simp] abbrev maximumMissedTurns : ℕ := 3
@[simp] abbrev jailPosition : ℕ := 10
@[simp] abbrev jailFine : ℤ := 50
@[simp] abbrev maximumJailTurns : ℕ := 3
@[simp] abbrev goToJailPosition : ℕ := 30
@[simp] abbrev mevTaxPosition : ℕ := 4
@[simp] abbrev mevTaxAmount : ℤ := 200
@[simp] abbrev priorityFeeTaxPosition : ℕ := 38
@[simp] abbrev priorityFeeTaxAmount : ℤ := 75
@[simp] abbrev totalHouses : ℕ := 32
@[simp] abbrev totalHotels : ℕ := 12
@[simp] abbrev tradeExpiryMs : ℤ := 3600000
@[simp] abbrev maximumActiveTrades : ℕ := 20

end GameplayPolicy

/-! ### Randomness -/

/-- The persisted position of a random generator. -/
structure RandomCheckpoint where
  algorithm : String
  state : String
  draws : ℤ
  bytesConsumed : ℤ
  deriving DecidableEq

/-- What a call to the optional `fork` of a random source yields: it may throw, answer `null`,
hand back the very source it was called on, or an isolated cursor. -/
inductive ForkResult (Cursor : Type)
  | threw
  | null
  | sameSource
  | isolated (cursor : Cursor)

/-- The random-source port.  A source is a state machine over `Cursor`; `none` models a call that
throws.  `fork` itself is optional in the port. -/
structure RandomSource where
  Cursor : Type
  cursor : Cursor
  nextBytes : Cursor → ℕ → Option (List UInt8 × Cursor)
  checkpoint : Cursor → Option RandomCheckpoint
  canResume : Cursor → RandomCheckpoint → Option Bool
  fork : Option (Cursor → RandomCheckpoint → ForkResult Cursor)

/-- A checkpoint of admissible size. -/
abbrev ValidRandomCheckpoint (rng : RandomCheckpoint) : Prop :=
  1 ≤ utf16Length rng.algorithm ∧ utf16Length rng.algorithm ≤ 64 ∧
  1 ≤ utf16Length rng.state ∧ utf16Length rng.state ≤ 4096 ∧
  IsSafeInteger rng.draws ∧ 0 ≤ rng.draws ∧
  IsSafeInteger rng.bytesConsumed ∧ 0 ≤ rng.bytesConsumed

end Pootown
