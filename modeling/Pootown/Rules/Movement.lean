import Mathlib.Tactic
import Pootown.Library.Fallible
import Pootown.Model.Primitives

/-!
# Dice, movement and the random source

* the guarded use of a random source: forking it at the persisted checkpoint, reading the next
  checkpoint back, and the progress test between the two;
* `rollDice`: two dice by rejection sampling, each a value from 1 to 6;
* `moveBy`, `moveToNearest`: movement around the board, and when it passes GO;
* `applyDoubles`: the count of consecutive doubles, the third of which sends a player to jail.
-/

namespace Pootown

open Fallible

/-! ### Using the random source -/

/-- `canResume`, a throwing source counting as `false`. -/
def canResumeGameplayCheckpoint (randomSource : RandomSource) (cursor : randomSource.Cursor)
    (checkpoint : RandomCheckpoint) : Bool :=
  (randomSource.canResume cursor checkpoint).getD false

/-- The checkpoint of a cursor, when the source delivers one of admissible size. -/
def readRandomCheckpoint (randomSource : RandomSource) (cursor : randomSource.Cursor) :
    Option RandomCheckpoint :=
  match randomSource.checkpoint cursor with
  | none => none
  | some value => if ValidRandomCheckpoint value then some value else none

/-- An isolated cursor at `checkpoint`, when the source can fork one and resume there. -/
def forkGameplayRandomSource (randomSource : RandomSource) (checkpoint : RandomCheckpoint) :
    Option randomSource.Cursor :=
  match randomSource.fork with
  | none => none
  | some fork =>
    match fork randomSource.cursor checkpoint with
    | .isolated cursor =>
      if canResumeGameplayCheckpoint randomSource cursor checkpoint then some cursor else none
    | _ => none

def isAdvancedGameplayCheckpoint (previous next : RandomCheckpoint) (minimumBytesConsumed : ℤ) :
    Bool :=
  decide (IsSafeInteger minimumBytesConsumed ∧ 0 < minimumBytesConsumed ∧
    next.algorithm = previous.algorithm ∧ previous.draws < next.draws ∧
    previous.bytesConsumed + minimumBytesConsumed ≤ next.bytesConsumed)

theorem readRandomCheckpoint_valid {randomSource : RandomSource} {cursor : randomSource.Cursor}
    {checkpoint : RandomCheckpoint}
    (h : readRandomCheckpoint randomSource cursor = some checkpoint) :
    ValidRandomCheckpoint checkpoint := by
  unfold readRandomCheckpoint at h
  split at h
  · cases h
  · split_ifs at h with hv
    cases h
    exact hv

/-- A source that hands out the given bytes in order and counts them in its checkpoint. -/
def scriptedSource (bytes : List UInt8) (checkpoint : RandomCheckpoint) : RandomSource where
  Cursor := List UInt8 × RandomCheckpoint
  cursor := (bytes, checkpoint)
  nextBytes := fun (bytes, rng) length =>
    if length ≤ bytes.length then
      some (bytes.take length, bytes.drop length,
        { rng with draws := rng.draws + 1, bytesConsumed := rng.bytesConsumed + length })
    else none
  checkpoint := fun (_, rng) => some rng
  canResume := fun (_, rng) checkpoint => some (decide (rng = checkpoint))
  fork := some fun (bytes, _) rng => .isolated (bytes, rng)

/-- A scripted source forks at every checkpoint. -/
theorem forkGameplayRandomSource_scriptedSource (bytes : List UInt8)
    (start checkpoint : RandomCheckpoint) :
    forkGameplayRandomSource (scriptedSource bytes start) checkpoint = some (bytes, checkpoint) := by
  simp [forkGameplayRandomSource, scriptedSource, canResumeGameplayCheckpoint]

/-! ### Dice -/

structure DiceRoll where
  dice : ℕ × ℕ
  total : ℕ
  isDoubles : Bool
  deriving DecidableEq

/-- Two faces from 1 to 6 with their sum and their equality. -/
abbrev ValidDice (roll : DiceRoll) : Prop :=
  (1 ≤ roll.dice.1 ∧ roll.dice.1 ≤ 6) ∧ (1 ≤ roll.dice.2 ∧ roll.dice.2 ≤ 6) ∧
  roll.total = roll.dice.1 + roll.dice.2 ∧ roll.isDoubles = (roll.dice.1 == roll.dice.2)

def maximumDieRejectionDraws : ℕ := 256

/-- The largest byte that maps to a face without modulo bias. -/
def largestUnbiasedByte : ℕ := 251

/-- One die: bytes above the unbiased range are drawn again, at most `attempts` times. -/
def drawDie (randomSource : RandomSource) :
    (attempts : ℕ) → randomSource.Cursor → Option (ℕ × randomSource.Cursor)
  | 0, _ => none
  | attempts + 1, cursor =>
    match randomSource.nextBytes cursor 1 with
    | some ([value], cursor) =>
      if value.toNat ≤ largestUnbiasedByte then some (value.toNat % 6 + 1, cursor)
      else drawDie randomSource attempts cursor
    | _ => none

/-- Server-owned dice; a failing source yields none. -/
def rollDice (randomSource : RandomSource) (cursor : randomSource.Cursor) :
    Option (DiceRoll × randomSource.Cursor) := do
  let (first, cursor) ← drawDie randomSource maximumDieRejectionDraws cursor
  let (second, cursor) ← drawDie randomSource maximumDieRejectionDraws cursor
  return (⟨(first, second), first + second, first == second⟩, cursor)

theorem drawDie_mem {randomSource : RandomSource} {attempts : ℕ}
    {cursor cursor' : randomSource.Cursor} {face : ℕ}
    (h : drawDie randomSource attempts cursor = some (face, cursor')) : 1 ≤ face ∧ face ≤ 6 := by
  induction attempts generalizing cursor with
  | zero => cases h
  | succ attempts ih =>
    unfold drawDie at h
    split at h
    · split_ifs at h
      · cases h; omega
      · exact ih h
    · cases h

theorem rollDice_valid {randomSource : RandomSource} {cursor cursor' : randomSource.Cursor}
    {roll : DiceRoll} (h : rollDice randomSource cursor = some (roll, cursor')) :
    ValidDice roll := by
  simp only [rollDice, Option.bind_eq_bind, Option.bind_eq_some_iff, Prod.exists,
    Option.pure_def, Option.some.injEq, Prod.mk.injEq] at h
  obtain ⟨first, c₁, h₁, second, c₂, h₂, rfl, rfl⟩ := h
  exact ⟨drawDie_mem h₁, drawDie_mem h₂, rfl, rfl⟩

/-! ### Movement -/

structure MovementResult where
  fromPosition : ℕ
  toPosition : ℕ
  spaces : ℤ
  passedGo : Bool
  deriving DecidableEq

/-- Move `spaces` forward, or back when negative. -/
def moveBy (position : ℕ) (spaces : ℤ) : Option MovementResult :=
  if ¬ (position < GameplayPolicy.boardSize ∧ IsSafeInteger spaces) then none else
  let absolute : ℤ := position + spaces
  if ¬ IsSafeInteger absolute then none else
  some {
    fromPosition := position
    toPosition := (((absolute.tmod GameplayPolicy.boardSize) + GameplayPolicy.boardSize).tmod
      GameplayPolicy.boardSize).toNat
    spaces := spaces
    passedGo := decide (0 < spaces ∧ (GameplayPolicy.boardSize : ℤ) ≤ absolute) }

/-- The closest target strictly ahead, wrapping through GO when needed. -/
def moveToNearest (position : ℕ) (targets : List ℕ) : Option MovementResult :=
  if ¬ position < GameplayPolicy.boardSize ∨ targets = [] ∨
      targets.any (fun target => !decide (target < GameplayPolicy.boardSize)) then none else
  let distances : List ℤ := targets.map fun target =>
    let forward : ℤ := (target : ℤ) - position
    if forward > 0 then forward else GameplayPolicy.boardSize + forward
  distances.min?.bind fun distance => moveBy position distance

theorem moveBy_eq_some {position : ℕ} {spaces : ℤ} {movement : MovementResult}
    (h : moveBy position spaces = some movement) :
    movement.fromPosition = position ∧ movement.toPosition < 40 := by
  unfold moveBy at h
  split_ifs at h
  dsimp only at h
  split_ifs at h
  cases h
  refine ⟨rfl, ?_⟩
  simp only [GameplayPolicy.boardSize]
  have := Int.tmod_lt_of_pos ((((position : ℤ) + spaces).tmod 40) + 40) (by decide : (0 : ℤ) < 40)
  push_cast
  omega

theorem moveToNearest_eq_some {position : ℕ} {targets : List ℕ} {movement : MovementResult}
    (h : moveToNearest position targets = some movement) :
    movement.fromPosition = position ∧ movement.toPosition < 40 := by
  unfold moveToNearest at h
  split_ifs at h
  obtain ⟨distance, -, h⟩ := Option.bind_eq_some_iff.1 h
  exact moveBy_eq_some h

/-! ### Doubles -/

structure DoublesResult where
  consecutiveDoubles : ℕ
  sentToJail : Bool

def applyDoubles (previousConsecutiveDoubles : ℕ) (roll : DiceRoll) : Option DoublesResult :=
  if 2 < previousConsecutiveDoubles ∨ ¬ ValidDice roll then none
  else if roll.isDoubles = false then some ⟨0, false⟩
  else
    let consecutiveDoubles := previousConsecutiveDoubles + 1
    if consecutiveDoubles = 3 then some ⟨0, true⟩ else some ⟨consecutiveDoubles, false⟩

theorem applyDoubles_eq_some {previous : ℕ} {roll : DiceRoll} {doubles : DoublesResult}
    (h : applyDoubles previous roll = some doubles) :
    doubles.consecutiveDoubles ≤ 2 ∧ (roll.isDoubles = false → doubles = ⟨0, false⟩) ∧
      (doubles.sentToJail = true → previous = 2 ∧ roll.isDoubles = true) := by
  unfold applyDoubles at h
  split_ifs at h with hbad hno
  · cases h; simp [hno]
  · dsimp only at h
    split_ifs at h with hthree
    · cases h
      exact ⟨Nat.zero_le _, fun hf => absurd hf hno, fun _ => ⟨by omega, by simpa using hno⟩⟩
    · cases h
      exact ⟨by dsimp only; omega, fun hf => absurd hf hno, fun hf => absurd hf (by simp)⟩

/-- Doubles that do not send the player to jail are counted. -/
theorem applyDoubles_counts {previous : ℕ} {roll : DiceRoll} {doubles : DoublesResult}
    (h : applyDoubles previous roll = some doubles) (hroll : roll.isDoubles = true)
    (hne : previous ≠ 2) : doubles.consecutiveDoubles = previous + 1 := by
  unfold applyDoubles at h
  split_ifs at h with hbad hno
  · rw [hroll] at hno
    cases hno
  · dsimp only at h
    rw [if_neg (by omega)] at h
    cases h
    rfl

theorem applyDoubles_third {previous : ℕ} {roll : DiceRoll} {doubles : DoublesResult}
    (h : applyDoubles previous roll = some doubles) (htwo : previous = 2)
    (hroll : roll.isDoubles = true) : doubles.sentToJail = true := by
  unfold applyDoubles at h
  split_ifs at h with hbad hno
  · rw [hroll] at hno
    cases hno
  · dsimp only at h
    rw [if_pos (by omega)] at h
    cases h
    rfl

end Pootown
