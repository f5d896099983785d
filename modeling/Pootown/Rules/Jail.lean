import Mathlib.Tactic
import Pootown.Rules.Movement

/-!
# Jail rules

Leaving jail by fine, by card or by dice.  The third failed roll forces the fine; a player who
cannot pay it is emptied and marked for bankruptcy.

`JailPlayerState.Coupled` is the coupling of jail, position and counters every player state keeps.
-/

namespace Pootown

open Fallible

structure JailPlayerState where
  cash : ℤ
  position : ℕ
  inJail : Bool
  jailTurns : ℕ
  consecutiveDoubles : ℕ
  getOutOfJailCards : ℕ

inductive JailRuleErrorCode
  | invalidJailState | playerNotInJail | noGetOutOfJailCard | invalidDice
  deriving DecidableEq

def JailRuleErrorCode.text : JailRuleErrorCode → String
  | .invalidJailState => "INVALID_JAIL_STATE"
  | .playerNotInJail => "PLAYER_NOT_IN_JAIL"
  | .noGetOutOfJailCard => "NO_GET_OUT_OF_JAIL_CARD"
  | .invalidDice => "INVALID_DICE"

inductive JailOutcome
  | entered | released | remains | bankruptcyRequired
  deriving DecidableEq

inductive JailReleaseMethod
  | doubles | fine | card
  deriving DecidableEq

/-- The accepted outcome of a jail action. -/
structure JailAction where
  state : JailPlayerState
  outcome : JailOutcome
  releaseMethod : Option JailReleaseMethod
  movement : Option MovementResult
  turnEnded : Bool
  amountPaid : ℤ

abbrev JailActionResult := Except JailRuleErrorCode JailAction

/-- In jail: at the jail space, at most two turns served, no doubles pending.
Outside: no turns served. -/
abbrev JailCoupled (position : ℕ) (inJail : Bool) (jailTurns consecutiveDoubles : ℕ) : Prop :=
  if inJail = true then
    position = GameplayPolicy.jailPosition ∧ jailTurns ≤ 2 ∧ consecutiveDoubles = 0
  else jailTurns = 0

/-- The `validState` of the jail rules. -/
abbrev ValidJailState (state : JailPlayerState) : Prop :=
  IsMatchCash state.cash ∧ state.position < GameplayPolicy.boardSize ∧
  state.jailTurns ≤ GameplayPolicy.maximumJailTurns ∧ state.consecutiveDoubles ≤ 2 ∧
  state.getOutOfJailCards ≤ 255 ∧
  JailCoupled state.position state.inJail state.jailTurns state.consecutiveDoubles

def payJailFine (state : JailPlayerState) : JailActionResult := do
  require (ValidJailState state) .invalidJailState
  require (state.inJail = true) .playerNotInJail
  match checkedSubtractMatchCash state.cash GameplayPolicy.jailFine with
  | none => return {
      state := state
      outcome := .bankruptcyRequired
      releaseMethod := none
      movement := none
      turnEnded := false
      amountPaid := 0 }
  | some cash => return {
      state := { state with cash := cash, inJail := false, jailTurns := 0 }
      outcome := .released
      releaseMethod := some .fine
      movement := none
      turnEnded := true
      amountPaid := GameplayPolicy.jailFine }

def useJailCard (state : JailPlayerState) : JailActionResult := do
  require (ValidJailState state) .invalidJailState
  require (state.inJail = true) .playerNotInJail
  require (1 ≤ state.getOutOfJailCards) .noGetOutOfJailCard
  return {
    state := { state with
      inJail := false
      jailTurns := 0
      getOutOfJailCards := state.getOutOfJailCards - 1 }
    outcome := .released
    releaseMethod := some .card
    movement := none
    turnEnded := true
    amountPaid := 0 }

/-- The cash, release method and amount paid on leaving jail by dice; none when the fine that a
third failed roll forces exceeds the cash. -/
def jailRollPayment (cash : ℤ) (isDoubles : Bool) : Option (ℤ × JailReleaseMethod × ℤ) :=
  if isDoubles then some (cash, .doubles, 0)
  else (checkedSubtractMatchCash cash GameplayPolicy.jailFine).map fun afterFine =>
    (afterFine, .fine, GameplayPolicy.jailFine)

def resolveJailRoll (state : JailPlayerState) (roll : DiceRoll) : JailActionResult := do
  require (ValidJailState state) .invalidJailState
  require (state.inJail = true) .playerNotInJail
  require (ValidDice roll) .invalidDice
  let jailTurns := state.jailTurns + 1
  if roll.isDoubles = false ∧ jailTurns < GameplayPolicy.maximumJailTurns then
    return {
      state := { state with jailTurns := jailTurns }
      outcome := .remains
      releaseMethod := none
      movement := none
      turnEnded := true
      amountPaid := 0 }
  else
    match jailRollPayment state.cash roll.isDoubles with
    | none => return {
        state := { state with cash := 0, inJail := false, jailTurns := 0, consecutiveDoubles := 0 }
        outcome := .bankruptcyRequired
        releaseMethod := none
        movement := none
        turnEnded := true
        amountPaid := 0 }
    | some (cash, releaseMethod, amountPaid) =>
      let movement ← requireSome (moveBy state.position roll.total) .invalidDice
      return {
        state := { state with
          cash := cash
          position := movement.toPosition
          inJail := false
          jailTurns := 0
          consecutiveDoubles := 0 }
        outcome := .released
        releaseMethod := some releaseMethod
        movement := some movement
        turnEnded := false
        amountPaid := amountPaid }

/-! ### What an accepted action does -/

section Actions

variable {state : JailPlayerState} {action : JailAction}

/-- Paying the fine either marks the player for bankruptcy, untouched, or releases them in place
with 50 less. -/
theorem payJailFine_eq_ok (h : payJailFine state = .ok action) :
    state.inJail = true ∧
    ((action.outcome = .bankruptcyRequired ∧ action.state = state ∧ state.cash < 50) ∨
     (action.outcome = .released ∧ action.releaseMethod = some .fine ∧ 50 ≤ state.cash ∧
      action.state = { state with cash := state.cash - 50, inJail := false, jailTurns := 0 })) := by
  simp only [payJailFine, bind_eq_ok, require_eq_ok, exists_const] at h
  obtain ⟨-, hin, h⟩ := h
  refine ⟨hin, ?_⟩
  cases hc : checkedSubtractMatchCash state.cash GameplayPolicy.jailFine with
  | none =>
    rw [hc] at h
    cases h
    exact .inl ⟨rfl, rfl, checkedSubtractMatchCash_eq_none.1 hc⟩
  | some cash =>
    rw [hc] at h
    cases h
    obtain ⟨rfl, hle⟩ := checkedSubtractMatchCash_eq_some.1 hc
    exact .inr ⟨rfl, rfl, hle, rfl⟩

theorem useJailCard_eq_ok (h : useJailCard state = .ok action) :
    state.inJail = true ∧ action.outcome = .released ∧ action.releaseMethod = some .card ∧
      action.state = { state with
        inJail := false, jailTurns := 0, getOutOfJailCards := state.getOutOfJailCards - 1 } := by
  simp only [useJailCard, bind_eq_ok, require_eq_ok, exists_const, pure_eq_ok] at h
  obtain ⟨-, hin, -, rfl⟩ := h
  exact ⟨hin, rfl, rfl, rfl⟩

/-- A jail roll keeps the player in jail, or empties and marks them for bankruptcy, or moves them
out: free of charge on doubles, for the fine on the third failure. -/
theorem resolveJailRoll_eq_ok {roll : DiceRoll} (h : resolveJailRoll state roll = .ok action) :
    (action.outcome = .remains ∧ roll.isDoubles = false ∧ state.jailTurns < 2 ∧
      action.state = { state with jailTurns := state.jailTurns + 1 }) ∨
    (action.outcome = .bankruptcyRequired ∧ roll.isDoubles = false ∧ 2 ≤ state.jailTurns ∧
      state.cash < 50 ∧ action.state = { state with
        cash := 0, inJail := false, jailTurns := 0, consecutiveDoubles := 0 }) ∨
    (action.outcome = .released ∧ ∃ cash releaseMethod movement,
      action.movement = some movement ∧ moveBy state.position roll.total = some movement ∧
      action.releaseMethod = some releaseMethod ∧
      ((roll.isDoubles = true ∧ releaseMethod = .doubles ∧ cash = state.cash) ∨
       (roll.isDoubles = false ∧ 2 ≤ state.jailTurns ∧ releaseMethod = .fine ∧ 50 ≤ state.cash ∧
        cash = state.cash - 50)) ∧
      action.state = { state with
        cash := cash, position := movement.toPosition, inJail := false, jailTurns := 0,
        consecutiveDoubles := 0 }) := by
  simp only [resolveJailRoll, bind_eq_ok, require_eq_ok, exists_const, ite_eq_ok, pure_eq_ok] at h
  obtain ⟨-, -, -, ⟨⟨hno, hlt⟩, rfl⟩ | ⟨hge, h⟩⟩ := h
  · simp only [GameplayPolicy.maximumJailTurns] at hlt
    exact .inl ⟨rfl, hno, by omega, rfl⟩
  · simp only [GameplayPolicy.maximumJailTurns, not_and, not_lt] at hge
    right
    cases hd : roll.isDoubles with
    | true =>
      simp only [hd, jailRollPayment, if_true, bind_eq_ok, requireSome_eq_ok, pure_eq_ok] at h
      obtain ⟨movement, hm, rfl⟩ := h
      exact .inr ⟨rfl, _, _, movement, rfl, hm, rfl, .inl ⟨rfl, rfl, rfl⟩, rfl⟩
    | false =>
      have hturns := hge hd
      cases hc : checkedSubtractMatchCash state.cash GameplayPolicy.jailFine with
      | none =>
        simp only [hd, jailRollPayment, hc, Bool.false_eq_true, if_false, Option.map_none,
          pure_eq_ok] at h
        cases h
        exact .inl ⟨rfl, rfl, by omega, checkedSubtractMatchCash_eq_none.1 hc, rfl⟩
      | some cash =>
        simp only [hd, jailRollPayment, hc, Bool.false_eq_true, if_false, Option.map_some,
          bind_eq_ok, requireSome_eq_ok, pure_eq_ok] at h
        obtain ⟨movement, hm, rfl⟩ := h
        obtain ⟨rfl, hle⟩ := checkedSubtractMatchCash_eq_some.1 hc
        exact .inr ⟨rfl, _, _, movement, rfl, hm, rfl,
          .inr ⟨rfl, by omega, rfl, hle, rfl⟩, rfl⟩

end Actions

end Pootown
