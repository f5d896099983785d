import Mathlib.Tactic
import Pootown.Transition.Turn

/-!
# Jail transitions

Paying the fine or using a card on the player's own turn; a release passes the turn on.
-/

namespace Pootown

open Fallible Slots

def transitionGameplayJail (state : ActiveGameplayAggregateState) (command : GameplayJailCommand)
    (expectedStateVersion : ℤ) (context : GameplayCommandContext) : GameplayTransitionResult := do
  checkCommand state true expectedStateVersion context.nowMs
  let current ← requireSome (activeGameplayPlayer state)
    (reject state .invalidState "turn does not reference an active player")
  require (context.actor = .player current.playerId)
    (reject state .unauthorizedActor "actor cannot execute this jail command")
  require (state.turn.phase = .awaitingRoll ∧ current.inJail = true)
    (reject state .invalidPhase "jail action is unavailable")
  let result := match command with
    | .payJailFine => payJailFine current.toJail
    | .useJailCard => useJailCard current.toJail
  match result with
  | .error code => .error (reject state .invalidPhase ("jail action failed: " ++ code.text))
  | .ok result =>
    if result.outcome = .bankruptcyRequired then
      let turn ← requireSome
        (createClockedGameplayTurn .awaitingBankruptcy current.seatIndex context.nowMs)
        (reject state .invalidState "bankruptcy deadline exceeds limits")
      return ({ state with
        stateVersion := state.stateVersion + 1
        turn := turn
        bankruptcyRequiredSeatIndex := some current.seatIndex
        lastDice := none }, [])
    else
      require (result.outcome = .released)
        (reject state .invalidState "jail action did not release the player")
      let releaseMethod ← requireSome result.releaseMethod
        (reject state .invalidState "jail action did not release the player")
      let (turn, _) ← requireSome (advanceGameplayTurn state context.nowMs)
        (reject state .invalidState "no next active player is available")
      return ({ state with
        stateVersion := state.stateVersion + 1
        players := updateSlot current.seatIndex
          (fun player => { player.withJail result.state with consecutiveDoubles := 0 })
          state.players
        turn := turn
        bankruptcyRequiredSeatIndex := none
        lastDice := none }, [.jailExited current.playerId releaseMethod])

/-! ### Accepted outcomes -/

section Steps

variable (state : ActiveGameplayAggregateState) (current : GameplayPlayerState) (nowMs : ℤ)

/-- The accepted outcomes of a jail command of `current`. -/
inductive JailStep : ActiveGameplayAggregateState → List GameplayDomainEvent → Prop
  | bankruptcy : current.cash < 50 → ClockableTime nowMs →
      JailStep
        { state with
          stateVersion := state.stateVersion + 1
          turn := ⟨freshClock state.turn.currentSeatIndex nowMs, .awaitingBankruptcy⟩
          bankruptcyRequiredSeatIndex := some state.turn.currentSeatIndex
          lastDice := none } []
  | released (cash : ℤ) (cards : ℕ) (method : JailReleaseMethod)
      (turn : ActiveGameplayAggregateTurn) : current.inJail = true →
      ((method = .fine ∧ 50 ≤ current.cash ∧ cash = current.cash - 50 ∧
          cards = current.getOutOfJailCards) ∨
        (method = .card ∧ cash = current.cash ∧ cards = current.getOutOfJailCards - 1)) →
      PassesTurn state nowMs turn →
      JailStep
        { state with
          stateVersion := state.stateVersion + 1
          players := updateSlot state.turn.currentSeatIndex (fun player =>
            { player.withJail { current.toJail with
                cash := cash, inJail := false, jailTurns := 0, getOutOfJailCards := cards } with
              consecutiveDoubles := 0 }) state.players
          turn := turn
          bankruptcyRequiredSeatIndex := none
          lastDice := none } [.jailExited current.playerId method]

end Steps

theorem transitionGameplayJail_step {state state' : ActiveGameplayAggregateState}
    {command : GameplayJailCommand} {expected : ℤ} {context : GameplayCommandContext}
    {events : List GameplayDomainEvent}
    (h : transitionGameplayJail state command expected context = .ok (state', events)) :
    Admitted state expected context.nowMs ∧ state.turn.phase = .awaitingRoll ∧
      ∃ current, IsCurrent state current ∧
        JailStep state current context.nowMs state' events := by
  simp only [transitionGameplayJail, bind_eq_ok, require_eq_ok, requireSome_eq_ok,
    exists_const, checkCommand_eq_ok, activeGameplayPlayer_eq_some] at h
  obtain ⟨⟨-, hadm⟩, current, hc, -, ⟨hphase, hin⟩, h⟩ := h
  refine ⟨hadm, hphase, current, hc, ?_⟩
  rw [hc.seatIndex_eq hadm.valid] at h
  split at h
  · cases h
  next result hresult =>
    cases command with
    | payJailFine =>
      obtain ⟨-, ⟨hout, -, hcash⟩ | ⟨hout, hmethod, hcash, hstate⟩⟩ := payJailFine_eq_ok hresult
      · simp only [hout, if_true, bind_eq_ok, requireSome_eq_ok, pure_eq_ok,
          createClockedGameplayTurn_eq_some, Prod.mk.injEq] at h
        obtain ⟨_, ⟨htime, -, rfl⟩, rfl, rfl⟩ := h
        exact .bankruptcy hcash htime
      · simp only [hout, hmethod, hstate, reduceCtorEq, if_false, bind_eq_ok, require_eq_ok,
          requireSome_eq_ok, pure_eq_ok, exists_const, Option.some.injEq, exists_eq_left',
          Prod.exists, true_and, Prod.mk.injEq] at h
        obtain ⟨turn, next, hadv, rfl, rfl⟩ := h
        exact .released _ _ .fine turn hin (.inl ⟨rfl, hcash, rfl, rfl⟩)
          (advanceGameplayTurn_eq_some hadv)
    | useJailCard =>
      obtain ⟨-, hout, hmethod, hstate⟩ := useJailCard_eq_ok hresult
      simp only [hout, hmethod, hstate, reduceCtorEq, if_false, bind_eq_ok, require_eq_ok,
        requireSome_eq_ok, pure_eq_ok, exists_const, Option.some.injEq, exists_eq_left',
        Prod.exists, true_and, Prod.mk.injEq] at h
      obtain ⟨turn, next, hadv, rfl, rfl⟩ := h
      exact .released _ _ .card turn hin (.inr ⟨rfl, rfl, rfl⟩) (advanceGameplayTurn_eq_some hadv)

end Pootown
