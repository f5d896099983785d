import Mathlib.Tactic
import Pootown.Transition.Bankruptcy

/-!
# Timeout transitions

The internal timers: the warnings before a deadline, the turn timeout, and the time limit of the
whole game.

* `transitionGameplayTimeout`, cut by timer;
* `TimeoutStep`: the accepted outcomes, and `transitionGameplayTimeout_step`.
-/

namespace Pootown

open Fallible Slots

/-- The two final events, none when the winner or a ranked seat is not at the table. -/
def terminalEvents (state : ActiveGameplayAggregateState)
    (players : List (Option GameplayPlayerState)) (terminal : TerminalOutcome) :
    Option (List GameplayDomainEvent) := do
  let winner ← terminalWinner players terminal
  let ranking ← eventRanking players terminal.ranking
  return endEvents state.gameId terminal.reason winner ranking

/-- The view of an aggregate the timeout rules take. -/
def ActiveGameplayAggregateState.toTimeout (state : ActiveGameplayAggregateState) :
    TimeoutGameState :=
  ⟨bankruptcyPlayers state.players, state.properties, state.inventory, state.bankCash,
    state.turn.toTimeoutTurnState⟩

def transitionEnforceGameTimeLimit (state : ActiveGameplayAggregateState) (nowMs : ℤ) :
    GameplayAggregateTransitionResult :=
  match deriveTimeLimitTerminalOutcome (terminalPlayers (bankruptcyPlayers state.players))
      state.properties state.gameEndAtMs nowMs with
  | .error code => .error (reject state
      (if code = .arithmeticOverflow then .arithmeticOverflow else .invalidCommand)
      ("game time limit failed: " ++ code.text))
  | .ok terminal => do
    let events ← requireSome (terminalEvents state state.players terminal)
      (reject state .invalidState "terminal event mapping failed")
    return (.finished (finishState state state.players state.properties state.bankCash
      state.inventory terminal), events)

def transitionTimeoutWarning (state : ActiveGameplayAggregateState)
    (current : GameplayPlayerState) (seconds : TimeoutWarningSeconds) (nowMs : ℤ) :
    GameplayAggregateTransitionResult :=
  match emitTimeoutWarning state.turn.toTimeoutTurnState seconds nowMs with
  | .error code =>
    .error (reject state .invalidCommand ("timeout warning failed: " ++ code.text))
  | .ok turn => .ok (.inProgress { state with
      stateVersion := state.stateVersion + 1
      turn := { state.turn with toTimeoutTurnState := turn } },
    [.timeoutWarning current.playerId seconds])

/-- The clock the timeout rules hand back, at the start of a turn. -/
def TimeoutTurnState.awaitingRoll (turn : TimeoutTurnState) : ActiveGameplayAggregateTurn :=
  ⟨turn, .awaitingRoll⟩

/-- The forfeit of the current player, already counted as their third missed turn. -/
def transitionTimeoutForfeit (state : ActiveGameplayAggregateState)
    (current : GameplayPlayerState) (bankruptcy : BankruptcyResolution)
    (turn : Option TimeoutTurnState) (nowMs : ℤ) : GameplayAggregateTransitionResult := do
  let players ← requireSome (mergePlayers state.players bankruptcy.players)
    (reject state .invalidState "timeout forfeit player mapping failed")
  let baseEvents : List GameplayDomainEvent := [
    .timeoutPenalty current.playerId 3,
    .timeoutForfeit current.playerId 3,
    .playerBankrupt current.playerId none bankruptcy.liquidationValue bankruptcy.cashTransferred]
  if bankruptcy.endConditionMet = false then
    let turn ← requireSome turn
      (reject state .invalidState "timeout continuation is unavailable")
    let next ← requireSome (slotAt players turn.currentSeatIndex)
      (reject state .invalidState "next timed player is unavailable")
    return (.inProgress { state with
      stateVersion := state.stateVersion + 1
      players := players
      properties := bankruptcy.properties
      bankCash := bankruptcy.bankCash
      housesRemaining := bankruptcy.inventory.housesRemaining
      hotelsRemaining := bankruptcy.inventory.hotelsRemaining
      turn := turn.awaitingRoll
      activeTrades := tradesWithout current.seatIndex state.activeTrades
      lastDice := none },
      baseEvents ++ [.forcedTurnEnd current.playerId next.playerId])
  else
    match deriveTimeoutForfeitTerminalOutcome bankruptcy nowMs with
    | .error code =>
      .error (reject state .invalidState ("timeout terminal outcome failed: " ++ code.text))
    | .ok terminal =>
      let endingEvents ← requireSome (terminalEvents state players terminal)
        (reject state .invalidState "timeout terminal event mapping failed")
      return (.finished (finishState state players bankruptcy.properties bankruptcy.bankCash
        bankruptcy.inventory terminal), baseEvents ++ endingEvents)

def transitionTurnTimeout (state : ActiveGameplayAggregateState) (current : GameplayPlayerState)
    (nowMs : ℤ) : GameplayAggregateTransitionResult :=
  match resolveTurnTimeout state.toTimeout nowMs with
  | .error code => .error (reject state .invalidCommand ("turn timeout failed: " ++ code.text))
  | .ok (.turnAdvanced _ missedTurns resolved _ _ _ turn) => do
    let players ← requireSome (mergePlayers state.players resolved)
      (reject state .invalidState "timeout player mapping failed")
    let next ← requireSome (slotAt players turn.currentSeatIndex)
      (reject state .invalidState "next timed player is unavailable")
    return (.inProgress { state with
      stateVersion := state.stateVersion + 1
      players := players
      turn := turn.awaitingRoll
      lastDice := none },
      [.timeoutPenalty current.playerId missedTurns,
        .forcedTurnEnd current.playerId next.playerId])
  | .ok (.forfeit _ bankruptcy turn) =>
    transitionTimeoutForfeit state current bankruptcy turn nowMs

/-- The player a turn timer runs for. -/
def timedPlayer (state : ActiveGameplayAggregateState) :
    Except GameplayRejection GameplayPlayerState :=
  requireSome (activeGameplayPlayer state)
    (reject state .invalidState "timed player is unavailable")

def transitionGameplayTimeout (state : ActiveGameplayAggregateState)
    (command : GameplayTimeoutCommand) (expectedStateVersion : ℤ)
    (context : GameplayCommandContext) : GameplayAggregateTransitionResult := do
  checkCommand state true expectedStateVersion context.nowMs
  require (context.actor = .internal)
    (reject state .unauthorizedActor "only an internal actor can enforce time")
  require (state.bankruptcyRequiredSeatIndex = none)
    (reject state .invalidPhase "turn timers pause while bankruptcy is pending")
  require (command ≠ .enforceGameTimeLimit →
      ∀ gameEndAtMs ∈ state.gameEndAtMs, context.nowMs < gameEndAtMs)
    (reject state .invalidPhase "game time limit must be enforced before turn timers")
  match command with
  | .enforceGameTimeLimit => transitionEnforceGameTimeLimit state context.nowMs
  | .warnTurnThirtySeconds => do
    let current ← timedPlayer state
    transitionTimeoutWarning state current .thirty context.nowMs
  | .warnTurnTenSeconds => do
    let current ← timedPlayer state
    transitionTimeoutWarning state current .ten context.nowMs
  | .handleTurnTimeout => do
    let current ← timedPlayer state
    transitionTurnTimeout state current context.nowMs

/-! ### Accepted outcomes -/

section Steps

variable (state : ActiveGameplayAggregateState) (current : GameplayPlayerState) (nowMs : ℤ)

/-- The table once the current seat has missed `missedTurns` turns. -/
def afterMissedTurn (missedTurns : ℕ) : List (Option GameplayPlayerState) :=
  updateSlot state.turn.currentSeatIndex
    (fun player => { player with missedTurns := missedTurns }) state.players

/-- The events of a forfeit before those of what follows it. -/
def forfeitEvents (bankruptcy : BankruptcyResolution) : List GameplayDomainEvent :=
  [.timeoutPenalty current.playerId 3, .timeoutForfeit current.playerId 3,
    .playerBankrupt current.playerId none bankruptcy.liquidationValue current.cash]

/-- The seconds a warning command announces. -/
def GameplayTimeoutCommand.warningSeconds :
    GameplayTimeoutCommand → Option TimeoutWarningSeconds
  | .warnTurnThirtySeconds => some .thirty
  | .warnTurnTenSeconds => some .ten
  | _ => none

/-- The accepted outcomes of a timer. -/
inductive TimeoutStep : GameplayTimeoutCommand → GameplayAggregateState →
    List GameplayDomainEvent → Prop
  | timeLimit (gameEndAtMs : ℤ) (terminal : TerminalOutcome) (winner : GameplayPlayerState)
      (ranking : List GameEndRankingEntry) : state.gameEndAtMs = some gameEndAtMs →
      gameEndAtMs ≤ nowMs →
      deriveRankedTerminalOutcome (terminalPlayers (bankruptcyPlayers state.players))
        state.properties .timeLimit nowMs = .ok terminal →
      terminalWinner state.players terminal = some winner →
      eventRanking state.players terminal.ranking = some ranking →
      TimeoutStep .enforceGameTimeLimit
        (.finished (finishState state state.players state.properties state.bankCash
          state.inventory terminal))
        (endEvents state.gameId .timeLimit winner ranking)
  | warning (command : GameplayTimeoutCommand) (seconds : TimeoutWarningSeconds)
      (turn : TimeoutTurnState) : command.warningSeconds = some seconds →
      emitTimeoutWarning state.turn.toTimeoutTurnState seconds nowMs = .ok turn →
      TimeoutStep command
        (.inProgress { state with
          stateVersion := state.stateVersion + 1
          turn := { state.turn with toTimeoutTurnState := turn } })
        [.timeoutWarning current.playerId seconds]
  | turnAdvanced (turn : ActiveGameplayAggregateTurn) (next : GameplayPlayerState) :
      state.turn.deadlineAtMs ≤ nowMs → current.missedTurns < 2 → PassesTurn state nowMs turn →
      slotAt (afterMissedTurn state (current.missedTurns + 1)) turn.currentSeatIndex = some next →
      TimeoutStep .handleTurnTimeout
        (.inProgress { state with
          stateVersion := state.stateVersion + 1
          players := afterMissedTurn state (current.missedTurns + 1)
          turn := turn
          lastDice := none })
        [.timeoutPenalty current.playerId (current.missedTurns + 1),
          .forcedTurnEnd current.playerId next.playerId]
  | forfeitContinued (bankruptcy : BankruptcyResolution) (nextSeat : ℕ)
      (next : GameplayPlayerState) : state.turn.deadlineAtMs ≤ nowMs → current.missedTurns = 2 →
      Eliminated state state.turn.currentSeatIndex (afterMissedTurn state 3)
        { current with missedTurns := 3 } bankruptcy →
      bankruptcy.endConditionMet = false →
      nextActiveSeat BankruptcyPlayerState.status bankruptcy.players state.turn.currentSeatIndex
        = some nextSeat → ClockableTime nowMs →
      slotAt (updateSlot state.turn.currentSeatIndex GameplayPlayerState.eliminate
        (afterMissedTurn state 3)) nextSeat = some next →
      TimeoutStep .handleTurnTimeout
        (.inProgress (afterElimination state (afterMissedTurn state 3) bankruptcy
          ⟨freshClock nextSeat nowMs, .awaitingRoll⟩))
        (forfeitEvents current bankruptcy ++ [.forcedTurnEnd current.playerId next.playerId])
  | forfeitFinished (bankruptcy : BankruptcyResolution) (terminal : TerminalOutcome)
      (winner : GameplayPlayerState) (ranking : List GameEndRankingEntry) :
      state.turn.deadlineAtMs ≤ nowMs → current.missedTurns = 2 →
      Eliminated state state.turn.currentSeatIndex (afterMissedTurn state 3)
        { current with missedTurns := 3 } bankruptcy →
      bankruptcy.endConditionMet = true →
      deriveRankedTerminalOutcome (terminalPlayers bankruptcy.players) bankruptcy.properties
        .timeoutForfeit nowMs = .ok terminal →
      terminalWinner (updateSlot state.turn.currentSeatIndex GameplayPlayerState.eliminate
        (afterMissedTurn state 3)) terminal = some winner →
      eventRanking (updateSlot state.turn.currentSeatIndex GameplayPlayerState.eliminate
        (afterMissedTurn state 3)) terminal.ranking = some ranking →
      TimeoutStep .handleTurnTimeout
        (.finished (finishedElimination state (afterMissedTurn state 3) bankruptcy terminal))
        (forfeitEvents current bankruptcy ++
          endEvents state.gameId .timeoutForfeit winner ranking)

end Steps

/-! ### Inversion -/

theorem terminalEvents_eq_some {state : ActiveGameplayAggregateState}
    {players : List (Option GameplayPlayerState)} {terminal : TerminalOutcome}
    {events : List GameplayDomainEvent} :
    terminalEvents state players terminal = some events ↔ ∃ winner ranking,
      terminalWinner players terminal = some winner ∧
      eventRanking players terminal.ranking = some ranking ∧
      events = endEvents state.gameId terminal.reason winner ranking := by
  simp only [terminalEvents, Option.bind_eq_bind, Option.bind_eq_some_iff, Option.pure_def,
    Option.some.injEq]
  exact ⟨fun ⟨w, hw, r, hr, he⟩ => ⟨w, r, hw, hr, he.symm⟩,
    fun ⟨w, r, hw, hr, he⟩ => ⟨w, hw, r, hr, he.symm⟩⟩

/-- The next active seat depends only on which seats are active. -/
theorem nextActiveSeat_congr {α β : Type} {status : α → PlayerStatus} {status' : β → PlayerStatus}
    {players : List (Option α)} {players' : List (Option β)} {seat : ℕ}
    (h : ∀ i, (slotAt players i).map status = (slotAt players' i).map status') :
    nextActiveSeat status players seat = nextActiveSeat status' players' seat := by
  unfold nextActiveSeat
  refine congrArg (fun p => cyclicNext _ p seat) (funext fun i => ?_)
  have := congrArg (fun o : Option PlayerStatus => o.any fun s => s == .active) (h i)
  simpa only [Option.any_map] using this

section Inversion

variable {state : ActiveGameplayAggregateState} {current : GameplayPlayerState} {nowMs : ℤ}
  {state' : GameplayAggregateState} {events : List GameplayDomainEvent}

theorem toTimeout_players_missed (state : ActiveGameplayAggregateState) (missedTurns : ℕ) :
    updateSlot state.turn.currentSeatIndex
      (fun player => { player with missedTurns := missedTurns }) state.toTimeout.players
      = bankruptcyPlayers (afterMissedTurn state missedTurns) :=
  (bankruptcyPlayers_updateSlot _ _ _ (fun _ => rfl) _).symm

/-- Missing a turn changes nobody's status. -/
theorem nextActiveSeat_afterMissedTurn (missedTurns seat : ℕ) :
    nextActiveSeat BankruptcyPlayerState.status
      (bankruptcyPlayers (afterMissedTurn state missedTurns)) seat
      = nextActiveSeat (fun player => player.status) state.players seat := by
  refine nextActiveSeat_congr fun i => ?_
  rw [slotAt_bankruptcyPlayers, afterMissedTurn, slotAt_updateSlot]
  cases slotAt state.players i <;> split_ifs <;> rfl

theorem mergePlayers_afterMissedTurn (missedTurns : ℕ) :
    mergePlayers state.players (bankruptcyPlayers (afterMissedTurn state missedTurns))
      = some (afterMissedTurn state missedTurns) := by
  refine mergePlayers_bankruptcyPlayers _ _ fun i p _ => ?_
  split_ifs <;> exact ⟨rfl, rfl, rfl⟩

theorem mergePlayers_eliminated (missedTurns : ℕ) :
    mergePlayers state.players (bankruptcyPlayers (updateSlot state.turn.currentSeatIndex
        GameplayPlayerState.eliminate (afterMissedTurn state missedTurns)))
      = some (updateSlot state.turn.currentSeatIndex GameplayPlayerState.eliminate
        (afterMissedTurn state missedTurns)) := by
  simp only [afterMissedTurn, updateSlot, mapSlots_mapSlots]
  refine mergePlayers_bankruptcyPlayers _ _ fun i p _ => ?_
  split_ifs <;> exact ⟨rfl, rfl, rfl⟩

theorem transitionTimeoutForfeit_step {bankruptcy : BankruptcyResolution}
    {turn : Option TimeoutTurnState} (hc : IsCurrent state current) (hv : ValidActive state)
    (hnone : state.bankruptcyRequiredSeatIndex = none)
    (hdeadline : state.turn.deadlineAtMs ≤ nowMs) (hmissed : current.missedTurns = 2)
    (hbank : resolveBankruptcy (bankruptcyPlayers (afterMissedTurn state 3)) state.properties
      state.inventory state.bankCash state.turn.currentSeatIndex = .ok bankruptcy)
    (hturn : bankruptcy.endConditionMet = false → ∃ nextSeat,
      nextActiveSeat BankruptcyPlayerState.status bankruptcy.players
        state.turn.currentSeatIndex = some nextSeat ∧ ClockableTime nowMs ∧
      turn = some (freshClock nextSeat nowMs))
    (h : transitionTimeoutForfeit state current bankruptcy turn nowMs = .ok (state', events)) :
    TimeoutStep state current nowMs .handleTurnTimeout state' events := by
  obtain ⟨player, helim⟩ := eliminated_of_resolve hbank
  obtain rfl : player = { current with missedTurns := 3 } := by
    have hslot := helim.slot
    rw [afterMissedTurn, slotAt_updateSlot_self, hc.1] at hslot
    cases hslot
    rfl
  simp only [transitionTimeoutForfeit, helim.players_eq, mergePlayers_eliminated, bind_eq_ok,
    requireSome_eq_ok, Option.some.injEq, exists_eq_left', ite_eq_ok, pure_eq_ok,
    Prod.mk.injEq, Bool.not_eq_false, hc.seatIndex_eq hv, helim.transferred_eq] at h
  obtain ⟨hend, turn', hturn', next, hnext, rfl, rfl⟩ | ⟨hend, h⟩ := h
  · obtain ⟨nextSeat, hseat, htime, rfl⟩ := hturn hend
    cases hturn'
    rw [hnone]
    exact .forfeitContinued bankruptcy nextSeat next hdeadline hmissed helim hend hseat htime hnext
  · split at h
    · cases h
    next terminal hterm =>
      simp only [bind_eq_ok, requireSome_eq_ok, pure_eq_ok, Prod.mk.injEq,
        terminalEvents_eq_some] at h
      obtain ⟨_, ⟨winner, ranking, hwinner, hranking, rfl⟩, rfl, rfl⟩ := h
      simp only [deriveTimeoutForfeitTerminalOutcome, bind_eq_ok, require_eq_ok,
        exists_const] at hterm
      have hreason : terminal.reason = .timeoutForfeit := by
        obtain ⟨-, -, -, ranked, -, rfl⟩ := deriveRankedTerminalOutcome_eq_ok.1 hterm.2
        rfl
      rw [hreason]
      exact .forfeitFinished bankruptcy terminal winner ranking hdeadline hmissed helim hend
        hterm.2 hwinner hranking

theorem transitionTurnTimeout_step (hc : IsCurrent state current) (hv : ValidActive state)
    (hnone : state.bankruptcyRequiredSeatIndex = none)
    (hnow : IsSafeInteger nowMs ∧ 0 ≤ nowMs)
    (h : transitionTurnTimeout state current nowMs = .ok (state', events)) :
    TimeoutStep state current nowMs .handleTurnTimeout state' events := by
  have hplayer : ∀ player, slotAt state.toTimeout.players state.toTimeout.turn.currentSeatIndex
      = some player → player = current.toBankruptcyPlayerState := by
    intro player hp
    rw [ActiveGameplayAggregateState.toTimeout, slotAt_bankruptcyPlayers, hc.1] at hp
    cases hp
    rfl
  unfold transitionTurnTimeout at h
  split at h
  · cases h
  next missedTurns resolved _ _ _ turn hres =>
    obtain ⟨-, hdeadline, player, hp, ⟨next, hlt, hnext, hne, hsafe, hres⟩ |
      ⟨_, _, -, -, hres, -⟩⟩ := resolveTurnTimeout_eq_ok.1 hres
    · obtain rfl := hplayer player hp
      cases hres
      have hmissed := toTimeout_players_missed state (current.missedTurns + 1)
      simp only [ActiveGameplayAggregateState.toTimeout] at h hnext hne hmissed
      rw [hmissed, nextActiveSeat_afterMissedTurn] at hnext
      simp only [hmissed, mergePlayers_afterMissedTurn, bind_eq_ok, requireSome_eq_ok,
        Option.some.injEq, exists_eq_left', pure_eq_ok, Prod.mk.injEq] at h
      obtain ⟨nextPlayer, hslot, rfl, rfl⟩ := h
      exact .turnAdvanced ⟨freshClock next nowMs, .awaitingRoll⟩ nextPlayer hdeadline hlt
        ⟨next, hnext, hne, ⟨hnow.1, hnow.2, hsafe⟩, rfl⟩ hslot
    · cases hres
  next bankruptcy turn hres =>
    obtain ⟨-, hdeadline, player, hp, ⟨_, -, -, -, -, hres⟩ |
      ⟨bankruptcy', turn', htwo, hbank, hres, hend⟩⟩ := resolveTurnTimeout_eq_ok.1 hres
    · cases hres
    · obtain rfl := hplayer player hp
      cases hres
      have hmissed := toTimeout_players_missed state 3
      simp only [htwo, ActiveGameplayAggregateState.toTimeout] at hbank hmissed hend
      rw [hmissed] at hbank
      refine transitionTimeoutForfeit_step hc hv hnone hdeadline htwo hbank (fun hgo => ?_) h
      obtain ⟨hstop, -⟩ | ⟨-, next, hnext, hsafe, rfl⟩ := hend
      · rw [hgo] at hstop
        cases hstop
      · exact ⟨next, hnext, ⟨hnow.1, hnow.2, hsafe⟩, rfl⟩

/-- An accepted timer was admitted, came from the internal actor with no bankruptcy pending and,
but for the time limit itself, before the time limit, and did one of the listed things. -/
theorem transitionGameplayTimeout_step {command : GameplayTimeoutCommand} {expected : ℤ}
    {context : GameplayCommandContext}
    (h : transitionGameplayTimeout state command expected context = .ok (state', events)) :
    Admitted state expected context.nowMs ∧ context.actor = .internal ∧
      state.bankruptcyRequiredSeatIndex = none ∧
      (command ≠ .enforceGameTimeLimit →
        ∀ gameEndAtMs ∈ state.gameEndAtMs, context.nowMs < gameEndAtMs) ∧
      ∃ current, IsCurrent state current ∧
        TimeoutStep state current context.nowMs command state' events := by
  simp only [transitionGameplayTimeout, bind_eq_ok, require_eq_ok, exists_const,
    checkCommand_eq_ok] at h
  obtain ⟨⟨-, hadm⟩, hactor, hnone, hlimit, h⟩ := h
  refine ⟨hadm, hactor, hnone, hlimit, ?_⟩
  have hv := hadm.valid
  obtain ⟨current, hc, -⟩ := hv.exists_current
  refine ⟨current, hc, ?_⟩
  have hwarn : ∀ seconds, command.warningSeconds = some seconds →
      transitionTimeoutWarning state current seconds context.nowMs = .ok (state', events) →
      TimeoutStep state current context.nowMs command state' events := by
    intro seconds hcmd hw
    unfold transitionTimeoutWarning at hw
    split at hw
    · cases hw
    next turn hturn =>
      cases hw
      exact .warning command seconds turn hcmd hturn
  have hcur : ∀ timed, timedPlayer state = .ok timed → timed = current := by
    intro timed ht
    rw [timedPlayer, requireSome_eq_ok, activeGameplayPlayer_eq_some] at ht
    exact hc.unique ht
  cases command with
  | enforceGameTimeLimit =>
    simp only [transitionEnforceGameTimeLimit] at h
    split at h
    · cases h
    next terminal hterm =>
      simp only [bind_eq_ok, requireSome_eq_ok, pure_eq_ok, Prod.mk.injEq,
        terminalEvents_eq_some] at h
      obtain ⟨_, ⟨winner, ranking, hwinner, hranking, rfl⟩, rfl, rfl⟩ := h
      simp only [deriveTimeLimitTerminalOutcome, bind_eq_ok, require_eq_ok, requireSome_eq_ok,
        exists_const] at hterm
      obtain ⟨gameEndAtMs, hsome, -, -, hle, hterm⟩ := hterm
      have hreason : terminal.reason = .timeLimit := by
        obtain ⟨-, -, -, ranked, -, rfl⟩ := deriveRankedTerminalOutcome_eq_ok.1 hterm
        rfl
      rw [hreason]
      exact .timeLimit gameEndAtMs terminal winner ranking hsome hle hterm hwinner hranking
  | warnTurnThirtySeconds =>
    obtain ⟨timed, ht, h⟩ := bind_eq_ok.1 h
    exact hwarn .thirty rfl (hcur timed ht ▸ h)
  | warnTurnTenSeconds =>
    obtain ⟨timed, ht, h⟩ := bind_eq_ok.1 h
    exact hwarn .ten rfl (hcur timed ht ▸ h)
  | handleTurnTimeout =>
    obtain ⟨timed, ht, h⟩ := bind_eq_ok.1 h
    rw [hcur timed ht] at h
    exact transitionTurnTimeout_step hc hv hnone ⟨hadm.safe, hadm.now_nonneg⟩ h

end Inversion

end Pootown
