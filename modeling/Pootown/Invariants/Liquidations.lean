import Mathlib.Tactic
import Pootown.Invariants.TradeSwap

/-!
# Two ways of going bankrupt

A player leaves the game by declaring a pending bankruptcy, or by missing a third turn.  The two
transitions are written apart; they liquidate alike.

* `aboutToForfeit`: a pending bankruptcy turned into a turn about to be missed;
* `LiquidatedAlike`: two aggregates that differ in missed turns, and in why the game is over;
* `bankruptcies_liquidate_alike`.
-/

namespace Pootown

open Fallible Slots

/-- `state` with nothing pending, its current player at `phase` after two missed turns. -/
def aboutToForfeit (state : ActiveGameplayAggregateState) (phase : TurnPhase) :
    ActiveGameplayAggregateState :=
  { state with
    players := afterMissedTurn state 2
    turn := { state.turn with phase := phase }
    bankruptcyRequiredSeatIndex := none }

/-- The players without the count of the turns they missed. -/
def withoutMissedTurns (players : List (Option GameplayPlayerState)) :
    List (Option GameplayPlayerState) :=
  mapSlots (fun _ player => { player with missedTurns := 0 }) players

/-- Aggregates that differ in missed turns at most, and when finished in the reason. -/
inductive LiquidatedAlike : GameplayAggregateState → GameplayAggregateState → Prop
  | inProgress (declared forfeited : ActiveGameplayAggregateState) :
      withoutMissedTurns forfeited.players = withoutMissedTurns declared.players →
      forfeited = { declared with players := forfeited.players } →
      LiquidatedAlike (.inProgress declared) (.inProgress forfeited)
  | finished (declared forfeited : FinishedGameplayAggregateState) :
      withoutMissedTurns forfeited.players = withoutMissedTurns declared.players →
      forfeited.terminal.winnerSeatIndex = declared.terminal.winnerSeatIndex →
      forfeited.terminal.ranking = declared.terminal.ranking →
      forfeited = { declared with
        players := forfeited.players
        terminal := { declared.terminal with reason := forfeited.terminal.reason } } →
      LiquidatedAlike (.finished declared) (.finished forfeited)

section Alike

variable {state : ActiveGameplayAggregateState} {phase : TurnPhase} {seat : ℕ} {nowMs : ℤ}
  {declared forfeited : BankruptcyResolution} {player : GameplayPlayerState}

/-- The players of the current seat's third missed turn. -/
theorem afterMissedTurn_aboutToForfeit (state : ActiveGameplayAggregateState) (phase : TurnPhase)
    (missedTurns : ℕ) :
    afterMissedTurn (aboutToForfeit state phase) missedTurns
      = afterMissedTurn state missedTurns := by
  simp only [afterMissedTurn, aboutToForfeit, updateSlot, mapSlots_mapSlots]
  refine mapSlots_congr fun i p _ => ?_
  split_ifs <;> rfl

theorem withoutMissedTurns_eliminate (state : ActiveGameplayAggregateState) (missedTurns : ℕ) :
    withoutMissedTurns (updateSlot state.turn.currentSeatIndex GameplayPlayerState.eliminate
        (afterMissedTurn state missedTurns))
      = withoutMissedTurns (updateSlot state.turn.currentSeatIndex GameplayPlayerState.eliminate
        state.players) := by
  simp only [withoutMissedTurns, afterMissedTurn, updateSlot, mapSlots_mapSlots]
  refine mapSlots_congr fun i p _ => ?_
  split_ifs <;> rfl

/-- Missed turns count for nothing in the ranking. -/
theorem terminalPlayers_eliminate (state : ActiveGameplayAggregateState) (missedTurns : ℕ) :
    terminalPlayers (bankruptcyPlayers (updateSlot state.turn.currentSeatIndex
        GameplayPlayerState.eliminate (afterMissedTurn state missedTurns)))
      = terminalPlayers (bankruptcyPlayers (updateSlot state.turn.currentSeatIndex
        GameplayPlayerState.eliminate state.players)) := by
  simp only [terminalPlayers, bankruptcyPlayers, afterMissedTurn, updateSlot, mapSlots_mapSlots]
  refine mapSlots_congr fun i p _ => ?_
  split_ifs <;> rfl

/-- The seats still in play, as the terminal rules count them. -/
theorem activeSeatIndexes_eq_terminal (players : List (Option BankruptcyPlayerState)) :
    activeSeatIndexes players
      = (activePlayersOf (terminalPlayers players)).map TerminalPlayerState.seatIndex := by
  unfold activeSeatIndexes activePlayersOf terminalPlayers
  rw [occupants_mapSlots, List.filter_map, List.map_map]
  rfl

/-- The same elimination, counted as a third missed turn or not. -/
theorem Eliminated.alike (hd : Eliminated state seat state.players player declared)
    (hf : Eliminated (aboutToForfeit state phase) seat (afterMissedTurn state 3)
      { player with missedTurns := 3 } forfeited)
    (hseat : seat = state.turn.currentSeatIndex) :
    forfeited.properties = declared.properties ∧ forfeited.inventory = declared.inventory ∧
      forfeited.bankCash = declared.bankCash ∧
      terminalPlayers forfeited.players = terminalPlayers declared.players ∧
      forfeited.endConditionMet = declared.endConditionMet := by
  have hprops : forfeited.properties = declared.properties :=
    hf.properties_eq.trans hd.properties_eq.symm
  have hplayers : terminalPlayers forfeited.players = terminalPlayers declared.players := by
    rw [hf.players_eq, hd.players_eq, hseat, terminalPlayers_eliminate]
  refine ⟨hprops, ?_, ?_, hplayers, ?_⟩
  · -- the stock is what the board leaves of the whole
    obtain ⟨-, hhouses, hhotels⟩ := isValidBuildingInventory_iff.1 hf.stock
    obtain ⟨-, hhouses', hhotels'⟩ := isValidBuildingInventory_iff.1 hd.stock
    rw [hprops] at hhouses hhotels
    have hh : forfeited.inventory.housesRemaining = declared.inventory.housesRemaining := by omega
    have hk : forfeited.inventory.hotelsRemaining = declared.inventory.hotelsRemaining := by omega
    cases hi : forfeited.inventory
    cases hi' : declared.inventory
    rw [hi, hi'] at hh hk
    exact congrArg₂ BuildingInventory.mk hh hk
  · obtain ⟨liquidation, hpass, hvalue⟩ := hd.liquidated
    obtain ⟨liquidation', hpass', hvalue'⟩ := hf.liquidated
    obtain rfl : liquidation = liquidation' := Except.ok.inj (hpass.symm.trans hpass')
    rw [hf.bank_eq, hd.bank_eq, hvalue, hvalue']
    rfl
  · rw [hf.end_eq, hd.end_eq, activeSeatIndexes_eq_terminal, activeSeatIndexes_eq_terminal,
      hplayers]

/-- The next seat does not depend on whether the leaving player is still counted. -/
theorem nextActiveSeat_eliminate {next : ℕ} (missedTurns : ℕ)
    (h : nextActiveSeat (fun player => player.status) state.players state.turn.currentSeatIndex
      = some next) (hne : next ≠ state.turn.currentSeatIndex) :
    nextActiveSeat BankruptcyPlayerState.status (bankruptcyPlayers (updateSlot
        state.turn.currentSeatIndex GameplayPlayerState.eliminate
        (afterMissedTurn state missedTurns))) state.turn.currentSeatIndex
      = some next := by
  have hslot : ∀ i, i ≠ state.turn.currentSeatIndex →
      slotAt (bankruptcyPlayers (updateSlot state.turn.currentSeatIndex
        GameplayPlayerState.eliminate (afterMissedTurn state missedTurns))) i
        = (slotAt state.players i).map GameplayPlayerState.toBankruptcyPlayerState := by
    intro i hi
    rw [slotAt_bankruptcyPlayers, slotAt_updateSlot_of_ne hi, afterMissedTurn,
      slotAt_updateSlot_of_ne hi]
  obtain ⟨-, player, hplayer, hactive⟩ := nextActiveSeat_spec h
  refine cyclicNext_mono h (fun i hi => ?_) ?_
  · by_cases hcur : i = state.turn.currentSeatIndex
    · rw [hcur, slotAt_bankruptcyPlayers, slotAt_updateSlot_self] at hi
      simp only [Option.map_map, Option.any_map, Option.any_eq_true, Function.comp_apply,
        beq_iff_eq] at hi
      obtain ⟨out, -, hout⟩ := hi
      cases hout
    · rwa [hslot i hcur, Option.any_map] at hi
  · rw [hslot next hne, hplayer]
    exact beq_iff_eq.2 hactive

/-- Rankings for either reason are one ranking. -/
theorem deriveRankedTerminalOutcome_alike {players : List (Option TerminalPlayerState)}
    {properties : List PropertyState} {reason reason' : TerminalEndReason}
    {terminal terminal' : TerminalOutcome}
    (h : deriveRankedTerminalOutcome players properties reason nowMs = .ok terminal)
    (h' : deriveRankedTerminalOutcome players properties reason' nowMs = .ok terminal') :
    terminal' = { terminal with reason := terminal'.reason } := by
  obtain ⟨-, -, -, ranked, hranked, rfl⟩ := deriveRankedTerminalOutcome_eq_ok.1 h
  obtain ⟨-, -, -, ranked', hranked', rfl⟩ := deriveRankedTerminalOutcome_eq_ok.1 h'
  rw [hranked] at hranked'
  cases hranked'
  rfl

end Alike

/-! ### The two transitions -/

section Transitions

variable {state : ActiveGameplayAggregateState} {phase : TurnPhase} {current : GameplayPlayerState}
  {nowMs : ℤ} {declared forfeited : GameplayAggregateState}
  {events events' : List GameplayDomainEvent} {resolution : BankruptcyResolution}

theorem IsCurrent.aboutToForfeit (hc : IsCurrent state current) (phase : TurnPhase) :
    IsCurrent (aboutToForfeit state phase) { current with missedTurns := 2 } := by
  refine ⟨?_, hc.2⟩
  simp only [Pootown.aboutToForfeit, afterMissedTurn, slotAt_updateSlot_self, hc.1, Option.map_some]

/-- A declared bankruptcy and a third missed turn leave the same table. -/
theorem BankruptcyStep.alike (helim : Eliminated state state.turn.currentSeatIndex
      state.players current resolution)
    (hd : BankruptcyStep state current nowMs resolution declared events)
    (hf : TimeoutStep (aboutToForfeit state phase) { current with missedTurns := 2 } nowMs
      .handleTurnTimeout forfeited events') : LiquidatedAlike declared forfeited := by
  have hmissed := afterMissedTurn_aboutToForfeit state phase 3
  have hplayers := withoutMissedTurns_eliminate state 3
  cases hf with
  | warning _ seconds turn hseconds => cases hseconds
  | turnAdvanced turn next hdeadline hlt => exact absurd hlt (lt_irrefl 2)
  | forfeitContinued bankruptcy nextSeat next hdeadline htwo hout hend hnext htime hslot =>
    rw [hmissed] at hout hslot ⊢
    obtain ⟨hprops, hstock, hbank, -, hsame⟩ := helim.alike hout rfl
    cases hd with
    | finished terminal winner ranking hover =>
      rw [hsame, hover] at hend
      cases hend
    | continued turn _ hpass =>
      obtain ⟨seat, hseat, hne, -, rfl⟩ := hpass
      rw [hout.players_eq] at hnext
      obtain rfl : seat = nextSeat :=
        Option.some.inj ((nextActiveSeat_eliminate 3 hseat hne).symm.trans hnext)
      refine .inProgress _ _ hplayers ?_
      simp only [afterElimination, aboutToForfeit, hprops, hstock, hbank]
  | forfeitFinished bankruptcy terminal winner ranking hdeadline htwo hout hend hderive =>
    rw [hmissed] at hout ⊢
    obtain ⟨hprops, hstock, hbank, hterminal, hsame⟩ := helim.alike hout rfl
    cases hd with
    | continued turn hgo =>
      rw [hsame, hgo] at hend
      cases hend
    | finished terminal' winner' ranking' _ hderive' =>
      rw [hterminal, hprops] at hderive
      have halike := deriveRankedTerminalOutcome_alike hderive' hderive
      have hwinner : terminal.winnerSeatIndex = terminal'.winnerSeatIndex := by rw [halike]
      have hranking : terminal.ranking = terminal'.ranking := by rw [halike]
      refine .finished _ _ hplayers hwinner hranking ?_
      simp only [finishedElimination, finishState, aboutToForfeit, hprops, hstock, hbank]
      rw [← halike]

end Transitions

/-- Declaring a pending bankruptcy and being timed out of the same position at the same time leave
the same aggregate, up to missed turns and to the reason of a finished game. -/
theorem bankruptcies_liquidate_alike (state : ActiveGameplayAggregateState) (phase : TurnPhase)
    (expected expected' : ℤ) (context context' : GameplayCommandContext)
    (declared forfeited : GameplayAggregateState) (events events' : List GameplayDomainEvent)
    (hnow : context'.nowMs = context.nowMs)
    (hdeclared : transitionGameplay (.inProgress state) ⟨expected, .declareBankruptcy⟩ context
      = .ok (declared, events))
    (hforfeited : transitionGameplay (.inProgress (aboutToForfeit state phase))
      ⟨expected', .timeout .handleTurnTimeout⟩ context' = .ok (forfeited, events')) :
    LiquidatedAlike declared forfeited := by
  obtain ⟨-, hstep⟩ := transitionGameplay_step hdeclared
  obtain ⟨-, hstep'⟩ := transitionGameplay_step hforfeited
  cases hstep with
  | bankruptcy current resolution _ _ _ hc helim hd =>
    cases hstep' with
    | timeout _ current' _ _ _ _ _ hc' hf =>
      obtain rfl := hc'.unique (hc.aboutToForfeit phase)
      rw [hnow] at hf
      exact hd.alike helim hf

/-- Alice owes what she does not have to a table of three, with a house on space 1. -/
def aliceInDebt : Option GameplayAggregateState :=
  (initializeGameplayAggregate twoPlayerLobby).map fun state => .inProgress { state with
    players := (updateSlot 0 (fun alice => { alice with cash := 7 }) state.players).set 2
      ((slotAt state.players 1).map fun bob => { bob with seatIndex := 2, playerId := "carol" })
    properties := state.properties.set 1 ⟨1, some 0, 1, false, false⟩
    housesRemaining := 31
    turn := { state.turn with phase := .awaitingBankruptcy }
    bankruptcyRequiredSeatIndex := some 0 }

/-- She declares it, or lets a roll time out instead. -/
theorem bankruptcies_liquidate_alike_inDebt : ∃ state declared forfeited events events',
    aliceInDebt = some (.inProgress state) ∧
    transitionGameplay (.inProgress state) (plays "alice" .declareBankruptcy 1 90000).1
      (plays "alice" .declareBankruptcy 1 90000).2 = .ok (.inProgress declared, events) ∧
    transitionGameplay (.inProgress (aboutToForfeit state .awaitingRoll))
      (timer .handleTurnTimeout 1 90000).1 (timer .handleTurnTimeout 1 90000).2
      = .ok (.inProgress forfeited, events') ∧
    LiquidatedAlike (.inProgress declared) (.inProgress forfeited) := by
  obtain ⟨state, declared, events, hstart, hdeclared, hcheck⟩ := exists_of_acceptedWith aliceInDebt
    (plays "alice" .declareBankruptcy 1 90000)
    (fun state declared _ => inProgressWith (some declared) (fun _ => true) &&
      acceptedWith (some (.inProgress (aboutToForfeit state .awaitingRoll)))
        (timer .handleTurnTimeout 1 90000)
        fun _ forfeited _ => inProgressWith (some forfeited) fun _ => true) (by decide +kernel)
  obtain ⟨hplaying, haccepted⟩ := (Bool.and_eq_true _ _).mp hcheck
  obtain ⟨_, forfeited, events', hsame, hforfeited, hplaying'⟩ :=
    exists_of_acceptedWith _ _ _ haccepted
  cases hsame
  obtain ⟨declared, hd, -⟩ := exists_of_inProgressWith _ _ hplaying
  obtain ⟨forfeited, hf, -⟩ := exists_of_inProgressWith _ _ hplaying'
  cases hd
  cases hf
  exact ⟨state, declared, forfeited, events, events', hstart, hdeclared, hforfeited,
    bankruptcies_liquidate_alike state .awaitingRoll 1 1
      (plays "alice" .declareBankruptcy 1 90000).2 (timer .handleTurnTimeout 1 90000).2 _ _
      events events' rfl hdeclared hforfeited⟩

end Pootown
