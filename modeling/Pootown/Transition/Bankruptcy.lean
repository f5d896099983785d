import Mathlib.Tactic
import Pootown.Transition.Turn

/-!
# Bankruptcy transitions

The declared bankruptcy of the current player: the seat is liquidated, and the turn passes on or
the game ends with one player standing.

`finishState` and `eventRanking` are shared with the timeout transitions.
-/

namespace Pootown

open Fallible Slots

/-- `{ ...original, ...resolved }`, none when the seats do not match. -/
def mergePlayers (players : List (Option GameplayPlayerState))
    (resolved : List (Option BankruptcyPlayerState)) :
    Option (List (Option GameplayPlayerState)) :=
  mergeSlots (fun original resolved => { original with toBankruptcyPlayerState := resolved })
    players resolved

/-- The finished aggregate: no turn, no trades, no dice, a terminal record. -/
def finishState (state : ActiveGameplayAggregateState)
    (players : List (Option GameplayPlayerState)) (properties : List PropertyState)
    (bankCash : ℤ) (inventory : BuildingInventory) (terminal : TerminalOutcome) :
    FinishedGameplayAggregateState :=
  { state with
    stateVersion := state.stateVersion + 1
    players := players
    properties := properties
    bankCash := bankCash
    housesRemaining := inventory.housesRemaining
    hotelsRemaining := inventory.hotelsRemaining
    activeTrades := []
    lastDice := none
    terminal := terminal }

/-- The ranking with player ids, none when a ranked seat is empty. -/
def eventRanking (players : List (Option GameplayPlayerState))
    (ranking : List TerminalRankingEntry) : Option (List GameEndRankingEntry) :=
  ranking.mapM fun entry => (slotAt players entry.seatIndex).map fun player =>
    ⟨entry.rank, entry.seatIndex, entry.netWorth, player.playerId⟩

/-- The active winner of a terminal record. -/
def terminalWinner (players : List (Option GameplayPlayerState)) (terminal : TerminalOutcome) :
    Option GameplayPlayerState :=
  (slotAt players terminal.winnerSeatIndex).filter fun player => player.status = .active

/-- The trades the seat takes no part in. -/
def tradesWithout (seat : ℕ) (trades : List PendingTrade) : List PendingTrade :=
  trades.filter fun trade =>
    decide (trade.proposerSeatIndex ≠ seat ∧ trade.receiverSeatIndex ≠ seat)

def transitionGameplayBankruptcy (state : ActiveGameplayAggregateState)
    (expectedStateVersion : ℤ) (context : GameplayCommandContext) :
    GameplayAggregateTransitionResult := do
  checkCommand state true expectedStateVersion context.nowMs
  let current ← requireSome (activeGameplayPlayer state)
    (reject state .invalidState "turn does not reference an active player")
  require (context.actor = .player current.playerId)
    (reject state .unauthorizedActor "actor cannot declare this bankruptcy")
  require (state.turn.phase = .awaitingBankruptcy ∧
      state.bankruptcyRequiredSeatIndex = some current.seatIndex)
    (reject state .invalidPhase "bankruptcy is not pending for the current player")
  match resolveBankruptcy (bankruptcyPlayers state.players) state.properties state.inventory
      state.bankCash current.seatIndex with
  | .error code =>
    .error (reject state .invalidState ("bankruptcy resolution failed: " ++ code.text))
  | .ok resolution =>
    let players ← requireSome (mergePlayers state.players resolution.players)
      (reject state .invalidState "bankruptcy player mapping is inconsistent")
    let bankruptcyEvent : GameplayDomainEvent := .playerBankrupt current.playerId none
      resolution.liquidationValue resolution.cashTransferred
    if resolution.endConditionMet = false then
      let (turn, _) ← requireSome (advanceGameplayTurn state context.nowMs)
        (reject state .invalidState "no next active player is available")
      return (.inProgress { state with
        stateVersion := state.stateVersion + 1
        players := players
        properties := resolution.properties
        bankCash := resolution.bankCash
        housesRemaining := resolution.inventory.housesRemaining
        hotelsRemaining := resolution.inventory.hotelsRemaining
        turn := turn
        bankruptcyRequiredSeatIndex := none
        activeTrades := tradesWithout current.seatIndex state.activeTrades
        lastDice := none }, [bankruptcyEvent])
    else
      match deriveBankruptcyTerminalOutcome resolution context.nowMs with
      | .error code =>
        .error (reject state .invalidState ("terminal outcome failed: " ++ code.text))
      | .ok terminal =>
        let winner ← requireSome (terminalWinner players terminal)
          (reject state .invalidState "terminal winner is unavailable")
        let ranking ← requireSome (eventRanking players terminal.ranking)
          (reject state .invalidState "terminal ranking player is unavailable")
        return (.finished (finishState state players resolution.properties resolution.bankCash
            resolution.inventory terminal),
          [bankruptcyEvent, .gameEnded .lastPlayerStanding winner.playerId ranking,
            .settlementEntitled winner.playerId .lastPlayerStanding state.gameId])

/-! ### Elimination -/

/-- A player out of the game. -/
def GameplayPlayerState.eliminate (player : GameplayPlayerState) : GameplayPlayerState :=
  { player with toBankruptcyPlayerState := player.toBankruptcyPlayerState.eliminate }

/-- What the liquidation of `seat` makes of the players and the property table. -/
structure Eliminated (state : ActiveGameplayAggregateState) (seat : ℕ)
    (players : List (Option GameplayPlayerState)) (player : GameplayPlayerState)
    (resolution : BankruptcyResolution) : Prop where
  slot : slotAt players seat = some player
  active : player.status = .active
  players_eq : resolution.players
    = bankruptcyPlayers (updateSlot seat GameplayPlayerState.eliminate players)
  properties_eq : resolution.properties = releaseSeat seat state.properties
  stock : isValidBuildingInventory resolution.properties resolution.inventory = true
  liquidated : ∃ liquidation, liquidate seat state.properties = .ok liquidation ∧
    resolution.liquidationValue = liquidation.liquidationValue
  bank_eq : resolution.bankCash = state.bankCash + resolution.liquidationValue + player.cash
  bank_le : resolution.bankCash ≤ maxMatchCash
  value_nonneg : 0 ≤ resolution.liquidationValue
  value_le : resolution.liquidationValue ≤ 28000
  transferred_eq : resolution.cashTransferred = player.cash
  end_eq : resolution.endConditionMet
    = decide ((activeSeatIndexes resolution.players).length ≤ 1)

theorem bankruptcyPlayers_updateSlot (seat : ℕ) (f : GameplayPlayerState → GameplayPlayerState)
    (g : BankruptcyPlayerState → BankruptcyPlayerState)
    (hfg : ∀ p, (f p).toBankruptcyPlayerState = g p.toBankruptcyPlayerState)
    (players : List (Option GameplayPlayerState)) :
    bankruptcyPlayers (updateSlot seat f players)
      = updateSlot seat g (bankruptcyPlayers players) := by
  unfold bankruptcyPlayers updateSlot
  rw [mapSlots_mapSlots, mapSlots_mapSlots]
  refine mapSlots_congr fun i p _ => ?_
  split_ifs
  · exact hfg p
  · rfl

/-- A resolution over the players of an aggregate is an elimination of the seat. -/
theorem eliminated_of_resolve {state : ActiveGameplayAggregateState} {seat : ℕ}
    {players : List (Option GameplayPlayerState)} {resolution : BankruptcyResolution}
    (h : resolveBankruptcy (bankruptcyPlayers players) state.properties state.inventory
      state.bankCash seat = .ok resolution) :
    ∃ player, Eliminated state seat players player resolution := by
  obtain ⟨-, p, hp, hactive, hplayers, hprops, hstock, hbank, hmax, hlo, hhi, hcash, hend, -⟩ :=
    resolveBankruptcy_eq_ok h
  rw [slotAt_bankruptcyPlayers] at hp
  obtain ⟨player, hslot, rfl⟩ := Option.map_eq_some_iff.1 hp
  exact ⟨player, {
    slot := hslot
    active := hactive
    players_eq := by
      rw [hplayers, bankruptcyPlayers_updateSlot seat GameplayPlayerState.eliminate
        BankruptcyPlayerState.eliminate fun _ => rfl]
    properties_eq := hprops
    stock := hstock
    liquidated := resolveBankruptcy_liquidated h
    bank_eq := hbank
    bank_le := hmax
    value_nonneg := hlo
    value_le := hhi
    transferred_eq := hcash
    end_eq := hend }⟩

/-- Merging rewritten bankruptcy views back into the players they came from. -/
theorem mergePlayers_bankruptcyPlayers (f : ℕ → GameplayPlayerState → GameplayPlayerState)
    (players : List (Option GameplayPlayerState))
    (hid : ∀ i p, slotAt players i = some p → SameIdentity p (f i p)) :
    mergePlayers players (bankruptcyPlayers (mapSlots f players)) = some (mapSlots f players) := by
  unfold mergePlayers bankruptcyPlayers
  rw [mapSlots_mapSlots, mergeSlots_mapSlots]
  refine congrArg some (mapSlots_congr fun i p hp => ?_)
  obtain ⟨-, hplayerId, hjoined⟩ := hid i p hp
  cases hfp : f i p
  rw [hfp] at hplayerId hjoined
  simp only at hplayerId hjoined
  subst hplayerId hjoined
  rfl

/-! ### Accepted outcomes -/

section Steps

variable (state : ActiveGameplayAggregateState) (current : GameplayPlayerState) (nowMs : ℤ)

/-- The state after the elimination of the current seat from `players`, play going on. -/
def afterElimination (players : List (Option GameplayPlayerState))
    (resolution : BankruptcyResolution) (turn : ActiveGameplayAggregateTurn) :
    ActiveGameplayAggregateState :=
  { state with
    stateVersion := state.stateVersion + 1
    players := updateSlot state.turn.currentSeatIndex GameplayPlayerState.eliminate players
    properties := resolution.properties
    bankCash := resolution.bankCash
    housesRemaining := resolution.inventory.housesRemaining
    hotelsRemaining := resolution.inventory.hotelsRemaining
    turn := turn
    bankruptcyRequiredSeatIndex := none
    activeTrades := tradesWithout state.turn.currentSeatIndex state.activeTrades
    lastDice := none }

/-- The finished state after the elimination of the current seat from `players`. -/
def finishedElimination (players : List (Option GameplayPlayerState))
    (resolution : BankruptcyResolution) (terminal : TerminalOutcome) :
    FinishedGameplayAggregateState :=
  finishState state (updateSlot state.turn.currentSeatIndex GameplayPlayerState.eliminate players)
    resolution.properties resolution.bankCash resolution.inventory terminal

/-- The two events that end a game: the ranking, and the winner's claim under the game's id. -/
def endEvents (gameId : String) (reason : TerminalEndReason) (winner : GameplayPlayerState)
    (ranking : List GameEndRankingEntry) : List GameplayDomainEvent :=
  [.gameEnded reason winner.playerId ranking, .settlementEntitled winner.playerId reason gameId]

/-- The accepted outcomes of the current player's bankruptcy. -/
inductive BankruptcyStep (resolution : BankruptcyResolution) :
    GameplayAggregateState → List GameplayDomainEvent → Prop
  | continued (turn : ActiveGameplayAggregateTurn) : resolution.endConditionMet = false →
      PassesTurn state nowMs turn →
      BankruptcyStep resolution (.inProgress (afterElimination state state.players resolution turn))
        [.playerBankrupt current.playerId none resolution.liquidationValue current.cash]
  | finished (terminal : TerminalOutcome) (winner : GameplayPlayerState)
      (ranking : List GameEndRankingEntry) : resolution.endConditionMet = true →
      deriveRankedTerminalOutcome (terminalPlayers resolution.players) resolution.properties
        .lastPlayerStanding nowMs = .ok terminal →
      terminalWinner (updateSlot state.turn.currentSeatIndex GameplayPlayerState.eliminate
        state.players) terminal = some winner →
      eventRanking (updateSlot state.turn.currentSeatIndex GameplayPlayerState.eliminate
        state.players) terminal.ranking = some ranking →
      BankruptcyStep resolution (.finished (finishedElimination state state.players resolution
          terminal))
        (.playerBankrupt current.playerId none resolution.liquidationValue current.cash ::
          endEvents state.gameId .lastPlayerStanding winner ranking)

end Steps

/-- An accepted bankruptcy was admitted while pending, and liquidated the current seat. -/
theorem transitionGameplayBankruptcy_step {state : ActiveGameplayAggregateState}
    {state' : GameplayAggregateState} {expected : ℤ} {context : GameplayCommandContext}
    {events : List GameplayDomainEvent}
    (h : transitionGameplayBankruptcy state expected context = .ok (state', events)) :
    Admitted state expected context.nowMs ∧ state.turn.phase = .awaitingBankruptcy ∧
      ∃ current resolution, IsCurrent state current ∧
        context.actor = .player current.playerId ∧
        Eliminated state state.turn.currentSeatIndex state.players current resolution ∧
        BankruptcyStep state current context.nowMs resolution state' events := by
  simp only [transitionGameplayBankruptcy, bind_eq_ok, require_eq_ok, requireSome_eq_ok,
    exists_const, checkCommand_eq_ok, activeGameplayPlayer_eq_some] at h
  obtain ⟨⟨-, hadm⟩, current, hc, hactor, ⟨hphase, -⟩, h⟩ := h
  refine ⟨hadm, hphase, current, ?_⟩
  rw [hc.seatIndex_eq hadm.valid] at h
  split at h
  · cases h
  next resolution hres =>
    obtain ⟨player, helim⟩ := eliminated_of_resolve hres
    obtain rfl : player = current := hc.unique ⟨helim.slot, helim.active⟩
    refine ⟨resolution, hc, hactor, helim, ?_⟩
    have hmerge : mergePlayers state.players resolution.players = some (updateSlot
        state.turn.currentSeatIndex GameplayPlayerState.eliminate state.players) := by
      rw [helim.players_eq]
      refine mergePlayers_bankruptcyPlayers _ _ fun i p _ => ?_
      split_ifs <;> exact ⟨rfl, rfl, rfl⟩
    simp only [hmerge, helim.transferred_eq, bind_eq_ok, requireSome_eq_ok, Option.some.injEq,
      exists_eq_left', ite_eq_ok, pure_eq_ok, Prod.exists, Prod.mk.injEq,
      Bool.not_eq_false] at h
    obtain ⟨hend, turn, next, hadv, rfl, rfl⟩ | ⟨hend, h⟩ := h
    · exact .continued turn hend (advanceGameplayTurn_eq_some hadv)
    · split at h
      · cases h
      next terminal hterm =>
        simp only [bind_eq_ok, requireSome_eq_ok, pure_eq_ok, Prod.mk.injEq] at h
        obtain ⟨winner, hwinner, ranking, hranking, rfl, rfl⟩ := h
        simp only [deriveBankruptcyTerminalOutcome, bind_eq_ok, require_eq_ok,
          exists_const] at hterm
        exact .finished terminal winner ranking hend hterm.2.2 hwinner hranking

end Pootown
