import Mathlib.Tactic
import Pootown.Rules.Card
import Pootown.Rules.Terminal
import Pootown.Rules.Trade

/-!
# The gameplay aggregate

The persisted state of one game, in progress or finished, and its validators.

* `GameplayPlayerState`, `ActiveGameplayAggregateState`, `FinishedGameplayAggregateState`;
* `isValidActiveGameplayAggregateState`, `isValidFinishedGameplayAggregateState`: the checks run on
  every state before a command is applied or a checkpoint restored;
* `InProgressGameState`, `initializeGameplayAggregate`: the first aggregate of a started game.

Fields whose type admits one value (schema version, ruleset, lifecycle, the `null` terminal record
of a game in progress, the turn of a finished one) are left to the types.
-/

namespace Pootown

open Slots

/-! ### State -/

/-- A player: the record of the bankruptcy rules, with identity. -/
structure GameplayPlayerState extends BankruptcyPlayerState where
  playerId : String
  joinedAtMs : ℤ

inductive TaxKind
  | mev | priorityFee
  deriving DecidableEq

/-- What the current player has to do next. -/
inductive TurnPhase
  | awaitingRoll
  | awaitingPropertyDecision (propertyPosition : ℕ)
  | awaitingRentPayment (propertyPosition : ℕ)
  | awaitingCardDraw (deck : CardDeck)
  | awaitingTaxPayment (taxKind : TaxKind)
  | awaitingBankruptcy
  | awaitingEndTurn
  deriving DecidableEq

/-- The turn of a game in progress: its clock and its phase. -/
structure ActiveGameplayAggregateTurn extends TimeoutTurnState where
  phase : TurnPhase

/-- The fields an aggregate has in either lifecycle. -/
structure GameplayAggregateStateBase where
  stateVersion : ℤ
  gameId : String
  players : List (Option GameplayPlayerState)
  properties : List PropertyState
  bankCash : ℤ
  freeParkingPool : ℤ
  housesRemaining : ℕ
  hotelsRemaining : ℕ
  startedAtMs : ℤ
  gameEndAtMs : Option ℤ
  activeTrades : List PendingTrade
  lastDice : Option DiceRoll
  rng : RandomCheckpoint

structure ActiveGameplayAggregateState extends GameplayAggregateStateBase where
  turn : ActiveGameplayAggregateTurn
  bankruptcyRequiredSeatIndex : Option ℕ

structure FinishedGameplayAggregateState extends GameplayAggregateStateBase where
  terminal : TerminalOutcome

inductive GameplayAggregateState
  | inProgress (state : ActiveGameplayAggregateState)
  | finished (state : FinishedGameplayAggregateState)

/-! ### Views of the players -/

def bankruptcyPlayers (players : List (Option GameplayPlayerState)) :
    List (Option BankruptcyPlayerState) :=
  mapSlots (fun _ => GameplayPlayerState.toBankruptcyPlayerState) players

def GameplayPlayerState.toJail (player : GameplayPlayerState) : JailPlayerState :=
  ⟨player.cash, player.position, player.inJail, player.jailTurns, player.consecutiveDoubles,
    player.getOutOfJailCards⟩

def GameplayPlayerState.toCard (player : GameplayPlayerState) : CardPlayerState :=
  ⟨player.cash, player.position, player.getOutOfJailCards⟩

def GameplayPlayerState.toTrade (player : GameplayPlayerState) : TradePlayerState :=
  ⟨player.seatIndex, player.cash⟩

def tradePlayers (players : List (Option GameplayPlayerState)) :
    List (Option TradePlayerState) :=
  mapSlots (fun _ => GameplayPlayerState.toTrade) players

/-- The stock of an aggregate. -/
def GameplayAggregateStateBase.inventory (state : GameplayAggregateStateBase) :
    BuildingInventory :=
  ⟨state.housesRemaining, state.hotelsRemaining⟩

/-! ### Validity of an aggregate in progress -/

/-- The identity conditions on the occupant of a slot. -/
abbrev ValidPlayerSlot (startedAtMs : ℤ) (index : ℕ) (player : GameplayPlayerState) : Prop :=
  player.seatIndex = index ∧ validOpaqueId player.playerId = true ∧
  IsSafeInteger player.joinedAtMs ∧ 0 ≤ player.joinedAtMs ∧ player.joinedAtMs ≤ startedAtMs

def validGameplayPlayerSlots (players : List (Option GameplayPlayerState)) (startedAtMs : ℤ) :
    Bool :=
  everySlot (fun index player => decide (ValidPlayerSlot startedAtMs index player)) players &&
  decide (((occupants players).map GameplayPlayerState.playerId).Nodup)

/-- The board position a phase carries, if any. -/
def TurnPhase.propertyPosition : TurnPhase → Option ℕ
  | .awaitingPropertyDecision propertyPosition => some propertyPosition
  | .awaitingRentPayment propertyPosition => some propertyPosition
  | _ => none

/-- The `validTurn` of the aggregate: the clock, the warnings, and the payload of the phase. -/
abbrev ValidTurn (turn : ActiveGameplayAggregateTurn) : Prop :=
  ValidClock turn.toTimeoutTurnState ∧ turn.emittedWarnings.length ≤ 2 ∧
  (turn.emittedWarnings.length = 2 → turn.emittedWarnings = [.thirty, .ten]) ∧
  ∀ position ∈ turn.phase.propertyPosition, position < 40

/-- What a pending landing on a property requires: the current player stands on an ownable space
whose entry satisfies `owned`. -/
abbrev LandedOn (properties : List PropertyState) (current : GameplayPlayerState)
    (propertyPosition : ℕ) (owned : PropertyState → Prop) : Prop :=
  current.position = propertyPosition ∧
  ∃ property ∈ properties[propertyPosition]?, ∃ definition ∈ boardSpaces[propertyPosition]?,
    isOwnableSpace definition = true ∧ owned property

/-- The coupling of the phase to the current player's position and to ownership. -/
def PhaseCoupled (properties : List PropertyState) (current : GameplayPlayerState) :
    TurnPhase → Prop
  | .awaitingPropertyDecision propertyPosition =>
    LandedOn properties current propertyPosition fun property => property.ownerSeatIndex = none
  | .awaitingRentPayment propertyPosition =>
    LandedOn properties current propertyPosition fun property =>
      property.ownerSeatIndex ≠ none ∧ property.ownerSeatIndex ≠ some current.seatIndex ∧
        property.mortgaged = false
  | .awaitingCardDraw deck =>
    (properties[current.position]?).map PropertyState.position = some current.position ∧
    (boardSpaces[current.position]?).map BoardSpaceDefinition.propertyType =
      some (match deck with
        | .chance => PropertyType.chance
        | .communityChest => PropertyType.communityChest)
  | .awaitingTaxPayment taxKind =>
    (if current.position = GameplayPolicy.mevTaxPosition then some TaxKind.mev
      else if current.position = GameplayPolicy.priorityFeeTaxPosition then some TaxKind.priorityFee
      else none) = some taxKind
  | _ => True

instance (properties : List PropertyState) (current : GameplayPlayerState) (phase : TurnPhase) :
    Decidable (PhaseCoupled properties current phase) := by
  cases phase <;> unfold PhaseCoupled <;> infer_instance

/-- The checks on the fields both lifecycles share. -/
def validAggregateBase (state : GameplayAggregateStateBase) : Bool :=
  validOpaqueId state.gameId &&
  decide (1 ≤ state.stateVersion ∧ state.stateVersion ≤ maxStateVersion) &&
  decide (IsMatchCash state.freeParkingPool) &&
  decide (IsSafeInteger state.startedAtMs ∧ 0 ≤ state.startedAtMs) &&
  decide (∀ gameEndAtMs ∈ state.gameEndAtMs,
    IsSafeInteger gameEndAtMs ∧ state.startedAtMs ≤ gameEndAtMs) &&
  decide (ValidRandomCheckpoint state.rng) &&
  isValidBankruptcyState (bankruptcyPlayers state.players) state.properties state.inventory
    state.bankCash &&
  validGameplayPlayerSlots state.players state.startedAtMs

/-- A pending bankruptcy is the current seat's, and has its own phase. -/
def bankruptcyCoupled (bankruptcyRequiredSeatIndex : Option ℕ)
    (turn : ActiveGameplayAggregateTurn) : Bool :=
  match bankruptcyRequiredSeatIndex with
  | some seat => decide (seat = turn.currentSeatIndex ∧ turn.phase = .awaitingBankruptcy)
  | none => decide (turn.phase ≠ .awaitingBankruptcy)

theorem bankruptcyCoupled_iff {required : Option ℕ} {turn : ActiveGameplayAggregateTurn} :
    bankruptcyCoupled required turn = true ↔
      (required = none ∧ turn.phase ≠ .awaitingBankruptcy) ∨
      (required = some turn.currentSeatIndex ∧ turn.phase = .awaitingBankruptcy) := by
  cases required <;> simp [bankruptcyCoupled]

def isValidActiveGameplayAggregateState (state : ActiveGameplayAggregateState) : Bool :=
  validAggregateBase state.toGameplayAggregateStateBase &&
  decide (ValidTurn state.turn) &&
  decide (state.startedAtMs ≤ state.turn.startedAtMs) &&
  decide (∀ roll ∈ state.lastDice, ValidDice roll) &&
  decide (state.turn.phase ≠ .awaitingRoll → state.turn.phase ≠ .awaitingBankruptcy →
    state.lastDice ≠ none) &&
  (cleanupExpiredTrades state.activeTrades 0).isSome &&
  decide (∃ current ∈ slotAt state.players state.turn.currentSeatIndex,
    current.status = .active ∧ PhaseCoupled state.properties current state.turn.phase) &&
  bankruptcyCoupled state.bankruptcyRequiredSeatIndex state.turn

/-! ### Validity of a finished aggregate -/

/-- The view of a player the terminal rules take. -/
def GameplayPlayerState.toTerminal (player : GameplayPlayerState) : TerminalPlayerState :=
  player.toBankruptcyPlayerState.toTerminal

/-- The net worth ranking recomputed from players and properties. -/
def expectedRanking (players : List (Option GameplayPlayerState))
    (properties : List PropertyState) : Option (List RankedSeat) :=
  (netWorths properties (((occupants players).filter fun player => player.status = .active).map
    GameplayPlayerState.toTerminal)).map sortRanked

abbrev ValidTerminal (state : FinishedGameplayAggregateState) : Prop :=
  state.terminal.winnerSeatIndex < GameplayPolicy.maximumPlayers ∧
  IsSafeInteger state.terminal.endedAtMs ∧ state.startedAtMs ≤ state.terminal.endedAtMs ∧
  state.terminal.settlementEntitlement.winnerSeatIndex = state.terminal.winnerSeatIndex ∧
  (state.terminal.reason = .timeLimit →
    ∃ gameEndAtMs ∈ state.gameEndAtMs, gameEndAtMs ≤ state.terminal.endedAtMs)

def isValidFinishedGameplayAggregateState (state : FinishedGameplayAggregateState) : Bool :=
  validAggregateBase state.toGameplayAggregateStateBase &&
  decide (state.activeTrades = []) && decide (state.lastDice = none) &&
  decide (ValidTerminal state) &&
  let activePlayers := (occupants state.players).filter fun player => player.status = .active
  decide (activePlayers ≠ []) &&
  decide (state.terminal.reason = .lastPlayerStanding ∨ state.terminal.reason = .timeoutForfeit →
    activePlayers.length = 1) &&
  decide (∃ expected ∈ expectedRanking state.players state.properties,
    state.terminal.ranking = withRanks expected ∧
    expected.head?.map RankedSeat.seatIndex = some state.terminal.winnerSeatIndex)

/-- The validator of the lifecycle a state is in. -/
def isValidGameplayAggregateState : GameplayAggregateState → Bool
  | .inProgress state => isValidActiveGameplayAggregateState state
  | .finished state => isValidFinishedGameplayAggregateState state

/-! ### The first aggregate of a started game -/

structure PlayerSeat where
  seatIndex : ℕ
  playerId : String
  status : PlayerStatus
  cash : ℤ
  position : ℕ
  inJail : Bool
  joinedAtMs : ℤ

/-- The turn a lobby hands over. -/
structure InProgressTurn where
  currentSeatIndex : ℕ
  startedAtMs : ℤ
  deadlineAtMs : ℤ

/-- The lobby's state of a game that has just started. -/
structure InProgressGameState where
  stateVersion : ℤ
  gameId : String
  creatorId : String
  minimumPlayers : ℕ
  maximumPlayers : ℕ
  seats : List (Option PlayerSeat)
  bankCash : ℤ
  freeParkingPool : ℤ
  housesRemaining : ℕ
  hotelsRemaining : ℕ
  createdAtMs : ℤ
  startedAtMs : ℤ
  timeLimitMs : Option ℤ
  gameEndAtMs : Option ℤ
  turnTimeoutMs : ℤ
  turn : InProgressTurn
  rng : RandomCheckpoint

/-- The conditions on an occupied lobby seat. -/
abbrev ValidPlayerSeat (state : InProgressGameState) (index : ℕ) (seat : PlayerSeat) : Prop :=
  seat.seatIndex = index ∧ seat.status = .active ∧ validOpaqueId seat.playerId = true ∧
  seat.cash = GameplayPolicy.startingMatchCash ∧ seat.position = 0 ∧ seat.inJail = false ∧
  IsSafeInteger seat.joinedAtMs ∧ state.createdAtMs ≤ seat.joinedAtMs ∧
  index < state.maximumPlayers

def validLifecycleInput (state : InProgressGameState) : Bool :=
  validOpaqueId state.gameId && validOpaqueId state.creatorId &&
  decide (1 ≤ state.stateVersion ∧ state.stateVersion ≤ maxStateVersion) &&
  decide (state.minimumPlayers = GameplayPolicy.minimumPlayers) &&
  decide (GameplayPolicy.minimumPlayers ≤ state.maximumPlayers ∧
    state.maximumPlayers ≤ GameplayPolicy.maximumPlayers) &&
  decide (state.seats.length = GameplayPolicy.maximumPlayers) &&
  decide (state.bankCash = GameplayPolicy.startingBankCash ∧ state.freeParkingPool = 0) &&
  decide (state.housesRemaining = GameplayPolicy.totalHouses ∧
    state.hotelsRemaining = GameplayPolicy.totalHotels) &&
  decide (IsSafeInteger state.createdAtMs ∧ 0 ≤ state.createdAtMs ∧
    IsSafeInteger state.startedAtMs ∧ state.createdAtMs ≤ state.startedAtMs) &&
  decide (state.turnTimeoutMs = GameplayPolicy.turnTimeoutMs) &&
  decide (∀ timeLimitMs ∈ state.timeLimitMs, 1 ≤ timeLimitMs ∧ timeLimitMs ≤ 86400000) &&
  decide (state.gameEndAtMs = state.timeLimitMs.map fun timeLimitMs =>
    state.startedAtMs + timeLimitMs) &&
  decide (∀ gameEndAtMs ∈ state.gameEndAtMs, IsSafeInteger gameEndAtMs) &&
  decide (state.turn.startedAtMs = state.startedAtMs ∧ IsSafeInteger state.turn.deadlineAtMs ∧
    state.turn.deadlineAtMs = state.turn.startedAtMs + GameplayPolicy.turnTimeoutMs) &&
  decide (ValidRandomCheckpoint state.rng) &&
  everySlot (fun index seat => decide (ValidPlayerSeat state index seat)) state.seats &&
  decide (((occupants state.seats).map PlayerSeat.playerId).Nodup) &&
  decide (state.minimumPlayers ≤ (occupants state.seats).length) &&
  decide ((slotAt state.seats 0).map PlayerSeat.playerId = some state.creatorId) &&
  decide (state.turn.currentSeatIndex = 0)

/-- The player a lobby seat becomes. -/
def PlayerSeat.toPlayer (seat : PlayerSeat) : GameplayPlayerState where
  seatIndex := seat.seatIndex
  playerId := seat.playerId
  status := seat.status
  cash := seat.cash
  position := seat.position
  inJail := seat.inJail
  jailTurns := 0
  consecutiveDoubles := 0
  missedTurns := 0
  getOutOfJailCards := 0
  joinedAtMs := seat.joinedAtMs

def initializeGameplayAggregate (state : InProgressGameState) :
    Option ActiveGameplayAggregateState :=
  if validLifecycleInput state = false then none
  else some {
    stateVersion := state.stateVersion
    gameId := state.gameId
    players := mapSlots (fun _ => PlayerSeat.toPlayer) state.seats
    properties := createPropertyStates
    bankCash := state.bankCash
    freeParkingPool := state.freeParkingPool
    housesRemaining := state.housesRemaining
    hotelsRemaining := state.hotelsRemaining
    startedAtMs := state.startedAtMs
    gameEndAtMs := state.gameEndAtMs
    turn := {
      phase := .awaitingRoll
      currentSeatIndex := state.turn.currentSeatIndex
      startedAtMs := state.turn.startedAtMs
      deadlineAtMs := state.turn.deadlineAtMs
      emittedWarnings := [] }
    bankruptcyRequiredSeatIndex := none
    activeTrades := []
    lastDice := none
    rng := state.rng }

/-! ### Reading an aggregate -/

def gameplayPlayerById (players : List (Option GameplayPlayerState)) (playerId : String) :
    Option GameplayPlayerState :=
  (occupants players).find? fun player => player.playerId = playerId

/-- The current player, when their seat is active. -/
def activeGameplayPlayer (state : ActiveGameplayAggregateState) : Option GameplayPlayerState :=
  (slotAt state.players state.turn.currentSeatIndex).filter fun player => player.status = .active

end Pootown
