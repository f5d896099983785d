import Mathlib.Tactic
import Pootown.Model.Commands
import Pootown.Serialization.Fields

/-!
# The contract of a published game

What the clients of a room are told of a game, and the schema that every message is held to.  The
schema restates the rules of the game on the published text: it knows nothing of the aggregate.

* `GameplayPublicState` and its parts;
* `Conforms`, for each part and for the whole: the checks of the schema.

Literals (the schema version, the ruleset, the status of an open trade) are left to the types.
-/

namespace Pootown.Contracts

open Slots

/-! ### Primitive fields -/

/-- The longest run of digits in an amount is one of 78. -/
abbrev IsCashString (text : String) : Prop := Snapshot.isCanonicalDecimal text = true

abbrev IsOpaqueId (text : String) : Prop := validOpaqueId text = true

abbrev IsEpochMs (time : ℤ) : Prop := 0 ≤ time ∧ time ≤ 9007199254740991

abbrev IsStateVersion (version : ℤ) : Prop := 0 ≤ version ∧ version ≤ 2147483647

abbrev IsBoardPosition (position : ℕ) : Prop := position ≤ 39

abbrev IsSeatIndex (seatIndex : ℕ) : Prop := seatIndex ≤ 3

/-! ### Dice -/

structure DiceResult where
  dieOne : ℕ
  dieTwo : ℕ
  total : ℕ
  isDoubles : Bool
  deriving DecidableEq

abbrev DiceResult.Conforms (dice : DiceResult) : Prop :=
  (1 ≤ dice.dieOne ∧ dice.dieOne ≤ 6) ∧ (1 ≤ dice.dieTwo ∧ dice.dieTwo ≤ 6) ∧
  (2 ≤ dice.total ∧ dice.total ≤ 12) ∧ dice.total = dice.dieOne + dice.dieTwo ∧
  dice.isDoubles = (dice.dieOne == dice.dieTwo)

/-! ### Players -/

structure GameplayPlayerPublicState where
  seatIndex : ℕ
  playerId : String
  status : PlayerStatus
  cash : String
  position : ℕ
  inJail : Bool
  jailTurns : ℕ
  consecutiveDoubles : ℕ
  missedTurns : ℕ
  getOutOfJailCards : ℕ
  ownedPropertyPositions : List ℕ
  deriving DecidableEq

def GameplayPlayerPublicState.Conforms (player : GameplayPlayerPublicState) : Prop :=
  IsSeatIndex player.seatIndex ∧ IsOpaqueId player.playerId ∧ IsCashString player.cash ∧
  IsBoardPosition player.position ∧ player.jailTurns ≤ 3 ∧ player.consecutiveDoubles ≤ 2 ∧
  player.missedTurns ≤ 3 ∧ player.getOutOfJailCards ≤ 255 ∧
  (∀ position ∈ player.ownedPropertyPositions, IsBoardPosition position) ∧
  player.ownedPropertyPositions.length ≤ 40

instance (player : GameplayPlayerPublicState) : Decidable player.Conforms := by
  unfold GameplayPlayerPublicState.Conforms
  infer_instance

/-! ### The board -/

inductive BoardSpacePublicState
  | ownable (position : ℕ) (kind : PropertyType) (ownerId : Option String) (mortgaged : Bool)
      (houses : ℕ) (hasHotel : Bool)
  | nonOwnable (position : ℕ) (kind : PropertyType)
  deriving DecidableEq

namespace BoardSpacePublicState

def position : BoardSpacePublicState → ℕ
  | ownable position _ _ _ _ _ => position
  | nonOwnable position _ => position

def kind : BoardSpacePublicState → PropertyType
  | ownable _ kind _ _ _ _ => kind
  | nonOwnable _ kind => kind

/-- The owner the space names, if it can have one. -/
def ownerId : BoardSpacePublicState → Option String
  | ownable _ _ ownerId _ _ _ => ownerId
  | nonOwnable _ _ => none

def Conforms : BoardSpacePublicState → Prop
  | ownable position kind ownerId mortgaged houses hasHotel =>
    IsBoardPosition position ∧ (kind = .street ∨ kind = .railroad ∨ kind = .utility) ∧
    (∀ id ∈ ownerId, IsOpaqueId id) ∧ houses ≤ 4 ∧
    -- only streets can contain buildings, and a hotel replaces all houses
    (kind ≠ .street → houses = 0 ∧ hasHotel = false) ∧ (hasHotel = true → houses = 0) ∧
    -- unowned spaces cannot be developed or mortgaged
    (ownerId = none → mortgaged = false ∧ houses = 0 ∧ hasHotel = false)
  | nonOwnable position kind =>
    IsBoardPosition position ∧
    (kind = .tax ∨ kind = .chance ∨ kind = .communityChest ∨ kind = .corner)

instance (space : BoardSpacePublicState) : Decidable space.Conforms := by
  cases space <;> unfold Conforms <;> infer_instance

end BoardSpacePublicState

/-- The kind of space the schema expects at a position. -/
def expectedKind (index : ℕ) : PropertyType :=
  if index ∈ [1, 3, 6, 8, 9, 11, 13, 14, 16, 18, 19, 21, 23, 24, 26, 27, 29, 31, 32, 34, 37, 39]
  then .street
  else if index ∈ [5, 15, 25, 35] then .railroad
  else if index ∈ [12, 28] then .utility
  else if index ∈ [4, 38] then .tax
  else if index ∈ [7, 22, 36] then .chance
  else if index ∈ [2, 17, 33] then .communityChest
  else .corner

/-! ### The turn -/

inductive GameplayTurnState
  | notStarted
  | active (phase : TurnPhase) (currentSeatIndex : ℕ) (startedAtMs deadlineAtMs : ℤ)
  | finished
  deriving DecidableEq

def GameplayTurnState.Conforms : GameplayTurnState → Prop
  | active phase currentSeatIndex startedAtMs deadlineAtMs =>
    IsSeatIndex currentSeatIndex ∧ IsEpochMs startedAtMs ∧ IsEpochMs deadlineAtMs ∧
    ∀ position ∈ phase.propertyPosition, IsBoardPosition position
  | _ => True

instance (turn : GameplayTurnState) : Decidable turn.Conforms := by
  cases turn <;> unfold GameplayTurnState.Conforms <;> infer_instance

/-! ### Trades -/

/-- Trade terms as they are published, without a proposer or a receiver. -/
structure TermsPublicState where
  tradeType : TradeType
  offeredCash : String
  requestedCash : String
  offeredPropertyPosition : Option ℕ
  requestedPropertyPosition : Option ℕ
  deriving DecidableEq

/-- The `validShape` of the schema: the terms match the trade type. -/
def TermsPublicState.ValidShape (terms : TermsPublicState) : Prop :=
  match terms.tradeType with
  | .moneyOnly =>
    terms.offeredPropertyPosition = none ∧ terms.requestedPropertyPosition = none ∧
    (terms.offeredCash ≠ "0" ∨ terms.requestedCash ≠ "0")
  | .propertyOnly =>
    terms.offeredCash = "0" ∧ terms.requestedCash = "0" ∧
    (terms.offeredPropertyPosition ≠ none ∨ terms.requestedPropertyPosition ≠ none)
  | .moneyForProperty =>
    terms.offeredCash ≠ "0" ∧ terms.requestedCash = "0" ∧
    terms.offeredPropertyPosition = none ∧ terms.requestedPropertyPosition ≠ none
  | .propertyForMoney =>
    terms.offeredCash = "0" ∧ terms.requestedCash ≠ "0" ∧
    terms.offeredPropertyPosition ≠ none ∧ terms.requestedPropertyPosition = none

instance (terms : TermsPublicState) : Decidable terms.ValidShape := by
  unfold TermsPublicState.ValidShape
  split <;> infer_instance

abbrev TermsPublicState.Conforms (terms : TermsPublicState) : Prop :=
  IsCashString terms.offeredCash ∧ IsCashString terms.requestedCash ∧
  (∀ position ∈ terms.offeredPropertyPosition, IsBoardPosition position) ∧
  (∀ position ∈ terms.requestedPropertyPosition, IsBoardPosition position) ∧ terms.ValidShape

structure TradePublicState extends TermsPublicState where
  tradeId : String
  proposerId : String
  receiverId : String
  createdAtMs : ℤ
  expiresAtMs : ℤ
  deriving DecidableEq

def TradePublicState.Conforms (trade : TradePublicState) : Prop :=
  IsOpaqueId trade.tradeId ∧ IsOpaqueId trade.proposerId ∧ IsOpaqueId trade.receiverId ∧
  IsEpochMs trade.createdAtMs ∧ IsEpochMs trade.expiresAtMs ∧
  trade.toTermsPublicState.Conforms ∧ trade.proposerId ≠ trade.receiverId ∧
  trade.createdAtMs ≤ trade.expiresAtMs ∧
  -- the same property cannot be offered by both sides
  (trade.offeredPropertyPosition ≠ none →
    trade.offeredPropertyPosition ≠ trade.requestedPropertyPosition)

instance (trade : TradePublicState) : Decidable trade.Conforms := by
  unfold TradePublicState.Conforms
  infer_instance

/-! ### The end of a game -/

structure RankingEntryPublicState where
  rank : ℕ
  seatIndex : ℕ
  playerId : String
  netWorth : String
  deriving DecidableEq

abbrev RankingEntryPublicState.Conforms (entry : RankingEntryPublicState) : Prop :=
  (1 ≤ entry.rank ∧ entry.rank ≤ 4) ∧ IsSeatIndex entry.seatIndex ∧ IsOpaqueId entry.playerId ∧
  IsCashString entry.netWorth

inductive SettlementStatus
  | pending | submitted | settled
  deriving DecidableEq

structure SettlementEntitlementPublicState where
  winnerId : String
  status : SettlementStatus
  deriving DecidableEq

structure GameplayTerminalState where
  reason : TerminalEndReason
  winnerId : String
  endedAtMs : ℤ
  ranking : List RankingEntryPublicState
  settlementEntitlement : SettlementEntitlementPublicState
  deriving DecidableEq

def GameplayTerminalState.Conforms (terminal : GameplayTerminalState) : Prop :=
  IsOpaqueId terminal.winnerId ∧ IsEpochMs terminal.endedAtMs ∧
  (1 ≤ terminal.ranking.length ∧ terminal.ranking.length ≤ 4) ∧
  (∀ entry ∈ terminal.ranking, entry.Conforms) ∧
  IsOpaqueId terminal.settlementEntitlement.winnerId ∧
  -- winner must be the first ranked player
  (terminal.ranking.head?.map RankingEntryPublicState.rank = some 1 ∧
    terminal.ranking.head?.map RankingEntryPublicState.playerId = some terminal.winnerId) ∧
  terminal.settlementEntitlement.winnerId = terminal.winnerId ∧
  ((terminal.ranking.map RankingEntryPublicState.rank).Nodup ∧
    (terminal.ranking.map RankingEntryPublicState.playerId).Nodup) ∧
  -- terminal ranking must be contiguous and ordered
  everyIdx (fun index entry => decide (entry.rank = index + 1)) terminal.ranking = true

instance (terminal : GameplayTerminalState) : Decidable terminal.Conforms := by
  unfold GameplayTerminalState.Conforms
  infer_instance

/-! ### The whole -/

structure GameplayPublicState where
  stateVersion : ℤ
  gameId : String
  seats : List (Option GameplayPlayerPublicState)
  board : List BoardSpacePublicState
  turn : GameplayTurnState
  activeTrades : List TradePublicState
  lastDice : Option DiceResult
  terminal : Option GameplayTerminalState
  deriving DecidableEq

namespace GameplayPublicState

def playerIds (state : GameplayPublicState) : List String :=
  (occupants state.seats).map GameplayPlayerPublicState.playerId

/-- The positions the board shows as owned by a player. -/
def derivedPositions (state : GameplayPublicState) (playerId : String) : List ℕ :=
  state.board.filterMap fun space =>
    if space.ownerId = some playerId then some space.position else none

/-- The owned positions of a player match the ownership on the board. -/
abbrev OwnershipMatches (state : GameplayPublicState) (player : GameplayPlayerPublicState) : Prop :=
  (state.derivedPositions player.playerId).length = player.ownedPropertyPositions.length ∧
  ∀ position ∈ state.derivedPositions player.playerId, position ∈ player.ownedPropertyPositions

/-- A running turn is of an active seat, and its deadline does not predate its start. -/
def TurnMatches (state : GameplayPublicState) : Prop :=
  match state.turn with
  | .active _ currentSeatIndex startedAtMs deadlineAtMs =>
    (∃ player ∈ slotAt state.seats currentSeatIndex, player.status = .active) ∧
    startedAtMs ≤ deadlineAtMs
  | _ => True

instance (state : GameplayPublicState) : Decidable state.TurnMatches := by
  unfold TurnMatches
  split <;> infer_instance

/-- The checks of the schema on the fields. -/
@[mk_iff]
structure FieldsConform (state : GameplayPublicState) : Prop where
  stateVersion : IsStateVersion state.stateVersion
  gameId : IsOpaqueId state.gameId
  length_seats : state.seats.length = 4
  players : ∀ player ∈ occupants state.seats, player.Conforms
  length_board : state.board.length = 40
  spaces : ∀ space ∈ state.board, space.Conforms
  turn : state.turn.Conforms
  length_trades : state.activeTrades.length ≤ 20
  trades : ∀ trade ∈ state.activeTrades, trade.Conforms
  lastDice : ∀ dice ∈ state.lastDice, dice.Conforms
  terminal : ∀ terminal ∈ state.terminal, terminal.Conforms

/-- The checks of the schema of the fields against each other. -/
@[mk_iff]
structure PartsAgree (state : GameplayPublicState) : Prop where
  playerIds : state.playerIds.Nodup
  seatIndices : everySlot (fun index player => decide (player.seatIndex = index)) state.seats = true
  owned : ∀ player ∈ occupants state.seats, player.ownedPropertyPositions.Nodup
  positions : everyIdx (fun index space => decide (space.position = index)) state.board = true
  owners : ∀ space ∈ state.board, ∀ id ∈ space.ownerId, id ∈ state.playerIds
  kinds : everyIdx (fun index space => decide (space.kind = expectedKind index)) state.board = true
  ownership : ∀ player ∈ occupants state.seats, state.OwnershipMatches player
  participants : ∀ trade ∈ state.activeTrades,
    trade.proposerId ∈ state.playerIds ∧ trade.receiverId ∈ state.playerIds
  turnMatches : state.TurnMatches
  ending : state.turn = .finished ↔ state.terminal ≠ none
  ranked : ∀ terminal ∈ state.terminal, ∀ entry ∈ terminal.ranking, entry.playerId ∈ state.playerIds

instance (state : GameplayPublicState) : Decidable state.FieldsConform :=
  decidable_of_iff' _ state.fieldsConform_iff

instance (state : GameplayPublicState) : Decidable state.PartsAgree :=
  decidable_of_iff' _ state.partsAgree_iff

/-- `GameplayPublicStateSchema`. -/
abbrev Conforms (state : GameplayPublicState) : Prop := state.FieldsConform ∧ state.PartsAgree

end GameplayPublicState

end Pootown.Contracts
