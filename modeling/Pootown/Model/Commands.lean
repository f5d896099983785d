import Mathlib.Tactic
import Pootown.Library.Fallible
import Pootown.Model.Validity

/-!
# Commands, events and results

The commands a game accepts, the events it emits, the context a command is handled in, and the
result of a transition: the next state with its events, or a rejection that carries the state the
caller keeps.
-/

namespace Pootown

open Fallible Slots

/-! ### Commands -/

inductive GameplayTurnCommand
  | rollDice | resolveRandomDice | endTurn
  deriving DecidableEq

inductive BuildingType
  | house | hotel
  deriving DecidableEq

inductive GameplayPropertyCommand
  | buyProperty (position : ℕ)
  | declineProperty (position : ℕ)
  | payRent (position : ℕ)
  | buildHouse (position : ℕ)
  | buildHotel (position : ℕ)
  | sellBuilding (position : ℕ) (buildingType : BuildingType)
  | payMevTax
  | payPriorityFeeTax

inductive GameplayJailCommand
  | payJailFine | useJailCard
  deriving DecidableEq

inductive GameplayCardCommand
  | drawChanceCard
  | drawCommunityChestCard
  | resolveRandomCard (deck : CardDeck)

inductive GameplayTradeCommand
  | createTrade (receiverId : String) (terms : TradeTerms)
  | acceptTrade (tradeId : String)
  | rejectTrade (tradeId : String)
  | cancelTrade (tradeId : String)
  | cleanupExpiredTrades

inductive GameplayTimeoutCommand
  | warnTurnThirtySeconds | warnTurnTenSeconds | handleTurnTimeout | enforceGameTimeLimit
  deriving DecidableEq

/-- The type and payload of a command. -/
inductive GameplayCommandBody
  | turn (command : GameplayTurnCommand)
  | property (command : GameplayPropertyCommand)
  | jail (command : GameplayJailCommand)
  | card (command : GameplayCardCommand)
  | declareBankruptcy
  | trade (command : GameplayTradeCommand)
  | timeout (command : GameplayTimeoutCommand)

structure GameplayCommand where
  expectedStateVersion : ℤ
  body : GameplayCommandBody

inductive GameplayCommandActor
  | player (playerId : String)
  | internal
  deriving DecidableEq

structure GameplayCommandContext where
  actor : GameplayCommandActor
  nowMs : ℤ
  randomSource : RandomSource
  tradeId : Option String

/-! ### Events -/

inductive JailEntryReason
  | space | threeDoubles
  deriving DecidableEq

structure GameEndRankingEntry where
  rank : ℕ
  seatIndex : ℕ
  netWorth : ℤ
  playerId : String

inductive TradeType
  | moneyOnly | propertyOnly | moneyForProperty | propertyForMoney
  deriving DecidableEq

/-- Trade terms as an event reports them, absent amounts as zero. -/
structure TradeEventTerms where
  tradeType : TradeType
  offeredCash : ℤ
  requestedCash : ℤ
  offeredPropertyPosition : Option ℕ
  requestedPropertyPosition : Option ℕ

inductive GameplayDomainEvent
  | diceRolled (playerId : String) (dice : DiceRoll)
  | playerMoved (playerId : String) (fromPosition toPosition : ℕ) (passedGo : Bool)
      (salaryCollected : ℤ)
  | jailEntered (playerId : String) (reason : JailEntryReason)
  | jailExited (playerId : String) (method : JailReleaseMethod)
  | cardDrawn (playerId : String) (deck : CardDeck) (cardId : ℕ) (effect : CardEffect)
  | propertyPurchased (playerId : String) (position : ℕ) (price : ℤ)
  | propertyDeclined (playerId : String) (position : ℕ) (price : ℤ)
  | rentPaid (payerId ownerId : String) (position : ℕ) (amount : ℤ)
  | buildingBuilt (playerId : String) (position : ℕ) (buildingType : BuildingType)
      (houseCount : ℕ) (cost : ℤ)
  | buildingSold (playerId : String) (position : ℕ) (buildingType : BuildingType) (salePrice : ℤ)
  | taxPaid (playerId : String) (position : ℕ) (taxKind : TaxKind) (amount : ℤ)
  | playerBankrupt (playerId : String) (creditorId : Option String)
      (liquidationValue cashTransferred : ℤ)
  | gameEnded (reason : TerminalEndReason) (winnerId : String)
      (ranking : List GameEndRankingEntry)
  | settlementEntitled (winnerId : String) (reason : TerminalEndReason) (entitlementKey : String)
  | tradeCreated (tradeId proposerId receiverId : String) (terms : TradeEventTerms)
      (expiresAtMs : ℤ)
  | tradeAccepted (tradeId proposerId receiverId : String)
  | tradeRejected (tradeId rejecterId : String)
  | tradeCancelled (tradeId cancellerId : String)
  | tradeExpired (tradeId : String)
  | timeoutWarning (playerId : String) (remainingSeconds : TimeoutWarningSeconds)
  | timeoutPenalty (playerId : String) (missedTurns : ℕ)
  | forcedTurnEnd (timedOutPlayerId nextPlayerId : String)
  | timeoutForfeit (playerId : String) (totalMissedTurns : ℕ)

/-! ### Results -/

inductive GameCoreErrorCode
  | invalidCommand | invalidState | staleStateVersion | gameNotFound | gameAlreadyExists
  | gameNotWaiting | minimumPlayersNotMet | unauthorizedActor | playerAlreadyJoined
  | playerNotFound | gameFull | creatorCannotLeave | commandUnsupported | invalidPhase
  | propertyNotAvailable | insufficientCash | arithmeticOverflow
  deriving DecidableEq

structure GameCoreError where
  code : GameCoreErrorCode
  message : String
  retryable : Bool

/-- A rejected command: the state the caller keeps, and the error. -/
structure GameplayRejection where
  state : GameplayAggregateState
  error : GameCoreError

/-- The next state, still in progress, with its events; or a rejection. -/
abbrev GameplayTransitionResult :=
  Except GameplayRejection (ActiveGameplayAggregateState × List GameplayDomainEvent)

/-- The next state, possibly finished, with its events; or a rejection. -/
abbrev GameplayAggregateTransitionResult :=
  Except GameplayRejection (GameplayAggregateState × List GameplayDomainEvent)

def reject (state : ActiveGameplayAggregateState) (code : GameCoreErrorCode) (message : String)
    (retryable : Bool := false) : GameplayRejection :=
  ⟨.inProgress state, ⟨code, message, retryable⟩⟩

@[simp] theorem reject_state (state : ActiveGameplayAggregateState) (code : GameCoreErrorCode)
    (message : String) (retryable : Bool) :
    (reject state code message retryable).state = .inProgress state := rfl

/-- The checks every transition starts with: a valid state, a well-formed command at a time not
before the turn started, the expected version, and room for the next version. -/
def checkCommand (state : ActiveGameplayAggregateState) (validCommand : Bool)
    (expectedStateVersion nowMs : ℤ) : Except GameplayRejection Unit := do
  require (isValidActiveGameplayAggregateState state = true)
    (reject state .invalidState "gameplay aggregate is invalid")
  require (validCommand = true ∧ IsSafeInteger nowMs ∧ state.turn.startedAtMs ≤ nowMs ∧
    0 ≤ expectedStateVersion) (reject state .invalidCommand "command context is invalid")
  require (expectedStateVersion = state.stateVersion)
    (reject state .staleStateVersion "expected state version is stale" true)
  require (state.stateVersion < maxStateVersion)
    (reject state .invalidState "state version cannot advance")

/-- What `checkCommand` establishes. -/
structure Admitted (state : ActiveGameplayAggregateState) (expectedStateVersion nowMs : ℤ) :
    Prop where
  valid : ValidActive state
  safe : IsSafeInteger nowMs
  started_le : state.turn.startedAtMs ≤ nowMs
  expected_eq : expectedStateVersion = state.stateVersion
  version_lt : state.stateVersion < maxStateVersion

theorem checkCommand_eq_ok {state : ActiveGameplayAggregateState} {validCommand : Bool}
    {expectedStateVersion nowMs : ℤ} {u : Unit} :
    checkCommand state validCommand expectedStateVersion nowMs = .ok u ↔
      validCommand = true ∧ Admitted state expectedStateVersion nowMs := by
  simp only [checkCommand, bind_eq_ok, require_eq_ok, exists_const, isValidActive_iff]
  constructor
  · rintro ⟨hv, ⟨hcmd, hsafe, hstart, -⟩, heq, hlt⟩
    exact ⟨hcmd, hv, hsafe, hstart, heq, hlt⟩
  · rintro ⟨hcmd, hv, hsafe, hstart, heq, hlt⟩
    have hpos := hv.header.version.1
    exact ⟨hv, ⟨hcmd, hsafe, hstart, by omega⟩, heq, hlt⟩

theorem Admitted.now_nonneg {state : ActiveGameplayAggregateState}
    {expectedStateVersion nowMs : ℤ} (h : Admitted state expectedStateVersion nowMs) :
    0 ≤ nowMs :=
  h.valid.turn.turn_valid.1.2.2.1.trans h.started_le

theorem checkCommand_rejects (state : ActiveGameplayAggregateState) (validCommand : Bool)
    (expectedStateVersion nowMs : ℤ) :
    RejectsOnly (fun r => r.state = .inProgress state)
      (checkCommand state validCommand expectedStateVersion nowMs) :=
  .bind (.require rfl) fun _ => .bind (.require rfl) fun _ => .bind (.require rfl) fun _ =>
    .require rfl

/-! ### The current player -/

/-- `current` sits, active, on the current seat. -/
def IsCurrent (state : ActiveGameplayAggregateState) (current : GameplayPlayerState) : Prop :=
  slotAt state.players state.turn.currentSeatIndex = some current ∧ current.status = .active

theorem activeGameplayPlayer_eq_some {state : ActiveGameplayAggregateState}
    {current : GameplayPlayerState} :
    activeGameplayPlayer state = some current ↔ IsCurrent state current := by
  simp [activeGameplayPlayer, IsCurrent, Option.filter_eq_some_iff]

theorem ValidActive.exists_current {state : ActiveGameplayAggregateState}
    (h : ValidActive state) : ∃ current, IsCurrent state current ∧
      PhaseCoupled state.properties current state.turn.phase := by
  obtain ⟨current, hslot, hactive, hphase⟩ := h.turn.current
  exact ⟨current, ⟨hslot, hactive⟩, hphase⟩

namespace IsCurrent

variable {state : ActiveGameplayAggregateState} {current : GameplayPlayerState}
  (hc : IsCurrent state current)
include hc

theorem unique {other : GameplayPlayerState} (ho : IsCurrent state other) : other = current := by
  have := ho.1.symm.trans hc.1
  cases this
  rfl

theorem seatIndex_eq (h : ValidActive state) : current.seatIndex = state.turn.currentSeatIndex :=
  h.table.seatIndex_eq hc.1

theorem rules (h : ValidActive state) :
    ValidBankruptcyPlayer current.toBankruptcyPlayerState state.turn.currentSeatIndex :=
  (h.table.player _ _ hc.1).rules

theorem phase (h : ValidActive state) :
    PhaseCoupled state.properties current state.turn.phase := by
  obtain ⟨other, ho, hphase⟩ := h.exists_current
  rwa [hc.unique ho] at hphase

end IsCurrent

end Pootown
