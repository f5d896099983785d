import Mathlib.Tactic
import Pootown.Contracts.GameplayState

/-!
# The contract of the events of a game

The events of an accepted command as the clients of the room, and the store, take them: amounts are
in text, a card names its effect, and the final ranking names the players.

* `GameplayEventPayload`, `GameplayEventPayload.Conforms`: one event;
* `GameplayDomainEventEnvelope`, `GameplayDomainEventEnvelope.Conforms`: the event with its id, its
  game, the version it led to and its time.
-/

namespace Pootown.Contracts

open Slots

/-! ### Payloads -/

inductive GameplayEventPayload
  | diceRolled (playerId : String) (dice : DiceResult)
  | playerMoved (playerId : String) (fromPosition toPosition : ℕ) (passedGo : Bool)
      (salaryCollected : String)
  | propertyPurchased (playerId : String) (position : ℕ) (price : String)
  | propertyDeclined (playerId : String) (position : ℕ) (price : String)
  | rentPaid (payerId ownerId : String) (position : ℕ) (amount : String)
  | buildingBuilt (playerId : String) (position : ℕ) (buildingType : BuildingType)
      (houseCount : ℕ) (cost : String)
  | buildingSold (playerId : String) (position : ℕ) (buildingType : BuildingType)
      (salePrice : String)
  | cardDrawn (playerId : String) (deck : CardDeck) (cardId : ℕ) (effect : CardEffect)
  | jailEntered (playerId : String) (reason : JailEntryReason)
  | jailExited (playerId : String) (method : JailReleaseMethod)
  | taxPaid (playerId : String) (position : ℕ) (taxKind : TaxKind) (amount : String)
  | tradeCreated (tradeId proposerId receiverId : String) (terms : TermsPublicState)
      (expiresAtMs : ℤ)
  | tradeAccepted (tradeId proposerId receiverId : String)
  | tradeRejected (tradeId rejecterId : String)
  | tradeCancelled (tradeId cancellerId : String)
  | tradeExpired (tradeId : String)
  | playerBankrupt (playerId : String) (creditorId : Option String)
      (liquidationValue cashTransferred : String)
  | timeoutWarning (playerId : String) (remainingSeconds : TimeoutWarningSeconds)
  | timeoutPenalty (playerId : String) (missedTurns : ℕ)
  | forcedTurnEnd (timedOutPlayerId nextPlayerId : String)
  | timeoutForfeit (playerId : String) (totalMissedTurns : ℕ)
  | gameEnded (reason : TerminalEndReason) (winnerId : String)
      (ranking : List RankingEntryPublicState)
  | settlementEntitled (winnerId : String) (reason : TerminalEndReason) (entitlementKey : String)
  deriving DecidableEq

/-- The effects of the cards of a deck, by their ids from one. -/
def cardEffects : CardDeck → List CardEffect
  | .chance => [.moveToNearest, .money, .money, .move, .getOutOfJailFree]
  | .communityChest => [.collectFromPlayers, .money, .move, .repairFree, .money]

/-- The pattern `^[A-Za-z0-9][A-Za-z0-9_.:-]*$` of at most 128 characters. -/
def isEntitlementKey (key : String) : Bool :=
  match key.toList with
  | [] => false
  | c :: cs => decide (cs.length + 1 ≤ 128) && c.isAlphanum &&
      cs.all fun c => isOpaqueIdChar c || c == '.' || c == ':'

/-- `GameplayEventPayloadSchema`. -/
def GameplayEventPayload.Conforms : GameplayEventPayload → Prop
  | diceRolled playerId dice => IsOpaqueId playerId ∧ dice.Conforms
  | playerMoved playerId fromPosition toPosition _ salaryCollected =>
    IsOpaqueId playerId ∧ IsBoardPosition fromPosition ∧ IsBoardPosition toPosition ∧
    IsCashString salaryCollected
  | propertyPurchased playerId position price =>
    IsOpaqueId playerId ∧ IsBoardPosition position ∧ IsCashString price
  | propertyDeclined playerId position price =>
    IsOpaqueId playerId ∧ IsBoardPosition position ∧ IsCashString price
  | rentPaid payerId ownerId position amount =>
    IsOpaqueId payerId ∧ IsOpaqueId ownerId ∧ IsBoardPosition position ∧ IsCashString amount
  | buildingBuilt playerId position _ houseCount cost =>
    IsOpaqueId playerId ∧ IsBoardPosition position ∧ houseCount ≤ 4 ∧ IsCashString cost
  | buildingSold playerId position _ salePrice =>
    IsOpaqueId playerId ∧ IsBoardPosition position ∧ IsCashString salePrice
  | cardDrawn playerId deck cardId effect =>
    IsOpaqueId playerId ∧ (1 ≤ cardId ∧ cardId ≤ 5) ∧
    -- card effect must match the frozen deck and card ID
    (cardEffects deck)[cardId - 1]? = some effect
  | jailEntered playerId _ => IsOpaqueId playerId
  | jailExited playerId _ => IsOpaqueId playerId
  | taxPaid playerId position _ amount =>
    IsOpaqueId playerId ∧ IsBoardPosition position ∧ IsCashString amount
  | tradeCreated tradeId proposerId receiverId terms expiresAtMs =>
    IsOpaqueId tradeId ∧ IsOpaqueId proposerId ∧ IsOpaqueId receiverId ∧ terms.Conforms ∧
    IsEpochMs expiresAtMs
  | tradeAccepted tradeId proposerId receiverId =>
    IsOpaqueId tradeId ∧ IsOpaqueId proposerId ∧ IsOpaqueId receiverId
  | tradeRejected tradeId rejecterId => IsOpaqueId tradeId ∧ IsOpaqueId rejecterId
  | tradeCancelled tradeId cancellerId => IsOpaqueId tradeId ∧ IsOpaqueId cancellerId
  | tradeExpired tradeId => IsOpaqueId tradeId
  | playerBankrupt playerId creditorId liquidationValue cashTransferred =>
    IsOpaqueId playerId ∧ (∀ id ∈ creditorId, IsOpaqueId id) ∧ IsCashString liquidationValue ∧
    IsCashString cashTransferred
  | timeoutWarning playerId _ => IsOpaqueId playerId
  | timeoutPenalty playerId missedTurns =>
    IsOpaqueId playerId ∧ 1 ≤ missedTurns ∧ missedTurns ≤ 3
  | forcedTurnEnd timedOutPlayerId nextPlayerId =>
    IsOpaqueId timedOutPlayerId ∧ IsOpaqueId nextPlayerId
  | timeoutForfeit playerId totalMissedTurns => IsOpaqueId playerId ∧ totalMissedTurns = 3
  | gameEnded _ winnerId ranking =>
    IsOpaqueId winnerId ∧ (1 ≤ ranking.length ∧ ranking.length ≤ 4) ∧
    ∀ entry ∈ ranking, entry.Conforms
  | settlementEntitled winnerId _ entitlementKey =>
    IsOpaqueId winnerId ∧ isEntitlementKey entitlementKey = true

instance (payload : GameplayEventPayload) : Decidable payload.Conforms := by
  cases payload <;> unfold GameplayEventPayload.Conforms <;> infer_instance

/-! ### Envelopes -/

structure GameplayDomainEventEnvelope where
  eventId : String
  gameId : String
  stateVersion : ℤ
  occurredAtMs : ℤ
  payload : GameplayEventPayload
  deriving DecidableEq

/-- `GameplayDomainEventEnvelopeSchema`. -/
abbrev GameplayDomainEventEnvelope.Conforms (envelope : GameplayDomainEventEnvelope) : Prop :=
  IsOpaqueId envelope.eventId ∧ IsOpaqueId envelope.gameId ∧
  IsStateVersion envelope.stateVersion ∧ IsEpochMs envelope.occurredAtMs ∧
  envelope.payload.Conforms

/-- The events an acknowledgement has room for. -/
def maximumEventIds : ℕ := 32

/-! ### Request ids -/

def isHexDigit (c : Char) : Bool :=
  c.isDigit || ('a' ≤ c && c ≤ 'f') || ('A' ≤ c && c ≤ 'F')

/-- `z.uuid()`: five runs of hexadecimal digits, with a version and a variant, or all zeros or all
ones. -/
def isUuid (text : String) : Bool :=
  let digits := text.toList
  decide (digits.length = 36) &&
  everyIdx (fun index c =>
    if index ∈ [8, 13, 18, 23] then c == '-' else isHexDigit c) digits &&
  (((digits[14]?).any (fun c => '1' ≤ c && c ≤ '8') &&
      (digits[19]?).any (fun c => c ∈ ['8', '9', 'a', 'b', 'A', 'B'])) ||
    (digits.all fun c => c == '0' || c == '-') ||
    (digits.all fun c => c == 'f' || c == '-'))

end Pootown.Contracts
