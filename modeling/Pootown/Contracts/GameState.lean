import Mathlib.Tactic
import Pootown.Contracts.GameplayEvents
import Pootown.Transition.Lifecycle

/-!
# The contract of a published lobby

What the clients of a room are told before the game itself begins, and of every change of it.

* `PublicGameState`, `PublicGameState.Conforms`: the lobby, with its seats, its times and the first
  turn;
* `DomainEventEnvelope`, `DomainEventEnvelope.Conforms`: a change of the lobby.

The two derived counts, the seats, the creator and the times of each lifecycle are checked against
each other by the schema alone.
-/

namespace Pootown.Contracts

open Slots

/-! ### Seats and turns -/

structure PlayerPublicState where
  seatIndex : ℕ
  playerId : String
  status : PlayerStatus
  cash : String
  position : ℕ
  inJail : Bool
  deriving DecidableEq

abbrev PlayerPublicState.Conforms (player : PlayerPublicState) : Prop :=
  IsSeatIndex player.seatIndex ∧ IsOpaqueId player.playerId ∧ IsCashString player.cash ∧
  IsBoardPosition player.position

inductive TurnState
  | notStarted
  | awaitingRoll (currentSeatIndex : ℕ) (startedAtMs deadlineAtMs : ℤ)
  | finished
  deriving DecidableEq

def TurnState.Conforms : TurnState → Prop
  | awaitingRoll currentSeatIndex startedAtMs deadlineAtMs =>
    IsSeatIndex currentSeatIndex ∧ IsEpochMs startedAtMs ∧ IsEpochMs deadlineAtMs
  | _ => True

instance (turn : TurnState) : Decidable turn.Conforms := by
  cases turn <;> unfold TurnState.Conforms <;> infer_instance

/-! ### The lobby -/

inductive LifecycleName
  | waitingForPlayers | inProgress | cancelled | finished
  deriving DecidableEq

structure PublicGameState where
  stateVersion : ℤ
  gameId : String
  creatorId : String
  lifecycle : LifecycleName
  minimumPlayers : ℕ
  maximumPlayers : ℕ
  seats : List (Option PlayerPublicState)
  currentPlayers : ℕ
  activePlayers : ℕ
  bankCash : String
  housesRemaining : ℕ
  hotelsRemaining : ℕ
  createdAtMs : ℤ
  startedAtMs : Option ℤ
  cancelledAtMs : Option ℤ
  gameEndAtMs : Option ℤ
  turn : TurnState
  deriving DecidableEq

namespace PublicGameState

def activeSeats (state : PublicGameState) : List PlayerPublicState :=
  (occupants state.seats).filter fun seat => seat.status = .active

/-- The times of a lobby and the phase of its turn are those of its lifecycle. -/
def lifecycleIsConsistent (state : PublicGameState) : Bool :=
  match state.lifecycle with
  | .waitingForPlayers => state.turn == .notStarted && state.startedAtMs.isNone &&
      state.cancelledAtMs.isNone && state.gameEndAtMs.isNone
  | .inProgress => (state.turn != .notStarted && state.turn != .finished) &&
      state.startedAtMs.isSome && state.cancelledAtMs.isNone
  | .cancelled => state.turn == .finished && state.startedAtMs.isNone &&
      state.cancelledAtMs.isSome && state.gameEndAtMs.isNone
  | .finished => state.turn == .finished && state.startedAtMs.isSome &&
      state.cancelledAtMs.isNone && state.gameEndAtMs.isSome

/-- A running turn is within the game; in a game in progress it is of an active seat. -/
def TurnMatches (state : PublicGameState) : Prop :=
  match state.turn with
  | .awaitingRoll currentSeatIndex startedAtMs deadlineAtMs =>
    (startedAtMs ≤ deadlineAtMs ∧ ∃ gameStartedAtMs ∈ state.startedAtMs,
      gameStartedAtMs ≤ startedAtMs) ∧
    (state.lifecycle = .inProgress →
      state.minimumPlayers ≤ (occupants state.seats).length ∧
      ∃ seat ∈ slotAt state.seats currentSeatIndex, seat.status = .active)
  | _ => True

instance (state : PublicGameState) : Decidable state.TurnMatches := by
  unfold TurnMatches
  split <;> infer_instance

/-- The checks of the schema on the fields. -/
@[mk_iff]
structure FieldsConform (state : PublicGameState) : Prop where
  stateVersion : IsStateVersion state.stateVersion
  gameId : IsOpaqueId state.gameId
  creatorId : IsOpaqueId state.creatorId
  minimumPlayers : state.minimumPlayers = 2
  maximumPlayers : 2 ≤ state.maximumPlayers ∧ state.maximumPlayers ≤ 4
  length_seats : state.seats.length = 4
  seats : ∀ seat ∈ occupants state.seats, seat.Conforms
  currentPlayers : state.currentPlayers ≤ 4
  activePlayers : state.activePlayers ≤ 4
  bankCash : IsCashString state.bankCash
  housesRemaining : state.housesRemaining ≤ 32
  hotelsRemaining : state.hotelsRemaining ≤ 12
  createdAtMs : IsEpochMs state.createdAtMs
  startedAtMs : ∀ time ∈ state.startedAtMs, IsEpochMs time
  cancelledAtMs : ∀ time ∈ state.cancelledAtMs, IsEpochMs time
  gameEndAtMs : ∀ time ∈ state.gameEndAtMs, IsEpochMs time
  turn : state.turn.Conforms

/-- The checks of the schema of the fields against each other. -/
@[mk_iff]
structure PartsAgree (state : PublicGameState) : Prop where
  currentPlayers : state.currentPlayers = (occupants state.seats).length
  activePlayers : state.activePlayers = state.activeSeats.length
  playerIds : ((occupants state.seats).map PlayerPublicState.playerId).Nodup
  creator : (slotAt state.seats 0).map PlayerPublicState.playerId = some state.creatorId
  seatIndices : everySlot (fun index seat => decide (seat.seatIndex = index)) state.seats = true
  capacity : everySlot (fun index _ => decide (index < state.maximumPlayers)) state.seats = true
  lifecycle : state.lifecycleIsConsistent = true
  turnMatches : state.TurnMatches
  started : ∀ time ∈ state.startedAtMs, state.createdAtMs ≤ time
  cancelled : ∀ time ∈ state.cancelledAtMs, state.createdAtMs ≤ time
  gameEnd : ∀ gameEnd ∈ state.gameEndAtMs, ∀ started ∈ state.startedAtMs, started ≤ gameEnd

instance (state : PublicGameState) : Decidable state.FieldsConform :=
  decidable_of_iff' _ state.fieldsConform_iff

instance (state : PublicGameState) : Decidable state.PartsAgree :=
  decidable_of_iff' _ state.partsAgree_iff

/-- `PublicGameStateSchema`. -/
abbrev Conforms (state : PublicGameState) : Prop := state.FieldsConform ∧ state.PartsAgree

end PublicGameState

/-! ### Changes of the lobby -/

/-- `LifecycleEventPayloadSchema`, of an event that has no other text. -/
def LifecycleEventConforms : DomainEvent → Prop
  | .gameCreated creatorId => IsOpaqueId creatorId
  | .playerJoined playerId seatIndex totalPlayers =>
    IsOpaqueId playerId ∧ IsSeatIndex seatIndex ∧ 1 ≤ totalPlayers ∧ totalPlayers ≤ 4
  | .playerLeft playerId seatIndex remainingPlayers =>
    IsOpaqueId playerId ∧ IsSeatIndex seatIndex ∧ 1 ≤ remainingPlayers ∧ remainingPlayers ≤ 3
  | .gameStarted totalPlayers => 2 ≤ totalPlayers ∧ totalPlayers ≤ 4
  | .gameCancelled playersCount => 1 ≤ playersCount ∧ playersCount ≤ 4

instance (event : DomainEvent) : Decidable (LifecycleEventConforms event) := by
  cases event <;> unfold LifecycleEventConforms <;> infer_instance

structure DomainEventEnvelope where
  eventId : String
  stateVersion : ℤ
  occurredAtMs : ℤ
  payload : DomainEvent
  deriving DecidableEq

/-- `DomainEventEnvelopeSchema`. -/
abbrev DomainEventEnvelope.Conforms (envelope : DomainEventEnvelope) : Prop :=
  IsOpaqueId envelope.eventId ∧ IsStateVersion envelope.stateVersion ∧
  IsEpochMs envelope.occurredAtMs ∧ LifecycleEventConforms envelope.payload

end Pootown.Contracts
