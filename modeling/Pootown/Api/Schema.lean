import Mathlib.Tactic
import Pootown.Library.Tables
import Pootown.Server.Store

/-!
# The database of the API

The rows that the API keeps, by schema, and what it takes from elsewhere: digests, random
identifiers, and its settings. The realtime tables belong to the game servers; the API reads them
through views.

* `Economy`, `Game`, `ReadModel`: accounts, ledger and reservations; sessions, seats and tickets;
  what is shown of finished sessions;
* `Database`: all of it, with the realtime tables;
* `Failure`: how a request fails.
-/

namespace Pootown.Api

/-! ### Failures -/

inductive ApiErrorCode
  | accountCoinOverflow
  | accountNotFound
  | alreadySeated
  | creatorCannotLeave
  | idempotencyConflict
  | insufficientCoins
  | requestInvalid
  | reservationNotFound
  | sessionCancelling
  | sessionForbidden
  | sessionFull
  | sessionNotFound
  | sessionNotOpen
  | sessionNotReady
  | settlementAlreadyCommitted
  | terminalProofInvalid
  | ticketExpired
  | ticketInvalid
  | ticketReplayed
  deriving DecidableEq

/-- A failure: one that the API answers with, a value that does not parse, a constraint or trigger
of the database, or a defect. -/
inductive Failure
  | http (code : ApiErrorCode) (status : ℕ) (message : String)
  | contract
  | database (constraint : String)
  | error (message : String)
  deriving DecidableEq

/-! ### Requests and responses -/

structure SettlementRequest where
  roomId : String
  terminalStateVersion : ℤ
  checkpointChecksum : String
  deriving DecidableEq

inductive AbortReason
  | reconnectWindowExpired | operatorDecision
  deriving DecidableEq

structure RoomSessionFinalizationRequest where
  roomId : String
  playerId : String
  reservationId : String
  action : Server.FinalizationAction
  deriving DecidableEq

structure TicketConsumeRequest where
  ticket : String
  gameId : String
  roomId : String
  roomInstanceId : String
  deriving DecidableEq

/-- What the hash of a request is taken of. -/
inductive RequestBody
  | initialGrant
  | rescueGrant
  | createSession (gameDefinitionId : String)
  | session (gameId : String)
  | waitingExpired (gameId : String)
  | ticketExpired (reservationId : String)
  | finalization (gameId : String) (request : RoomSessionFinalizationRequest)
  | consumeTicket (request : TicketConsumeRequest)
  | markStarted (gameId roomId : String) (stateVersion : ℤ)
  | settlement (gameId : String) (request : SettlementRequest)
  | abort (gameId : String) (reason : AbortReason)
  deriving DecidableEq

/-- Who was admitted to what: the seat of one user in one session. -/
structure LogicalAdmission where
  gameId : String
  roomId : String
  reservationId : String
  playerId : String
  deriving DecidableEq

structure CoinBalance where
  availableCoin : ℤ
  reservedCoin : ℤ
  version : ℕ
  deriving DecidableEq

structure TicketConsumeResponse where
  userId : String
  gameId : String
  roomId : String
  reservationId : String
  playerId : String
  seatIndex : ℕ
  reused : Bool
  deriving DecidableEq

/-- The response kept with an operation. -/
inductive ResponseSnapshot
  | operation (operationId : String)
  | admission (logical : LogicalAdmission)
  | rescueGrant (balance : CoinBalance) (operationId : Option String)
  | ticket (response : TicketConsumeResponse)
  deriving DecidableEq

/-! ### The economy -/

structure AccountRow where
  userId : String
  availableCoin : ℤ
  reservedCoin : ℤ
  version : ℕ
  lastRescueGrantAt : Option ℤ
  deriving DecidableEq

inductive OperationScope
  | initialGrant
  | rescueGrant
  | createSession
  | joinIntent
  | releaseJoinIntent
  | cancelSession
  | settleSession
  | abortSession
  | reconnectTicket
  | consumeTicket
  | markStarted
  deriving DecidableEq

inductive OperationStatus
  | pending | committed | noOp
  deriving DecidableEq

structure OperationRow where
  id : String
  actorUserId : String
  scope : OperationScope
  idempotencyKey : String
  requestHash : String
  responseSnapshot : Option ResponseSnapshot
  status : OperationStatus
  deriving DecidableEq

inductive LedgerKind
  | userAvailable | userReserved | systemIssuance | systemEntry | systemPrize
  deriving DecidableEq

structure LedgerAccountRow where
  id : String
  ownerUserId : Option String
  kind : LedgerKind
  deriving DecidableEq

structure LedgerEntryRow where
  operationId : String
  ledgerAccountId : String
  amount : ℤ
  deriving DecidableEq

inductive ReservationStatus
  | reserved | captured | released
  deriving DecidableEq

structure ReservationRow where
  id : String
  operationId : String
  userId : String
  gameSessionId : String
  amount : ℤ
  status : ReservationStatus
  createdAt : ℤ
  terminalAt : Option ℤ
  terminalOperationId : Option String
  deriving DecidableEq

/-- The outcome of a session, with what it must say of the terminal proof. -/
inductive SettlementKind
  | completed (terminalStateVersion : ℤ) (checkpointChecksum winnerUserId : String)
  | aborted (reason : AbortReason)
  deriving DecidableEq

structure SettlementRow where
  id : String
  gameSessionId : String
  kind : SettlementKind
  operationId : String
  deriving DecidableEq

structure Economy where
  accounts : List AccountRow
  operations : List OperationRow
  ledgerAccounts : List LedgerAccountRow
  ledgerEntries : List LedgerEntryRow
  reservations : List ReservationRow
  settlements : List SettlementRow

/-! ### Sessions -/

structure DefinitionRow where
  id : String
  policyVersion : ℕ
  maximumPlayers : ℕ
  entryCoin : ℤ
  timeLimitMs : Option ℤ
  active : Bool
  deriving DecidableEq

inductive SessionLifecycle
  | opened | cancelling | cancelled | active | settling | settled | recoveryRequired
  deriving DecidableEq

structure SessionRow where
  id : String
  roomId : String
  gameDefinitionId : String
  gameDefinitionVersion : ℕ
  creatorUserId : String
  lifecycle : SessionLifecycle
  maximumPlayers : ℕ
  entryCoin : ℤ
  timeLimitMs : Option ℤ
  stateVersion : ℤ
  createdAt : ℤ
  startedAt : Option ℤ
  finishedAt : Option ℤ
  cancelledAt : Option ℤ
  recoveryRequiredAt : Option ℤ
  deriving DecidableEq

structure PlayerRow where
  gameSessionId : String
  playerId : String
  userId : String
  seatIndex : ℕ
  reservationId : String
  active : Bool
  joinedAt : ℤ
  deriving DecidableEq

inductive JoinIntentStatus
  | pending | admitted | released | expired
  deriving DecidableEq

structure JoinIntentRow where
  id : String
  gameSessionId : String
  userId : String
  reservationId : String
  status : JoinIntentStatus
  createdAt : ℤ
  updatedAt : ℤ
  deriving DecidableEq

/-- When a ticket was consumed, and by which instance of the room. -/
structure TicketConsumption where
  consumedAt : ℤ
  roomInstance : String
  deriving DecidableEq

structure TicketRow where
  id : String
  tokenHash : String
  userId : String
  gameSessionId : String
  roomId : String
  reservationId : String
  playerId : String
  expiresAt : ℤ
  consumption : Option TicketConsumption
  createdAt : ℤ
  deriving DecidableEq

structure Game where
  definitions : List DefinitionRow
  sessions : List SessionRow
  players : List PlayerRow
  joinIntents : List JoinIntentRow
  tickets : List TicketRow

/-! ### Finished sessions -/

inductive SessionResult
  | won | lost | cancelled | aborted
  deriving DecidableEq

structure HistoryRow where
  gameSessionId : String
  userId : String
  playerId : String
  result : SessionResult
  accountCoinDelta : ℤ
  finishedAt : ℤ
  deriving DecidableEq

structure LeaderboardRow where
  userId : String
  playerId : String
  gamesPlayed : ℕ
  gamesWon : ℕ
  accountCoinWon : ℤ
  deriving DecidableEq

structure ReadModel where
  history : List HistoryRow
  leaderboard : List LeaderboardRow

/-! ### The database -/

structure Database where
  users : List String
  economy : Economy
  game : Game
  readModel : ReadModel
  realtime : Server.Realtime

/-- The digests: of requests, of tickets, and the part of a user's that names ledger accounts. -/
structure Digests where
  requestHash : RequestBody → String
  tokenHash : String → String
  userDigest : String → String

/-- The ledger account that provisioning creates for a user. -/
def ledgerAccountId (digests : Digests) (userId : String) (kind : LedgerKind) : String :=
  "user_" ++ digests.userDigest userId ++
    if kind = .userAvailable then "_available" else "_reserved"

/-- The settings of the API. -/
structure Settings where
  initialGrantCoin : ℤ
  rescueBalanceCoin : ℤ
  rescueWindowMs : ℤ
  ticketTtlMs : ℤ
  activeRecoveryGraceMs : ℤ

/-- The random identifiers that one transaction draws. -/
structure Fresh where
  operationId : String
  gameId : String
  roomId : String
  reservationId : String
  playerId : String
  joinIntentId : String
  ticketId : String
  ticket : String
  settlementId : String

end Pootown.Api
