import Mathlib.Tactic
import Pootown.Api.GameSessions

/-!
# The internal session service

What the rooms ask of the API: to describe a session, to consume the ticket of a user who connects,
and to record that the match has started.
-/

namespace Pootown.Api

open Tables Transactions

/-! ### Describing a session -/

structure SessionBootstrap where
  gameId : String
  gameDefinitionId : String
  gameDefinitionVersion : ℕ
  roomId : String
  lifecycle : SessionLifecycle
  stateVersion : ℤ
  creatorPlayerId : String
  maximumPlayers : ℕ
  timeLimitMs : Option ℤ
  createdAtMs : ℤ
  startedAtMs : Option ℤ
  players : List PlayerRow

/-- A room has committed that a player left, or that it was cancelled, and the API has not followed
yet. -/
def PendingFinalization (db : Database) (gameId : String) : Prop :=
  ∃ key row, db.realtime.finalizations key = some row ∧ row.gameSessionId = gameId ∧
    (∃ session ∈ db.game.sessions, session.id = gameId ∧
      ((row.action = .leave ∧ ∃ r ∈ db.economy.reservations, r.id = row.reservationId ∧
          r.gameSessionId = gameId ∧ r.status = .reserved) ∨
        (row.action = .cancel ∧ session.lifecycle = .opened ∧
          ∃ r ∈ db.economy.reservations, r.id = row.reservationId ∧ r.gameSessionId = gameId)))

open Classical in
noncomputable def bootstrap (gameId : String) : ApiTx SessionBootstrap := do
  let db ← select id
  let session ← checkSome (findSession db gameId) sessionNotFound
  check (¬ PendingFinalization db gameId) (sessionNotOpen "Room lifecycle finalization is pending")
  check (session.lifecycle ≠ .cancelling ∧ session.lifecycle ≠ .cancelled)
    (sessionNotOpen "Cancelled session cannot be materialized")
  let players := activePlayers db gameId
  let creator ← checkSome (players.find? fun player => player.userId = session.creatorUserId)
    (.error "Session creator seat is missing")
  return {
    gameId := session.id
    gameDefinitionId := session.gameDefinitionId
    gameDefinitionVersion := session.gameDefinitionVersion
    roomId := session.roomId
    lifecycle := session.lifecycle
    stateVersion := session.stateVersion
    creatorPlayerId := creator.playerId
    maximumPlayers := session.maximumPlayers
    timeLimitMs := session.timeLimitMs
    createdAtMs := session.createdAt
    startedAtMs := session.startedAt
    players := players }

/-! ### Consuming a ticket -/

def ticketInvalid (status : ℕ) (message : String) : Failure := .http .ticketInvalid status message

def ticketResponse (ticket : TicketRow) (seatIndex : ℕ) (reused : Bool) : TicketConsumeResponse :=
  ⟨ticket.userId, ticket.gameSessionId, ticket.roomId, ticket.reservationId, ticket.playerId,
    seatIndex, reused⟩

def parseTicket : Option ResponseSnapshot → ApiTx TicketConsumeResponse
  | some (.ticket response) => pure response
  | _ => fail .contract

def activeSeat (db : Database) (gameId userId : String) : Option PlayerRow :=
  db.game.players.find? fun row =>
    row.gameSessionId = gameId ∧ row.userId = userId ∧ row.active = true

/-- The seat that a ticket admits to, which its user takes now if nobody has it. -/
def ensureBoundSeat (session : SessionRow) (ticket : TicketRow) (now : ℤ) : ApiTx ℕ := do
  let db ← select id
  match activeSeat db ticket.gameSessionId ticket.userId with
  | some seat => do
    check (seat.playerId = ticket.playerId ∧ seat.reservationId = ticket.reservationId)
      (ticketInvalid 409 "Ticket seat binding is invalid")
    return seat.seatIndex
  | none => do
    check (session.lifecycle = .opened)
      (ticketInvalid 409 "Active session ticket has no durable seat")
    let seatIndex ← checkSome (firstFreeSeat db session)
      (.http .sessionFull 409 "Session has no available seat")
    insertPlayer ⟨ticket.gameSessionId, ticket.playerId, ticket.userId, seatIndex,
      ticket.reservationId, true, now⟩
    updateJoinIntents
      (fun row => row.reservationId = ticket.reservationId ∧ row.status = .pending)
      (fun _ => .admitted) now
    return seatIndex

def requireBoundSeat (ticket : TicketRow) : ApiTx ℕ := do
  let seat ← checkSome
    ((activeSeat (← select id) ticket.gameSessionId ticket.userId).filter fun seat =>
      seat.playerId = ticket.playerId ∧ seat.reservationId = ticket.reservationId)
    (ticketInvalid 409 "Consumed ticket has no durable seat")
  return seat.seatIndex

def assertNoOpReplay (operation : OperationRow) (hash : String) : ApiTx Unit := do
  check (operation.requestHash = hash) idempotencyConflict
  check (operation.status = .noOp) (.error "Internal operation is incomplete")

section Service

variable (digests : Digests)

/-- A ticket that is still to be consumed: by the seat it admits to, once. -/
def consumeUnusedTicket (session : SessionRow) (ticket : TicketRow) (request : TicketConsumeRequest)
    (idempotencyKey : String) (fresh : Fresh) (now : ℤ) : ApiTx TicketConsumeResponse := do
  let committedAt := max now ticket.createdAt
  let seatIndex ← ensureBoundSeat session ticket committedAt
  updateTickets (fun row => row.tokenHash = ticket.tokenHash ∧ row.consumption = none)
    fun row => { row with consumption := some ⟨committedAt, request.roomInstanceId⟩ }
  let response := ticketResponse ticket seatIndex false
  insertOperation (noOpOperation fresh.operationId ticket.userId .consumeTicket idempotencyKey
    (digests.requestHash (.consumeTicket request)) (.ticket response))
  return response

/-- A ticket consumed before: by the same instance of the room. -/
def reuseTicket (ticket : TicketRow) (consumption : TicketConsumption)
    (request : TicketConsumeRequest) (idempotencyKey : String) (prior : Option OperationRow)
    (fresh : Fresh) : ApiTx TicketConsumeResponse := do
  check (consumption.roomInstance = request.roomInstanceId)
    (.http .ticketReplayed 409 "Realtime ticket was consumed by another room instance")
  let seatIndex ← requireBoundSeat ticket
  match prior with
  | some prior => parseTicket prior.responseSnapshot
  | none => do
    let response := ticketResponse ticket seatIndex true
    insertOperation (noOpOperation fresh.operationId ticket.userId .consumeTicket idempotencyKey
      (digests.requestHash (.consumeTicket request)) (.ticket response))
    return response

def consumeTicket (request : TicketConsumeRequest) (idempotencyKey : String) (fresh : Fresh)
    (now : ℤ) : ApiTx TicketConsumeResponse := do
  let hash := digests.requestHash (.consumeTicket request)
  let session ← lockSession request.gameId
  let db ← select id
  let ticket ← checkSome
    ((db.game.tickets.find? fun row => row.tokenHash = digests.tokenHash request.ticket).filter
      fun row => row.gameSessionId = request.gameId ∧ row.roomId = request.roomId ∧
        session.roomId = request.roomId)
    (ticketInvalid 401 "Realtime ticket binding is invalid")
  check (session.lifecycle = .opened ∨ session.lifecycle = .active)
    (sessionNotOpen "Session is not accepting ticket consumption")
  check (∃ row ∈ db.economy.reservations, row.id = ticket.reservationId ∧
      row.userId = ticket.userId ∧ row.gameSessionId = ticket.gameSessionId ∧
      row.status = .reserved)
    (.http .reservationNotFound 409 "Ticket reservation is not active")
  let prior ← findOperation ticket.userId .consumeTicket idempotencyKey
  match prior with
  | some prior => assertNoOpReplay prior hash
  | none => pure ()
  match ticket.consumption with
  | some consumption => reuseTicket digests ticket consumption request idempotencyKey prior fresh
  | none => do
    check (now < ticket.expiresAt) (.http .ticketExpired 410 "Realtime ticket has expired")
    check (prior = none) (.error "Consumed ticket operation has no consumed ticket")
    consumeUnusedTicket digests session ticket request idempotencyKey fresh now

/-- What `consumeTicket` does once an operation under the key is seen to be for the same request. -/
def useTicket (session : SessionRow) (ticket : TicketRow) (request : TicketConsumeRequest)
    (idempotencyKey : String) (prior : Option OperationRow) (fresh : Fresh) (now : ℤ) :
    ApiTx TicketConsumeResponse :=
  match ticket.consumption with
  | some consumption => reuseTicket digests ticket consumption request idempotencyKey prior fresh
  | none => do
    check (now < ticket.expiresAt) (.http .ticketExpired 410 "Realtime ticket has expired")
    check (prior = none) (.error "Consumed ticket operation has no consumed ticket")
    consumeUnusedTicket digests session ticket request idempotencyKey fresh now

/-! ### Starting -/

/-- The active players of a session whose reservation is open. -/
def readyPlayers (db : Database) (gameId : String) : List PlayerRow :=
  db.game.players.filter fun row => row.gameSessionId = gameId ∧ row.active = true ∧
    ∃ r ∈ db.economy.reservations, r.id = row.reservationId ∧ r.status = .reserved

abbrev HasConsumedTicket (db : Database) (player : PlayerRow) : Prop :=
  ∃ ticket ∈ db.game.tickets, ticket.reservationId = player.reservationId ∧
    ticket.consumption ≠ none

def markStarted (gameId roomId : String) (stateVersion : ℤ) (idempotencyKey : String)
    (fresh : Fresh) (now : ℤ) : ApiTx OperationResponse := do
  let hash := digests.requestHash (.markStarted gameId roomId stateVersion)
  let session ← lockSession gameId
  let prior ← findOperation session.creatorUserId .markStarted idempotencyKey
  match prior with
  | some prior => do
    assertNoOpReplay prior hash
    parseOperation prior.responseSnapshot
  | none => do
    check (session.roomId = roomId) (.http .requestInvalid 400 "Room binding is invalid")
    check (session.lifecycle = .opened) (sessionNotOpen "Session cannot be started")
    check (0 < stateVersion ∧ session.stateVersion = 0)
      (.http .requestInvalid 400 "Initial state version is invalid")
    let db ← select id
    let players := readyPlayers db gameId
    check (2 ≤ players.length ∧ ∀ player ∈ players, HasConsumedTicket db player)
      (.http .sessionNotReady 409 "Every admitted player must consume a ticket before start")
    updateSession gameId .active fun row =>
      { row with stateVersion := stateVersion, startedAt := some now }
    insertOperation (noOpOperation fresh.operationId session.creatorUserId .markStarted
      idempotencyKey hash (.operation fresh.operationId))
    return ⟨fresh.operationId⟩

end Service

end Pootown.Api
