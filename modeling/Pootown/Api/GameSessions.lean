import Mathlib.Tactic
import Pootown.Api.Economy

/-!
# The game sessions service

A user creates a session or joins one with a reservation of the entry, and is given a seat and a
ticket for the room; until the session starts, a player may leave it, its creator may cancel it,
and what has expired is released.
-/

namespace Pootown.Api

open Tables Transactions

/-! ### Responses -/

structure SessionDetail where
  gameId : String
  gameDefinitionId : String
  roomId : String
  lifecycle : SessionLifecycle
  currentPlayers : ℕ
  maximumPlayers : ℕ
  entryCoin : ℤ
  createdAtMs : ℤ
  startedAtMs : Option ℤ
  finishedAtMs : Option ℤ
  players : List (String × ℕ)

/-- A seat with the ticket that admits to it. -/
structure AdmissionResponse where
  session : SessionDetail
  logical : LogicalAdmission
  ticket : String
  expiresAtMs : ℤ

structure OperationResponse where
  operationId : String

def activePlayers (db : Database) (gameId : String) : List PlayerRow :=
  orderBy PlayerRow.seatIndex
    (db.game.players.filter fun row => row.gameSessionId = gameId ∧ row.active = true)

def sessionDetail (db : Database) (session : SessionRow) : SessionDetail :=
  let players := activePlayers db session.id
  { gameId := session.id
    gameDefinitionId := session.gameDefinitionId
    roomId := session.roomId
    lifecycle := session.lifecycle
    currentPlayers := players.length
    maximumPlayers := session.maximumPlayers
    entryCoin := session.entryCoin
    createdAtMs := session.createdAt
    startedAtMs := session.startedAt
    finishedAtMs := session.finishedAt
    players := players.map fun row => (row.playerId, row.seatIndex) }

def findSession (db : Database) (gameId : String) : Option SessionRow :=
  db.game.sessions.find? fun row => row.id = gameId

def admissionResponse (logical : LogicalAdmission) (ticket : String) (expiresAt : ℤ) :
    ApiTx AdmissionResponse := do
  let db ← select id
  let session ← checkSome (findSession db logical.gameId) sessionNotFound
  return ⟨sessionDetail db session, logical, ticket, expiresAt⟩

def parseAdmission : Option ResponseSnapshot → ApiTx LogicalAdmission
  | some (.admission logical) => pure logical
  | _ => fail .contract

def parseOperation : Option ResponseSnapshot → ApiTx OperationResponse
  | some (.operation operationId) => pure ⟨operationId⟩
  | _ => fail .contract

/-! ### Locks and checks -/

def lockAccount (userId : String) : ApiTx AccountRow := do
  let accounts ← select (·.economy.accounts)
  checkSome (accounts.find? fun account => account.userId = userId) accountNotFound

def lockSession (gameId : String) : ApiTx SessionRow := do
  let db ← select id
  checkSome (findSession db gameId) sessionNotFound

/-- The accounts of all these users are there to be locked. -/
def lockAccounts (userIds : List String) (message : String) : ApiTx Unit := do
  let accounts ← select (·.economy.accounts)
  check (∀ userId ∈ userIds, ∃ account ∈ accounts, account.userId = userId) (.error message)

def assertReplay (operation : OperationRow) (hash : String) (expected : OperationStatus) :
    ApiTx Unit := do
  check (operation.requestHash = hash) idempotencyConflict
  check (operation.status = expected) (.error "Admission operation is incomplete")

def sessionNotOpen (message : String) : Failure := .http .sessionNotOpen 409 message

def sessionForbidden (message : String) : Failure := .http .sessionForbidden 403 message

/-- Why a session that is not open takes no players, or gives out no tickets. -/
def notAccepting (lifecycle : SessionLifecycle) (message : String) : Failure :=
  .http (if lifecycle = .cancelling then .sessionCancelling else .sessionNotOpen) 409 message

/-- A game server has, or has had, the room of the session. -/
def HasRealtimeMaterialization (db : Database) (gameId : String) : Prop :=
  ∃ roomId lease, db.realtime.leases roomId = some lease ∧ lease.gameSessionId = gameId

/-! ### Reserving and releasing -/

/-- Add to both balances of an account that has at least `available` and `reserved` there. -/
def moveCoin (userId : String) (needs : AccountRow → Prop) [DecidablePred needs]
    (available reserved : ℤ) (failure : Failure) : ApiTx Unit := do
  let updated ← updateAccount userId needs (AccountRow.move available reserved)
  check (updated.isSome = true) failure

/-- The ledger account of a user. -/
def ledgerAccount (userId : String) (kind : LedgerKind) (message : String) : ApiTx String := do
  let rows ← select (·.economy.ledgerAccounts)
  let row ← checkSome
    (rows.find? fun row => row.ownerUserId = some userId ∧ row.kind = kind) (.error message)
  return row.id

/-- Enter what was moved between the two accounts of a user. -/
def enterMove (operationId userId : String) (available reserved : ℤ) (missing : String) :
    ApiTx Unit := do
  let availableLedger ← ledgerAccount userId .userAvailable missing
  let reservedLedger ← ledgerAccount userId .userReserved missing
  insertEntry ⟨operationId, availableLedger, available⟩
  insertEntry ⟨operationId, reservedLedger, reserved⟩

def reserveAndSeat (operationId userId : String) (logical : LogicalAdmission) (seatIndex : ℕ)
    (amount : ℤ) (fresh : Fresh) (now : ℤ) : ApiTx Unit := do
  if 0 < amount then
    moveCoin userId (fun account => amount ≤ account.availableCoin) (-amount) amount
      insufficientCoins
    enterMove operationId userId (-amount) amount "User ledger accounts are missing"
  insertReservation ⟨logical.reservationId, operationId, userId, logical.gameId, amount, .reserved,
    now, none, none⟩
  insertPlayer ⟨logical.gameId, logical.playerId, userId, seatIndex, logical.reservationId, true,
    now⟩
  insertJoinIntent ⟨fresh.joinIntentId, logical.gameId, userId, logical.reservationId, .admitted,
    now, now⟩

/-- Give a reservation back to its user; `missing` is the message when there are no ledger accounts
of the user. -/
def giveBack (missing operationId : String) (reservation : ReservationRow) (now : ℤ) :
    ApiTx Unit := do
  if 0 < reservation.amount then
    moveCoin reservation.userId (fun account => reservation.amount ≤ account.reservedCoin)
      reservation.amount (-reservation.amount) (.error "Reservation balance cannot be released")
    enterMove operationId reservation.userId reservation.amount (-reservation.amount) missing
  closeReservation reservation.id .released operationId now

def releaseReservation (operationId : String) (reservation : ReservationRow) (now : ℤ) :
    ApiTx Unit :=
  giveBack "User ledger accounts are missing" operationId reservation now

def expireUnusedTickets (p : TicketRow → Prop) [DecidablePred p] (now : ℤ) : ApiTx Unit :=
  updateTickets (fun row => p row ∧ row.consumption = none)
    fun row => { row with expiresAt := max (row.createdAt + 1) now }

section Service

variable (digests : Digests) (settings : Settings)

/-! ### Tickets -/

def newTicket (userId : String) (logical : LogicalAdmission) (fresh : Fresh) (now : ℤ) :
    TicketRow :=
  ⟨fresh.ticketId, digests.tokenHash fresh.ticket, userId, logical.gameId, logical.roomId,
    logical.reservationId, logical.playerId, now + settings.ticketTtlMs, none, now⟩

def issueTicket (userId : String) (logical : LogicalAdmission) (fresh : Fresh) (now : ℤ) :
    ApiTx Unit :=
  insertTicket (newTicket digests settings userId logical fresh now)

/-- Another ticket for a seat that its reservation still holds. -/
def reissueAdmission (logical : LogicalAdmission) (fresh : Fresh) (now : ℤ) :
    ApiTx AdmissionResponse := do
  let session ← lockSession logical.gameId
  check (session.lifecycle = .opened ∨ session.lifecycle = .active)
    (notAccepting session.lifecycle "Session is not accepting ticket issuance")
  let db ← select id
  let reservation ← checkSome
    (db.economy.reservations.find? fun row => row.id = logical.reservationId ∧
      row.gameSessionId = logical.gameId ∧ row.status = .reserved)
    (.http .reservationNotFound 409 "Reservation is no longer active")
  match db.game.tickets.find? fun row =>
      row.reservationId = logical.reservationId ∧ row.consumption = none with
  | some current =>
    updateTickets (fun row => row.id = current.id) fun row =>
      { row with
        tokenHash := digests.tokenHash fresh.ticket
        expiresAt := now + settings.ticketTtlMs }
  | none => issueTicket digests settings reservation.userId logical fresh now
  admissionResponse logical fresh.ticket (now + settings.ticketTtlMs)

/-! ### Creating and joining -/

/-- The latest active version of a definition. -/
def latestDefinition (db : Database) (gameDefinitionId : String) : Option DefinitionRow :=
  ((db.game.definitions.filter fun row =>
    row.id = gameDefinitionId ∧ row.active = true).insertionSort fun a b =>
      b.policyVersion ≤ a.policyVersion).head?

def openSession (definition : DefinitionRow) (userId : String) (fresh : Fresh) (now : ℤ) :
    SessionRow where
  id := fresh.gameId
  roomId := fresh.roomId
  gameDefinitionId := definition.id
  gameDefinitionVersion := definition.policyVersion
  creatorUserId := userId
  lifecycle := .opened
  maximumPlayers := definition.maximumPlayers
  entryCoin := definition.entryCoin
  timeLimitMs := definition.timeLimitMs
  stateVersion := 0
  createdAt := now
  startedAt := none
  finishedAt := none
  cancelledAt := none
  recoveryRequiredAt := none

/-- Reserve the entry of an admission, seat it and issue its ticket, and commit the operation. -/
def admitPlayer (userId : String) (scope : OperationScope) (idempotencyKey hash : String)
    (logical : LogicalAdmission) (seatIndex : ℕ) (amount : ℤ) (beforeSeat : ApiTx Unit)
    (fresh : Fresh) (now : ℤ) : ApiTx AdmissionResponse := do
  insertOperation (pendingOperation fresh.operationId userId scope idempotencyKey hash)
  beforeSeat
  reserveAndSeat fresh.operationId userId logical seatIndex amount fresh now
  issueTicket digests settings userId logical fresh now
  commitOperation fresh.operationId (.admission logical)
  admissionResponse logical fresh.ticket (now + settings.ticketTtlMs)

def createSession (userId gameDefinitionId idempotencyKey : String) (fresh : Fresh) (now : ℤ) :
    ApiTx AdmissionResponse := do
  let hash := digests.requestHash (.createSession gameDefinitionId)
  let _ ← lockAccount userId
  let prior ← findOperation userId .createSession idempotencyKey
  match prior with
  | some prior => do
    assertReplay prior hash .committed
    let logical ← parseAdmission prior.responseSnapshot
    reissueAdmission digests settings logical fresh now
  | none => do
    let definition ← checkSome (latestDefinition (← select id) gameDefinitionId)
      (.http .requestInvalid 400 "Game definition is unavailable")
    let logical := ⟨fresh.gameId, fresh.roomId, fresh.reservationId, fresh.playerId⟩
    admitPlayer digests settings userId .createSession idempotencyKey hash logical 0
      definition.entryCoin (insertSession (openSession definition userId fresh now)) fresh now

/-- The lowest seat of a session that nobody holds. -/
def firstFreeSeat (db : Database) (session : SessionRow) : Option ℕ :=
  (List.range session.maximumPlayers).find? fun index =>
    index ∉ (db.game.players.filter fun row => row.gameSessionId = session.id).map
      PlayerRow.seatIndex

def joinSession (userId gameId idempotencyKey : String) (fresh : Fresh) (now : ℤ) :
    ApiTx AdmissionResponse := do
  let hash := digests.requestHash (.session gameId)
  let _ ← lockAccount userId
  let session ← lockSession gameId
  let prior ← findOperation userId .joinIntent idempotencyKey
  match prior with
  | some prior => do
    assertReplay prior hash .committed
    let logical ← parseAdmission prior.responseSnapshot
    reissueAdmission digests settings logical fresh now
  | none => do
    check (session.lifecycle = .opened)
      (notAccepting session.lifecycle "Session is not accepting players")
    let db ← select id
    check (∀ row ∈ db.game.players, ¬ (row.gameSessionId = gameId ∧ row.userId = userId))
      (.http .alreadySeated 409 "User is already seated")
    let seatIndex ← checkSome (firstFreeSeat db session) (.http .sessionFull 409 "Session is full")
    let logical := ⟨session.id, session.roomId, fresh.reservationId, fresh.playerId⟩
    admitPlayer digests settings userId .joinIntent idempotencyKey hash logical seatIndex
      session.entryCoin (pure ()) fresh now

def reconnectTicket (userId gameId idempotencyKey : String) (fresh : Fresh) (now : ℤ) :
    ApiTx AdmissionResponse := do
  let hash := digests.requestHash (.session gameId)
  let _ ← lockAccount userId
  let session ← lockSession gameId
  check (session.lifecycle = .opened ∨ session.lifecycle = .active)
    (notAccepting session.lifecycle "Session is not accepting ticket issuance")
  let prior ← findOperation userId .reconnectTicket idempotencyKey
  match prior with
  | some prior => do
    assertReplay prior hash .noOp
    let logical ← parseAdmission prior.responseSnapshot
    reissueAdmission digests settings logical fresh now
  | none => do
    let db ← select id
    let player ← checkSome
      (db.game.players.find? fun row => row.gameSessionId = gameId ∧ row.userId = userId ∧
        row.active = true ∧ ∃ r ∈ db.economy.reservations, r.id = row.reservationId ∧
          r.status = .reserved)
      (.http .reservationNotFound 404 "Active seat was not found")
    let logical := ⟨gameId, session.roomId, player.reservationId, player.playerId⟩
    let response ← reissueAdmission digests settings logical fresh now
    insertOperation (noOpOperation fresh.operationId userId .reconnectTicket idempotencyKey hash
      (.admission logical))
    return response

/-! ### Leaving and cancelling -/

/-- Whom a room has finalized a command for. -/
structure RoomBinding where
  roomId : String
  playerId : String
  reservationId : String

/-- The seat that a room's finalization names is that user's. -/
abbrev BoundSeat (db : Database) (gameId userId : String) (expected : RoomBinding)
    (seat : PlayerRow → Prop) : Prop :=
  ∃ row ∈ db.game.players, row.gameSessionId = gameId ∧ row.playerId = expected.playerId ∧
    row.userId = userId ∧ row.reservationId = expected.reservationId ∧ row.active = true ∧ seat row

/-- Commit an operation that answers with its own identifier. -/
def commitWithResponse (operationId : String) : ApiTx OperationResponse := do
  commitOperation operationId (.operation operationId)
  return ⟨operationId⟩

open Classical in
/-- A room that a game server has had finalizes its own commands; others may not. -/
noncomputable def requireNoRoom (expected : Option RoomBinding) (gameId message : String) :
    ApiTx Unit := do
  match expected with
  | some _ => pure ()
  | none => check (¬ HasRealtimeMaterialization (← select id) gameId) (sessionNotOpen message)

def requireBinding (expected : Option RoomBinding) (gameId userId : String) (session : SessionRow)
    (seat : PlayerRow → Prop) [DecidablePred seat] (roomMessage seatMessage : String) :
    ApiTx Unit := do
  match expected with
  | none => pure ()
  | some binding => do
    check (session.roomId = binding.roomId) (sessionForbidden roomMessage)
    check (BoundSeat (← select id) gameId userId binding seat) (sessionForbidden seatMessage)

/-- Take back an admission: its reservation, its intent, its seat and its tickets. -/
def leaveSeat (operationId : String) (reservation : ReservationRow) (now : ℤ) : ApiTx Unit := do
  releaseReservation operationId reservation now
  updateJoinIntents (fun row => row.reservationId = reservation.id) (fun _ => .released) now
  deletePlayers fun row => row.reservationId = reservation.id
  expireUnusedTickets (fun row => row.reservationId = reservation.id) now

noncomputable def releaseJoinIntentForUser (userId gameId idempotencyKey hash : String)
    (expected : Option RoomBinding) (fresh : Fresh) (now : ℤ) : ApiTx OperationResponse := do
  let _ ← lockAccount userId
  let session ← lockSession gameId
  let prior ← findOperation userId .releaseJoinIntent idempotencyKey
  match prior with
  | some prior => do
    assertReplay prior hash .committed
    parseOperation prior.responseSnapshot
  | none => do
    requireNoRoom expected gameId "Leave must be finalized by the authoritative room"
    check (session.lifecycle = .opened) (sessionNotOpen "Session is not open")
    check (session.creatorUserId ≠ userId)
      (.http .creatorCannotLeave 409 "Session creator must cancel instead")
    requireBinding expected gameId userId session (fun _ => True)
      "Room finalization binding is invalid" "Player finalization binding is invalid"
    let db ← select id
    let reservation ← checkSome
      (db.economy.reservations.find? fun row =>
        row.gameSessionId = gameId ∧ row.userId = userId ∧ row.status = .reserved)
      (.http .reservationNotFound 404 "Reservation was not found")
    check (∀ binding ∈ expected, reservation.id = binding.reservationId)
      (sessionForbidden "Reservation finalization binding is invalid")
    insertOperation
      (pendingOperation fresh.operationId userId .releaseJoinIntent idempotencyKey hash)
    leaveSeat fresh.operationId reservation now
    commitWithResponse fresh.operationId

noncomputable def releaseJoinIntent (userId gameId idempotencyKey : String) (fresh : Fresh)
    (now : ℤ) : ApiTx OperationResponse :=
  releaseJoinIntentForUser userId gameId idempotencyKey (digests.requestHash (.session gameId)) none
    fresh now

/-- The open reservations of a session, in the order of their users. -/
def reservedInSession (db : Database) (gameId : String) : List ReservationRow :=
  orderBy ReservationRow.userId
    (db.economy.reservations.filter fun row => row.gameSessionId = gameId ∧ row.status = .reserved)

/-- Release every reservation of a session and close it; its players keep a line of history. -/
def closeWaitingSession (operationId gameId : String) (reservations : List ReservationRow)
    (now : ℤ) : ApiTx Unit := do
  updateSession gameId .cancelling id
  reservations.forM fun reservation => releaseReservation operationId reservation now
  updateJoinIntents
    (fun row => row.gameSessionId = gameId ∧ (row.status = .pending ∨ row.status = .admitted))
    (fun _ => .released) now
  let players ← select (·.game.players)
  (players.filter fun row => row.gameSessionId = gameId ∧ row.active = true).forM fun row =>
    insertHistoryIfAbsent ⟨row.gameSessionId, row.userId, row.playerId, .cancelled, 0, now⟩
  deletePlayers fun row => row.gameSessionId = gameId
  expireUnusedTickets (fun row => row.gameSessionId = gameId) now
  updateSession gameId .cancelled fun row => { row with cancelledAt := some now }

noncomputable def cancelSessionForUser (userId gameId idempotencyKey hash : String)
    (expected : Option RoomBinding) (fresh : Fresh) (now : ℤ) : ApiTx OperationResponse := do
  let creator ← checkSome (findSession (← select id) gameId) sessionNotFound
  check (creator.creatorUserId = userId)
    (sessionForbidden "Only the session creator can cancel")
  let prior ← findOperation userId .cancelSession idempotencyKey
  match prior with
  | some prior => do
    assertReplay prior hash .committed
    parseOperation prior.responseSnapshot
  | none => do
    let reservations := reservedInSession (← select id) gameId
    lockAccounts (reservations.map ReservationRow.userId) "Cancellation account set is incomplete"
    let session ← lockSession gameId
    check (session.lifecycle = .opened) (sessionNotOpen "Session is not open")
    requireNoRoom expected gameId "Cancellation must be finalized by the authoritative room"
    requireBinding expected gameId userId session (fun row => row.seatIndex = 0)
      "Room cancellation binding is invalid" "Creator cancellation binding is invalid"
    insertOperation (pendingOperation fresh.operationId userId .cancelSession idempotencyKey hash)
    closeWaitingSession fresh.operationId gameId reservations now
    commitWithResponse fresh.operationId

noncomputable def cancelSession (userId gameId idempotencyKey : String) (fresh : Fresh) (now : ℤ) :
    ApiTx OperationResponse :=
  cancelSessionForUser userId gameId idempotencyKey (digests.requestHash (.session gameId)) none
    fresh now

/-- Finalize in the database what a room has committed: its player left, or its creator cancelled
it. The player is known by the tickets issued for the seat, which are never deleted. -/
noncomputable def finalizeRoomCommand (gameId : String) (request : RoomSessionFinalizationRequest)
    (idempotencyKey : String) (fresh : Fresh) (now : ℤ) : ApiTx OperationResponse := do
  let tickets ← select (·.game.tickets)
  let actors := ((tickets.filter fun row => row.gameSessionId = gameId ∧
    row.roomId = request.roomId ∧ row.playerId = request.playerId ∧
    row.reservationId = request.reservationId).map TicketRow.userId).dedup
  let hash := digests.requestHash (.finalization gameId request)
  let expected : RoomBinding := ⟨request.roomId, request.playerId, request.reservationId⟩
  match actors with
  | [userId] =>
    match request.action with
    | .leave => releaseJoinIntentForUser userId gameId idempotencyKey hash (some expected) fresh now
    | .cancel => cancelSessionForUser userId gameId idempotencyKey hash (some expected) fresh now
  | _ => fail (sessionForbidden "Room finalization binding is invalid")

/-! ### What has expired -/

def waitingKey (gameId : String) : String := "reconcile:waiting:" ++ gameId

def ticketKey (reservationId : String) : String := "reconcile:ticket:" ++ reservationId

/-- Cancel a session that has waited too long for players; whether it was cancelled. -/
def cancelExpiredWaitingSession (gameId : String) (expiresBefore : ℤ) (fresh : Fresh) (now : ℤ) :
    ApiTx Bool := do
  let hash := digests.requestHash (.waitingExpired gameId)
  let db ← select id
  match (findSession db gameId).filter fun row => row.createdAt ≤ expiresBefore with
  | none => return false
  | some row => do
    let prior ← findOperation row.creatorUserId .cancelSession (waitingKey gameId)
    match prior with
    | some prior => do
      assertReplay prior hash .committed
      return false
    | none => do
      let reservations := reservedInSession db gameId
      lockAccounts (reservations.map ReservationRow.userId)
        "Waiting cancellation account set is incomplete"
      let session ← lockSession gameId
      if session.lifecycle = .opened ∧ session.createdAt ≤ expiresBefore then do
        insertOperation (pendingOperation fresh.operationId row.creatorUserId .cancelSession
          (waitingKey gameId) hash)
        closeWaitingSession fresh.operationId gameId reservations now
        let _ ← commitWithResponse fresh.operationId
        return true
      else return false

/-- A reservation whose ticket has expired unused, and which holds no seat. -/
abbrev ExpiredAdmission (db : Database) (expiredBefore : ℤ) (r : ReservationRow) : Prop :=
  r.status = .reserved ∧
  (∃ ticket ∈ db.game.tickets, ticket.reservationId = r.id ∧ ticket.consumption = none ∧
    ticket.expiresAt ≤ expiredBefore) ∧
  ∀ player ∈ db.game.players, ¬ (player.reservationId = r.id ∧ player.active = true)

def releaseExpiredAdmission (reservationId : String) (expiredBefore : ℤ) (fresh : Fresh)
    (now : ℤ) : ApiTx Bool := do
  let hash := digests.requestHash (.ticketExpired reservationId)
  let db ← select id
  match db.economy.reservations.find? fun row => row.id = reservationId with
  | none => return false
  | some row => do
    let _ ← lockAccount row.userId
    let session ← lockSession row.gameSessionId
    if session.lifecycle ≠ .opened then return false
    else do
      let prior ← findOperation row.userId .releaseJoinIntent (ticketKey reservationId)
      match prior with
      | some prior => do
        assertReplay prior hash .committed
        return false
      | none =>
        match db.economy.reservations.find? fun row =>
            row.id = reservationId ∧ ExpiredAdmission db expiredBefore row with
        | none => return false
        | some reservation => do
          insertOperation (pendingOperation fresh.operationId row.userId .releaseJoinIntent
            (ticketKey reservationId) hash)
          releaseReservation fresh.operationId reservation now
          updateJoinIntents
            (fun row => row.reservationId = reservationId ∧
              (row.status = .pending ∨ row.status = .admitted))
            (fun status => if status = .pending then .expired else .released) now
          expireUnusedTickets (fun row => row.reservationId = reservationId) now
          let _ ← commitWithResponse fresh.operationId
          return true

end Service

end Pootown.Api
