import Mathlib.Tactic
import Pootown.Api.GameSessions

/-!
# The settlement service

A session that has started ends in one of two ways: completed, when a room has committed the proof
that the match is over, and the winner is paid what all have put in; or aborted, and all are paid
back.
-/

namespace Pootown.Api

open Tables Transactions

/-- The largest balance of an account. -/
def maxAccountCoin : ℤ := 10 ^ 78 - 1

def terminalProofInvalid (message : String) : Failure := .http .terminalProofInvalid 409 message

def accountCoinOverflow : Failure :=
  .http .accountCoinOverflow 409 "Settlement payout exceeds the account-coin limit"

/-- An open reservation with the seat that it holds. -/
structure Participant where
  reservation : ReservationRow
  playerId : String

/-- The active players of a session whose reservation is open, in the order of their users. -/
def participants (db : Database) (gameId : String) : List Participant :=
  orderBy (fun p => p.reservation.userId)
    ((db.economy.reservations.filter fun row =>
        row.gameSessionId = gameId ∧ row.status = .reserved).flatMap fun reservation =>
      (db.game.players.filter fun player => player.reservationId = reservation.id ∧
        player.gameSessionId = gameId ∧ player.active = true).map fun player =>
          ⟨reservation, player.playerId⟩)

def replay (operation : OperationRow) (hash : String) : ApiTx OperationResponse := do
  check (operation.requestHash = hash) idempotencyConflict
  check (operation.status = .committed) (.error "Settlement operation is incomplete")
  parseOperation operation.responseSnapshot

def requireNoSettlement (gameId : String) : ApiTx Unit := do
  let settlements ← select (·.economy.settlements)
  check (∀ row ∈ settlements, row.gameSessionId ≠ gameId)
    (.http .settlementAlreadyCommitted 409 "Session already has a terminal settlement")

/-- What the leaderboard says that a user has won. -/
def accountCoinWon (db : Database) (userId : String) : ℤ :=
  ((db.readModel.leaderboard.find? fun row => row.userId = userId).map
    LeaderboardRow.accountCoinWon).getD 0

def assertPayoutFits (winnerUserId : String) (prize : ℤ) : ApiTx Unit := do
  check (prize ≤ maxAccountCoin) accountCoinOverflow
  let db ← select id
  check (∃ account ∈ db.economy.accounts, account.userId = winnerUserId ∧
      account.availableCoin + prize ≤ maxAccountCoin ∧
      accountCoinWon db winnerUserId + prize ≤ maxAccountCoin)
    accountCoinOverflow

def captureReservation (operationId : String) (reservation : ReservationRow) (now : ℤ) :
    ApiTx Unit := do
  if 0 < reservation.amount then
    moveCoin reservation.userId (fun account => reservation.amount ≤ account.reservedCoin)
      0 (-reservation.amount) (.error "Reservation balance cannot be captured")
    let ledger ← ledgerAccount reservation.userId .userReserved "User ledger account is missing"
    insertEntry ⟨operationId, ledger, -reservation.amount⟩
  closeReservation reservation.id .captured operationId now

/-- Release the reservation of a participant in an aborted session. -/
def releaseParticipant (operationId : String) (reservation : ReservationRow) (now : ℤ) :
    ApiTx Unit :=
  giveBack "User ledger account is missing" operationId reservation now

def creditWinner (operationId userId : String) (amount : ℤ) : ApiTx Unit := do
  let _ ← updateAccount userId (fun _ => True) (AccountRow.move amount 0)
  let ledger ← ledgerAccount userId .userAvailable "User ledger account is missing"
  insertEntry ⟨operationId, ledger, amount⟩

/-- The share of a participant in the outcome of a completed session. -/
def completedHistory (gameId winnerUserId : String) (prize now : ℤ) (p : Participant) :
    HistoryRow :=
  let won := p.reservation.userId = winnerUserId
  ⟨gameId, p.reservation.userId, p.playerId, if won then .won else .lost,
    (if won then prize else 0) - p.reservation.amount, now⟩

def abortedHistory (gameId : String) (now : ℤ) (p : Participant) : HistoryRow :=
  ⟨gameId, p.reservation.userId, p.playerId, .aborted, 0, now⟩

def writeCompletedHistory (gameId winnerUserId : String) (prize now : ℤ) (p : Participant) :
    ApiTx Unit := do
  let won := p.reservation.userId = winnerUserId
  insertHistory (completedHistory gameId winnerUserId prize now p)
  upsertLeaderboard ⟨p.reservation.userId, p.playerId, 1, if won then 1 else 0,
    if won then prize else 0⟩

/-- Move a session through settling to settled. -/
def finishSession (gameId : String) (f : SessionRow → SessionRow) (now : ℤ) : ApiTx Unit := do
  updateSession gameId .settling f
  updateSession gameId .settled fun row => { row with finishedAt := some now }

section Service

variable (digests : Digests)

/-- The proof of the room that the match is over, when the request is right about it. -/
def matchingProof (db : Database) (gameId : String) (session : SessionRow)
    (request : SettlementRequest) : Option Server.ProofRow :=
  (db.realtime.proofs gameId).filter fun proof => proof.roomId = request.roomId ∧
    proof.stateVersion = request.terminalStateVersion ∧ session.stateVersion ≤ proof.stateVersion ∧
    proof.checkpointChecksum = request.checkpointChecksum

/-- Pay the prize of a session to its winner, and close it. -/
def complete (gameId creatorUserId : String) (request : SettlementRequest) (idempotencyKey hash : String)
    (seated : List Participant) (winner : Participant) (fresh : Fresh) (now : ℤ) :
    ApiTx OperationResponse := do
  let total := (seated.map fun p => p.reservation.amount).sum
  assertPayoutFits winner.reservation.userId total
  insertOperation
    (pendingOperation fresh.operationId creatorUserId .settleSession idempotencyKey hash)
  seated.forM fun p => captureReservation fresh.operationId p.reservation now
  if 0 < total then creditWinner fresh.operationId winner.reservation.userId total
  insertSettlement ⟨fresh.settlementId, gameId, .completed request.terminalStateVersion
    request.checkpointChecksum winner.reservation.userId, fresh.operationId⟩
  seated.forM (writeCompletedHistory gameId winner.reservation.userId total now)
  finishSession gameId (fun row => { row with stateVersion := request.terminalStateVersion }) now
  commitWithResponse fresh.operationId

def settle (gameId : String) (request : SettlementRequest) (idempotencyKey : String)
    (fresh : Fresh) (now : ℤ) : ApiTx OperationResponse := do
  let hash := digests.requestHash (.settlement gameId request)
  let seated := participants (← select id) gameId
  lockAccounts (seated.map fun p => p.reservation.userId) "Settlement coin account is missing"
  let session ← lockSession gameId
  let prior ← findOperation session.creatorUserId .settleSession idempotencyKey
  match prior with
  | some prior => replay prior hash
  | none => do
    requireNoSettlement gameId
    check (session.roomId = request.roomId)
      (terminalProofInvalid "Terminal proof room binding is invalid")
    check (session.lifecycle = .active ∨ session.lifecycle = .settling ∨
        session.lifecycle = .recoveryRequired)
      (sessionNotOpen "Session is not active for settlement")
    let proof ← checkSome (matchingProof (← select id) gameId session request)
      (terminalProofInvalid "Terminal checkpoint proof is invalid")
    check (2 ≤ seated.length) (terminalProofInvalid "Settlement requires seated participants")
    let winner ← checkSome (seated.find? fun p => p.playerId = proof.winnerPlayerId)
      (terminalProofInvalid "Terminal winner is not seated")
    complete gameId session.creatorUserId request idempotencyKey hash seated winner fresh now

/-- Pay back all who are seated in a session, and close it. -/
def payBack (gameId creatorUserId : String) (reason : AbortReason) (idempotencyKey hash : String)
    (seated : List Participant) (fresh : Fresh) (now : ℤ) : ApiTx OperationResponse := do
  insertOperation
    (pendingOperation fresh.operationId creatorUserId .abortSession idempotencyKey hash)
  seated.forM fun p => releaseParticipant fresh.operationId p.reservation now
  insertSettlement ⟨fresh.settlementId, gameId, .aborted reason, fresh.operationId⟩
  seated.forM fun p => insertHistory (abortedHistory gameId now p)
  finishSession gameId id now
  commitWithResponse fresh.operationId

def abort (gameId : String) (reason : AbortReason) (idempotencyKey : String) (fresh : Fresh)
    (now : ℤ) : ApiTx OperationResponse := do
  let hash := digests.requestHash (.abort gameId reason)
  let seated := participants (← select id) gameId
  lockAccounts (seated.map fun p => p.reservation.userId) "Settlement coin account is missing"
  let session ← lockSession gameId
  let prior ← findOperation session.creatorUserId .abortSession idempotencyKey
  match prior with
  | some prior => replay prior hash
  | none => do
    requireNoSettlement gameId
    check (session.lifecycle = .active ∨ session.lifecycle = .recoveryRequired)
      (sessionNotOpen "Session is not active for abort")
    payBack gameId session.creatorUserId reason idempotencyKey hash seated fresh now

end Service

end Pootown.Api
