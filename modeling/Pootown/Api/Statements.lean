import Mathlib.Tactic
import Pootown.Library.Transactions
import Pootown.Api.Schema

/-!
# Statements

What one statement does to the database under the constraints and triggers of the schema, and how
a transaction of them commits. A constraint or a trigger that refuses a row fails the transaction;
deferred triggers are collected and run at the commit.

* `insertOperation`, `updateAccount`, `insertEntry`, …: one definition per kind of statement;
* `Deferred`, `Deferred.Holds`: the deferred triggers;
* `withTransaction`: all statements and the deferred triggers, or nothing.
-/

namespace Pootown.Api

open Tables Transactions

/-! ### Deferred triggers -/

inductive Deferred
  | balancedOperation (operationId : String)
  | sessionPlayerCapacity (gameSessionId : String) (seatIndex : ℕ)
  | cancelledSessionClosed (gameSessionId : String) (lifecycle : SessionLifecycle)
  | terminalSettlementComplete (settlement : SettlementRow)
  | settledSessionHasOutcome (gameSessionId : String) (lifecycle : SessionLifecycle)

/-- The entry is on the account of this kind that belongs to the user. -/
abbrev OnAccount (economy : Economy) (userId : String) (kind : LedgerKind)
    (entry : LedgerEntryRow) : Prop :=
  ∃ ledger ∈ economy.ledgerAccounts, ledger.id = entry.ledgerAccountId ∧
    ledger.ownerUserId = some userId ∧ ledger.kind = kind

/-- The sum of the entries on a user's account, as the reconciliation view has it. -/
def ledgerBalance (economy : Economy) (userId : String) (kind : LedgerKind) : ℤ :=
  sumWhere (OnAccount economy userId kind) LedgerEntryRow.amount economy.ledgerEntries

/-- The sum of the entries of an operation. -/
def operationBalance (economy : Economy) (operationId : String) : ℤ :=
  sumWhere (fun entry => entry.operationId = operationId) LedgerEntryRow.amount
    economy.ledgerEntries

def entriesOf (economy : Economy) (operationId : String) : List LedgerEntryRow :=
  economy.ledgerEntries.filter fun entry => entry.operationId = operationId

/-- The operation closed reservations, all of amount zero. -/
abbrev ClosesOnlyZero (economy : Economy) (operationId : String) : Prop :=
  (∃ r ∈ economy.reservations, r.terminalOperationId = some operationId ∧ r.amount = 0) ∧
    ∀ r ∈ economy.reservations, r.terminalOperationId = some operationId → r.amount = 0

/-- An operation that may be committed without entries. -/
abbrev ZeroLedgerAllowed (economy : Economy) (operation : OperationRow) : Prop :=
  match operation.scope with
  | .createSession | .joinIntent =>
    ∃ r ∈ economy.reservations, r.operationId = operation.id ∧ r.amount = 0
  | .releaseJoinIntent | .cancelSession => ClosesOnlyZero economy operation.id
  | .settleSession | .abortSession =>
    (∃ s ∈ economy.settlements, s.operationId = operation.id) ∧
      ClosesOnlyZero economy operation.id
  | _ => False

instance (economy : Economy) (operation : OperationRow) :
    Decidable (ZeroLedgerAllowed economy operation) := by
  unfold ZeroLedgerAllowed
  split <;> infer_instance

abbrev BalancedOperation (economy : Economy) (operationId : String) : Prop :=
  ∀ operation ∈ economy.operations, operation.id = operationId →
    operation.status = .committed →
      operationBalance economy operationId = 0 ∧
        (2 ≤ (entriesOf economy operationId).length ∨ ZeroLedgerAllowed economy operation)

/-- The active players of a session with their reservations. -/
def seatedReservations (db : Database) (gameId : String) : List (PlayerRow × ReservationRow) :=
  (db.game.players.filter fun player => player.gameSessionId = gameId ∧ player.active = true).flatMap
    fun player => (db.economy.reservations.filter fun r => r.id = player.reservationId).map
      fun r => (player, r)

/-- The entries of an operation on one user's account, of one amount. -/
def matchingEntries (economy : Economy) (operationId userId : String) (kind : LedgerKind)
    (amount : ℤ) : ℕ :=
  ((entriesOf economy operationId).filter fun entry =>
    OnAccount economy userId kind entry ∧ entry.amount = amount).length

abbrev HasHistory (db : Database) (player : PlayerRow) (result : SessionResult)
    (delta : ℤ) : Prop :=
  ∃ h ∈ db.readModel.history, h.gameSessionId = player.gameSessionId ∧ h.userId = player.userId ∧
    h.playerId = player.playerId ∧ h.result = result ∧ h.accountCoinDelta = delta

/-- What the trigger on settlements asks of a completed session. -/
abbrev CompletedSettlement (db : Database) (gameId operationId : String)
    (terminalStateVersion : ℤ) (checkpointChecksum winnerUserId : String) : Prop :=
  let seated := seatedReservations db gameId
  let total := (seated.map fun seat => seat.2.amount).sum
  (∃ proof ∈ db.realtime.proofs gameId, proof.stateVersion = terminalStateVersion ∧
    proof.checkpointChecksum = checkpointChecksum ∧
    ∃ player ∈ db.game.players, player.gameSessionId = gameId ∧
      player.playerId = proof.winnerPlayerId ∧ player.userId = winnerUserId) ∧
  (∀ r ∈ db.economy.reservations, r.gameSessionId = gameId → r.status ≠ .reserved) ∧
  (∀ seat ∈ seated, seat.2.status = .captured ∧ seat.2.terminalOperationId = some operationId) ∧
  (entriesOf db.economy operationId).length =
    (seated.filter fun seat => seat.2.amount ≠ 0).length + (if 0 < total then 1 else 0) ∧
  (∀ seat ∈ seated, seat.2.amount ≠ 0 →
    matchingEntries db.economy operationId seat.2.userId .userReserved (-seat.2.amount) = 1) ∧
  matchingEntries db.economy operationId winnerUserId .userAvailable total =
    (if 0 < total then 1 else 0) ∧
  ∀ seat ∈ seated, HasHistory db seat.1
    (if seat.1.userId = winnerUserId then .won else .lost)
    (if seat.1.userId = winnerUserId then total - seat.2.amount else -seat.2.amount)

/-- What the trigger on settlements asks of an aborted session. -/
abbrev AbortedSettlement (db : Database) (gameId operationId : String) : Prop :=
  let seated := seatedReservations db gameId
  (∀ r ∈ db.economy.reservations, r.gameSessionId = gameId → r.status = .released) ∧
  (∀ seat ∈ seated, seat.2.terminalOperationId = some operationId) ∧
  (entriesOf db.economy operationId).length =
    (seated.filter fun seat => seat.2.amount ≠ 0).length * 2 ∧
  (∀ seat ∈ seated, seat.2.amount ≠ 0 →
    matchingEntries db.economy operationId seat.2.userId .userAvailable seat.2.amount = 1 ∧
    matchingEntries db.economy operationId seat.2.userId .userReserved (-seat.2.amount) = 1) ∧
  ∀ player ∈ db.game.players, player.gameSessionId = gameId → player.active = true →
    HasHistory db player .aborted 0

def SettlementKind.operationScope : SettlementKind → OperationScope
  | .completed .. => .settleSession
  | .aborted _ => .abortSession

def KindSettlement (db : Database) (settlement : SettlementRow) : Prop :=
  match settlement.kind with
  | .completed terminalStateVersion checkpointChecksum winnerUserId =>
    CompletedSettlement db settlement.gameSessionId settlement.operationId terminalStateVersion
      checkpointChecksum winnerUserId
  | .aborted _ => AbortedSettlement db settlement.gameSessionId settlement.operationId

instance (db : Database) (settlement : SettlementRow) :
    Decidable (KindSettlement db settlement) := by
  unfold KindSettlement
  split <;> infer_instance

abbrev TerminalSettlement (db : Database) (settlement : SettlementRow) : Prop :=
  (∃ session ∈ db.game.sessions, session.id = settlement.gameSessionId ∧
    session.lifecycle = .settled ∧
    ∃ operation ∈ db.economy.operations, operation.id = settlement.operationId ∧
      operation.status = .committed ∧ operation.actorUserId = session.creatorUserId ∧
      operation.scope = settlement.kind.operationScope) ∧
  2 ≤ (seatedReservations db settlement.gameSessionId).length ∧
  (∀ account ∈ db.economy.accounts, (∃ player ∈ db.game.players,
      player.gameSessionId = settlement.gameSessionId ∧ player.active = true ∧
        player.userId = account.userId) →
    account.availableCoin = ledgerBalance db.economy account.userId .userAvailable ∧
      account.reservedCoin = ledgerBalance db.economy account.userId .userReserved) ∧
  KindSettlement db settlement

/-- The condition that a deferred trigger checks at the commit. -/
def Deferred.Holds (db : Database) : Deferred → Prop
  | .balancedOperation operationId => BalancedOperation db.economy operationId
  | .sessionPlayerCapacity gameSessionId seatIndex =>
    ∀ session ∈ db.game.sessions, session.id = gameSessionId → seatIndex < session.maximumPlayers
  | .cancelledSessionClosed gameSessionId lifecycle =>
    lifecycle = .cancelled →
      (∀ r ∈ db.economy.reservations, r.gameSessionId = gameSessionId → r.status ≠ .reserved) ∧
      (∀ player ∈ db.game.players, player.gameSessionId ≠ gameSessionId) ∧
      ∀ intent ∈ db.game.joinIntents, intent.gameSessionId = gameSessionId →
        intent.status ≠ .pending ∧ intent.status ≠ .admitted
  | .terminalSettlementComplete settlement => TerminalSettlement db settlement
  | .settledSessionHasOutcome gameSessionId lifecycle =>
    lifecycle = .settled →
      ∃ settlement ∈ db.economy.settlements, settlement.gameSessionId = gameSessionId

instance (db : Database) (deferred : Deferred) : Decidable (deferred.Holds db) := by
  cases deferred <;> (unfold Deferred.Holds; infer_instance)

def Deferred.failure : Deferred → Failure
  | .balancedOperation _ => .database "coin operation is not balanced"
  | .sessionPlayerCapacity .. => .database "seat exceeds session capacity"
  | .cancelledSessionClosed .. => .database "cancelled session still has active admission state"
  | .terminalSettlementComplete _ => .database "terminal settlement is not complete"
  | .settledSessionHasOutcome .. => .database "settled session has no terminal outcome"

/-! ### Transactions -/

/-- The database as a transaction has left it so far, and the triggers it has put off. -/
structure Working where
  db : Database
  deferred : List Deferred

abbrev ApiTx (α : Type) : Type := Tx Working Failure α

/-- Run `work`, then the triggers it has put off; a failure leaves the database as it was. -/
def withTransaction {α : Type} (work : ApiTx α) (db : Database) : Except Failure (α × Database) :=
  match work ⟨db, []⟩ with
  | .error failure => .error failure
  | .ok (a, s) =>
    match s.deferred.find? fun deferred => ¬ deferred.Holds s.db with
    | some deferred => .error deferred.failure
    | none => .ok (a, s.db)

def select {α : Type} (query : Database → α) : ApiTx α := fun s => .ok (query s.db, s)

def modify (f : Database → Database) : ApiTx Unit := write fun s => { s with db := f s.db }

def modifyEconomy (f : Economy → Economy) : ApiTx Unit :=
  modify fun db => { db with economy := f db.economy }

def modifyGame (f : Game → Game) : ApiTx Unit := modify fun db => { db with game := f db.game }

def modifyReadModel (f : ReadModel → ReadModel) : ApiTx Unit :=
  modify fun db => { db with readModel := f db.readModel }

def defer (deferred : Deferred) : ApiTx Unit :=
  write fun s => { s with deferred := s.deferred ++ [deferred] }

/-- The range of `numeric(78, 0)`. -/
abbrev FitsNumeric (x : ℤ) : Prop := -(10 ^ 78) < x ∧ x < 10 ^ 78

/-! ### Accounts and ledger -/

def insertAccountIfAbsent (userId : String) : ApiTx Unit := do
  let accounts ← select (·.economy.accounts)
  if ∃ account ∈ accounts, account.userId = userId then pure ()
  else
    check (userId ∈ (← select (·.users))) (.database "coin_accounts_user_id_fkey")
    modifyEconomy fun e => { e with accounts := e.accounts ++ [⟨userId, 0, 0, 0, none⟩] }

/-- Rewrite the account of a user if it passes `guard`; the account after it, if there is one. -/
def updateAccount (userId : String) (guard : AccountRow → Prop) [DecidablePred guard]
    (f : AccountRow → AccountRow) : ApiTx (Option AccountRow) := do
  let accounts ← select (·.economy.accounts)
  match accounts.find? fun account => account.userId = userId with
  | none => return none
  | some account =>
    if guard account then
      check (0 ≤ (f account).availableCoin ∧ FitsNumeric (f account).availableCoin)
        (.database "coin_accounts_available_coin_check")
      check (0 ≤ (f account).reservedCoin ∧ FitsNumeric (f account).reservedCoin)
        (.database "coin_accounts_reserved_coin_check")
      modifyEconomy fun e =>
        { e with accounts := updateWhere (fun other => other.userId = userId) f e.accounts }
      return some (f account)
    else return none

def insertLedgerAccountIfAbsent (row : LedgerAccountRow) (conflict : LedgerAccountRow → Prop)
    [DecidablePred conflict] : ApiTx Unit := do
  let rows ← select (·.economy.ledgerAccounts)
  if ∃ other ∈ rows, conflict other then pure ()
  else
    check (∀ other ∈ rows, other.id ≠ row.id) (.database "ledger_accounts_pkey")
    check (∀ other ∈ rows, ¬ (other.ownerUserId = row.ownerUserId ∧ other.kind = row.kind))
      (.database "ledger_accounts_owner_user_id_kind_key")
    modifyEconomy fun e => { e with ledgerAccounts := e.ledgerAccounts ++ [row] }

def sameKey (row other : OperationRow) : Prop :=
  other.actorUserId = row.actorUserId ∧ other.scope = row.scope ∧
    other.idempotencyKey = row.idempotencyKey

instance (row other : OperationRow) : Decidable (sameKey row other) :=
  inferInstanceAs (Decidable (_ ∧ _))

def insertOperation (row : OperationRow) : ApiTx Unit := do
  let db ← select id
  check (∀ other ∈ db.economy.operations, other.id ≠ row.id) (.database "coin_operations_pkey")
  check (∀ other ∈ db.economy.operations, ¬ sameKey row other)
    (.database "coin_operations_actor_user_id_operation_scope_idempotency_k_key")
  check (row.actorUserId ∈ db.users) (.database "coin_operations_actor_user_id_fkey")
  modifyEconomy fun e => { e with operations := e.operations ++ [row] }
  defer (.balancedOperation row.id)

/-- `insertOperation`, unless there is one under its key; whether there was none. -/
def insertOperationIfAbsent (row : OperationRow) : ApiTx Bool := do
  let operations ← select (·.economy.operations)
  if ∃ other ∈ operations, sameKey row other then return false
  else
    insertOperation row
    return true

def commitOperation (operationId : String) (response : ResponseSnapshot) : ApiTx Unit := do
  let operations ← select (·.economy.operations)
  check (∀ row ∈ operations, row.id = operationId → row.status = .pending)
    (.database "terminal coin operation is immutable")
  modifyEconomy fun e => { e with
    operations := updateWhere (fun row => row.id = operationId)
      (fun row => { row with status := .committed, responseSnapshot := some response })
      e.operations }
  defer (.balancedOperation operationId)

def insertEntry (row : LedgerEntryRow) : ApiTx Unit := do
  let economy ← select (·.economy)
  check (∀ operation ∈ economy.operations, operation.id = row.operationId →
      operation.status = .pending)
    (.database "cannot append to a terminal coin operation")
  check (∃ operation ∈ economy.operations, operation.id = row.operationId)
    (.database "coin_ledger_entries_operation_id_fkey")
  check (∃ ledger ∈ economy.ledgerAccounts, ledger.id = row.ledgerAccountId)
    (.database "coin_ledger_entries_ledger_account_id_fkey")
  check (row.amount ≠ 0 ∧ FitsNumeric row.amount) (.database "coin_ledger_entries_amount_check")
  modifyEconomy fun e => { e with ledgerEntries := e.ledgerEntries ++ [row] }
  defer (.balancedOperation row.operationId)

/-! ### Reservations and settlements -/

/-- The trigger on admissions: the session is open. -/
def requireOpenSession (gameId : String) : ApiTx Unit := do
  let sessions ← select (·.game.sessions)
  check (∃ session ∈ sessions, session.id = gameId ∧ session.lifecycle = .opened)
    (.database "session is not open for admission")

def insertReservation (row : ReservationRow) : ApiTx Unit := do
  requireOpenSession row.gameSessionId
  let db ← select id
  check (∀ other ∈ db.economy.reservations, other.id ≠ row.id)
    (.database "coin_reservations_pkey")
  check (∃ operation ∈ db.economy.operations, operation.id = row.operationId)
    (.database "coin_reservations_operation_id_fkey")
  check (row.userId ∈ db.users) (.database "coin_reservations_user_id_fkey")
  check (0 ≤ row.amount ∧ FitsNumeric row.amount) (.database "coin_reservations_amount_check")
  check (∀ other ∈ db.economy.reservations, ¬ (other.status = .reserved ∧
      other.gameSessionId = row.gameSessionId ∧ other.userId = row.userId))
    (.database "coin_reservations_one_active_per_user_session")
  modifyEconomy fun e => { e with reservations := e.reservations ++ [row] }

/-- Close a reservation: it must be open, and is so once. -/
def closeReservation (reservationId : String) (status : ReservationStatus) (operationId : String)
    (now : ℤ) : ApiTx Unit := do
  let economy ← select (·.economy)
  check (∀ row ∈ economy.reservations, row.id = reservationId →
      row.status = .reserved ∧ status ≠ .reserved)
    (.database "invalid reservation transition")
  check (∃ operation ∈ economy.operations, operation.id = operationId)
    (.database "coin_reservations_terminal_operation_id_fkey")
  check (∀ row ∈ economy.reservations, row.id = reservationId → row.createdAt ≤ now)
    (.database "reservation_terminal_timestamp")
  modifyEconomy fun e => { e with
    reservations := updateWhere (fun row => row.id = reservationId)
      (fun row => { row with
        status := status
        terminalAt := some now
        terminalOperationId := some operationId })
      e.reservations }

def insertSettlement (row : SettlementRow) : ApiTx Unit := do
  let settlements ← select (·.economy.settlements)
  check (∀ other ∈ settlements, other.id ≠ row.id) (.database "game_settlements_pkey")
  check (∀ other ∈ settlements, other.operationId ≠ row.operationId)
    (.database "game_settlements_operation_id_key")
  check (∀ other ∈ settlements, other.gameSessionId ≠ row.gameSessionId)
    (.database "game_settlements_one_terminal_outcome")
  modifyEconomy fun e => { e with settlements := e.settlements ++ [row] }
  defer (.terminalSettlementComplete row)

/-! ### Sessions -/

/-- The lifecycle changes that the trigger on sessions lets pass. -/
def lifecycleTransition : SessionLifecycle → SessionLifecycle → Bool
  | .opened, .active | .opened, .cancelling => true
  | .cancelling, .cancelled => true
  | .active, .settling | .active, .recoveryRequired => true
  | .recoveryRequired, .active | .recoveryRequired, .settling => true
  | .settling, .settled | .settling, .recoveryRequired => true
  | _, _ => false

abbrev ValidSessionUpdate (old new : SessionRow) : Prop :=
  (old.lifecycle ≠ new.lifecycle → lifecycleTransition old.lifecycle new.lifecycle = true) ∧
    old.stateVersion ≤ new.stateVersion

/-- The times that the lifecycle of a session asks for. -/
def lifecycleTimestamps (s : SessionRow) : Bool :=
  match s.lifecycle with
  | .opened | .cancelling => s.startedAt.isNone && s.finishedAt.isNone && s.cancelledAt.isNone
  | .cancelled => s.startedAt.isNone && s.finishedAt.isNone && s.cancelledAt.isSome
  | .active | .recoveryRequired | .settling =>
    s.startedAt.isSome && decide (0 < s.stateVersion) && s.finishedAt.isNone &&
      s.cancelledAt.isNone
  | .settled =>
    s.startedAt.isSome && decide (0 < s.stateVersion) && s.finishedAt.isSome &&
      s.cancelledAt.isNone

abbrev SessionTimestamps (s : SessionRow) : Prop :=
  (∀ t ∈ s.startedAt, s.createdAt ≤ t) ∧ (∀ t ∈ s.finishedAt, s.createdAt ≤ t) ∧
  (∀ t ∈ s.cancelledAt, s.createdAt ≤ t) ∧ lifecycleTimestamps s = true ∧
  (s.lifecycle = .recoveryRequired → s.recoveryRequiredAt.isSome = true) ∧
  ∀ t ∈ s.recoveryRequiredAt, ∃ t' ∈ s.startedAt, t' ≤ t

def deferLifecycle (gameId : String) (lifecycle : SessionLifecycle) : ApiTx Unit := do
  defer (.cancelledSessionClosed gameId lifecycle)
  defer (.settledSessionHasOutcome gameId lifecycle)

def insertSession (row : SessionRow) : ApiTx Unit := do
  let db ← select id
  check (∀ other ∈ db.game.sessions, other.id ≠ row.id) (.database "game_sessions_pkey")
  check (∀ other ∈ db.game.sessions, other.roomId ≠ row.roomId)
    (.database "game_sessions_room_id_key")
  check (row.creatorUserId ∈ db.users) (.database "game_sessions_creator_user_id_fkey")
  check (∃ definition ∈ db.game.definitions, definition.id = row.gameDefinitionId ∧
      definition.policyVersion = row.gameDefinitionVersion)
    (.database "game_sessions_game_definition_id_game_definition_version_fkey")
  check (2 ≤ row.maximumPlayers ∧ row.maximumPlayers ≤ 4)
    (.database "game_sessions_maximum_players_check")
  check (0 ≤ row.entryCoin ∧ FitsNumeric row.entryCoin) (.database "game_sessions_entry_coin_check")
  check (SessionTimestamps row) (.database "session_lifecycle_timestamps")
  modifyGame fun g => { g with sessions := g.sessions ++ [row] }
  defer (.cancelledSessionClosed row.id row.lifecycle)

/-- Rewrite a session; `f` leaves alone what the policy of a session fixes. -/
def updateSession (gameId : String) (lifecycle : SessionLifecycle) (f : SessionRow → SessionRow) :
    ApiTx Unit := do
  let sessions ← select (·.game.sessions)
  check (∀ row ∈ sessions, row.id = gameId →
      ValidSessionUpdate row { f row with lifecycle := lifecycle })
    (.database "invalid session lifecycle transition")
  check (∀ row ∈ sessions, row.id = gameId → SessionTimestamps { f row with lifecycle := lifecycle })
    (.database "session_lifecycle_timestamps")
  modifyGame fun g => { g with
    sessions := updateWhere (fun row => row.id = gameId) (fun row => { f row with lifecycle := lifecycle })
      g.sessions }
  deferLifecycle gameId lifecycle

/-- The reservation that a seat, an intent or a ticket refers to is there. -/
abbrev RefersTo (economy : Economy) (reservationId userId gameId : String) : Prop :=
  ∃ r ∈ economy.reservations, r.id = reservationId ∧ r.userId = userId ∧ r.gameSessionId = gameId

def insertPlayer (row : PlayerRow) : ApiTx Unit := do
  requireOpenSession row.gameSessionId
  let db ← select id
  check (∀ other ∈ db.game.players,
      ¬ (other.gameSessionId = row.gameSessionId ∧ other.playerId = row.playerId))
    (.database "session_players_pkey")
  check (∀ other ∈ db.game.players,
      ¬ (other.gameSessionId = row.gameSessionId ∧ other.userId = row.userId))
    (.database "session_players_game_session_id_user_id_key")
  check (∀ other ∈ db.game.players,
      ¬ (other.gameSessionId = row.gameSessionId ∧ other.seatIndex = row.seatIndex))
    (.database "session_players_game_session_id_seat_index_key")
  check (∀ other ∈ db.game.players, other.reservationId ≠ row.reservationId)
    (.database "session_players_reservation_id_key")
  check (row.seatIndex ≤ 3) (.database "session_players_seat_index_check")
  check (RefersTo db.economy row.reservationId row.userId row.gameSessionId)
    (.database "session_players_reservation_id_user_id_game_session_id_fkey")
  modifyGame fun g => { g with players := g.players ++ [row] }
  defer (.sessionPlayerCapacity row.gameSessionId row.seatIndex)

def deletePlayers (p : PlayerRow → Prop) [DecidablePred p] : ApiTx Unit :=
  modifyGame fun g => { g with players := g.players.filter fun row => ¬ p row }

/-! ### Intents and tickets -/

def insertJoinIntent (row : JoinIntentRow) : ApiTx Unit := do
  requireOpenSession row.gameSessionId
  let db ← select id
  check (∀ other ∈ db.game.joinIntents, other.id ≠ row.id) (.database "join_intents_pkey")
  check (∀ other ∈ db.game.joinIntents, other.reservationId ≠ row.reservationId)
    (.database "join_intents_reservation_id_key")
  check (∀ other ∈ db.game.joinIntents, ¬ ((other.status = .pending ∨ other.status = .admitted) ∧
      other.gameSessionId = row.gameSessionId ∧ other.userId = row.userId))
    (.database "join_intents_one_active_per_user_session")
  check (RefersTo db.economy row.reservationId row.userId row.gameSessionId)
    (.database "join_intents_reservation_id_user_id_game_session_id_fkey")
  modifyGame fun g => { g with joinIntents := g.joinIntents ++ [row] }

def joinIntentTransition : JoinIntentStatus → JoinIntentStatus → Bool
  | .pending, .admitted | .pending, .released | .pending, .expired => true
  | .admitted, .released => true
  | _, _ => false

/-- Move on the status of the intents that satisfy `p`. -/
def updateJoinIntents (p : JoinIntentRow → Prop) [DecidablePred p]
    (status : JoinIntentStatus → JoinIntentStatus) (now : ℤ) : ApiTx Unit := do
  let joinIntents ← select (·.game.joinIntents)
  check (∀ row ∈ joinIntents, p row → joinIntentTransition row.status (status row.status) = true)
    (.database "invalid join intent transition")
  check (∀ row ∈ joinIntents, p row → row.createdAt ≤ now) (.database "join_intents_check")
  modifyGame fun g => { g with
    joinIntents := updateWhere p (fun row => { row with status := status row.status, updatedAt := now })
      g.joinIntents }

abbrev TicketTimestamps (row : TicketRow) : Prop :=
  row.createdAt < row.expiresAt ∧
    ∀ c ∈ row.consumption, row.createdAt ≤ c.consumedAt ∧ c.consumedAt < row.expiresAt

def insertTicket (row : TicketRow) : ApiTx Unit := do
  let db ← select id
  check (∀ other ∈ db.game.tickets, other.id ≠ row.id) (.database "realtime_tickets_pkey")
  check (∀ other ∈ db.game.tickets, other.tokenHash ≠ row.tokenHash)
    (.database "realtime_tickets_token_hash_key")
  check (∀ other ∈ db.game.tickets,
      ¬ (other.consumption = none ∧ other.reservationId = row.reservationId))
    (.database "realtime_tickets_one_unused_per_reservation")
  check (∃ session ∈ db.game.sessions, session.id = row.gameSessionId ∧ session.roomId = row.roomId)
    (.database "realtime_tickets_game_session_id_room_id_fkey")
  check (RefersTo db.economy row.reservationId row.userId row.gameSessionId)
    (.database "realtime_tickets_reservation_id_user_id_game_session_id_fkey")
  check (TicketTimestamps row) (.database "ticket_expiry_after_creation")
  modifyGame fun g => { g with tickets := g.tickets ++ [row] }

/-- Rewrite the tickets that satisfy `p`, none of them consumed; `f` leaves their binding alone. -/
def updateTickets (p : TicketRow → Prop) [DecidablePred p] (f : TicketRow → TicketRow) :
    ApiTx Unit := do
  let tickets ← select (·.game.tickets)
  check (∀ row ∈ tickets, p row → row.consumption = none)
    (.database "consumed realtime ticket is immutable")
  check (∀ row ∈ tickets, p row → (f row).consumption ≠ none →
      (f row).tokenHash = row.tokenHash ∧ (f row).expiresAt = row.expiresAt)
    (.database "ticket rotation and consumption must be separate")
  check (∀ row ∈ tickets, p row → TicketTimestamps (f row))
    (.database "ticket_expiry_after_creation")
  check (((updateWhere p f tickets).map TicketRow.tokenHash).Nodup)
    (.database "realtime_tickets_token_hash_key")
  modifyGame fun g => { g with tickets := updateWhere p f g.tickets }

/-! ### Finished sessions -/

def insertHistory (row : HistoryRow) : ApiTx Unit := do
  let history ← select (·.readModel.history)
  check (∀ other ∈ history,
      ¬ (other.gameSessionId = row.gameSessionId ∧ other.userId = row.userId))
    (.database "session_history_game_session_id_user_id_key")
  check (FitsNumeric row.accountCoinDelta) (.database "session_history_account_coin_delta")
  modifyReadModel fun r => { r with history := r.history ++ [row] }

def insertHistoryIfAbsent (row : HistoryRow) : ApiTx Unit := do
  let history ← select (·.readModel.history)
  if ∃ other ∈ history, other.gameSessionId = row.gameSessionId ∧ other.userId = row.userId
  then pure ()
  else insertHistory row

/-- Add one game to a player's line, or begin it. -/
def upsertLeaderboard (row : LeaderboardRow) : ApiTx Unit := do
  let leaderboard ← select (·.readModel.leaderboard)
  check (∀ other ∈ leaderboard, other.userId ≠ row.userId → other.playerId ≠ row.playerId)
    (.database "leaderboard_players_player_id_key")
  match leaderboard.find? fun other => other.userId = row.userId with
  | none =>
    check (FitsNumeric row.accountCoinWon) (.database "leaderboard_players_account_coin_won_check")
    modifyReadModel fun r => { r with leaderboard := r.leaderboard ++ [row] }
  | some old =>
    check (FitsNumeric (old.accountCoinWon + row.accountCoinWon))
      (.database "leaderboard_players_account_coin_won_check")
    modifyReadModel fun r => { r with
      leaderboard := updateWhere (fun other => other.userId = row.userId)
        (fun other => { other with
          playerId := row.playerId
          gamesPlayed := other.gamesPlayed + 1
          gamesWon := other.gamesWon + row.gamesWon
          accountCoinWon := other.accountCoinWon + row.accountCoinWon })
        r.leaderboard }

end Pootown.Api
