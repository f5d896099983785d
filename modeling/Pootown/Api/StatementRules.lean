import Mathlib.Tactic
import Pootown.Api.Statements

/-!
# What statements that return have done

One rule for each statement: the constraints and triggers that let it pass, and the database after
it. `Commits` says the same of a transaction.
-/

namespace Pootown.Api

open Tables Transactions

/-! ### The working database -/

def Working.onEconomy (f : Economy → Economy) (s : Working) : Working :=
  { s with db := { s.db with economy := f s.db.economy } }

def Working.onGame (f : Game → Game) (s : Working) : Working :=
  { s with db := { s.db with game := f s.db.game } }

def Working.onReadModel (f : ReadModel → ReadModel) (s : Working) : Working :=
  { s with db := { s.db with readModel := f s.db.readModel } }

def Working.put (deferred : Deferred) (s : Working) : Working :=
  { s with deferred := s.deferred ++ [deferred] }

section Primitives

variable {α β : Type} {a : α} {b : β} {s s' : Working} {u : Unit}

theorem select_bind {query : Database → α} {f : α → ApiTx β} :
    (select query >>= f) s = f (query s.db) s := rfl

theorem select_eq_ok {query : Database → α} :
    select query s = .ok (a, s') ↔ a = query s.db ∧ s' = s := by
  rw [select, Except.ok.injEq, Prod.mk.injEq]
  exact ⟨fun ⟨h, h'⟩ => ⟨h.symm, h'.symm⟩, fun ⟨h, h'⟩ => ⟨h.symm, h'.symm⟩⟩

theorem modify_bind {g : Database → Database} {f : Unit → ApiTx β} :
    (modify g >>= f) s = f () { s with db := g s.db } := rfl

theorem modifyEconomy_bind {g : Economy → Economy} {f : Unit → ApiTx β} :
    (modifyEconomy g >>= f) s = f () (s.onEconomy g) := rfl

theorem modifyGame_bind {g : Game → Game} {f : Unit → ApiTx β} :
    (modifyGame g >>= f) s = f () (s.onGame g) := rfl

theorem defer_bind {deferred : Deferred} {f : Unit → ApiTx β} :
    (defer deferred >>= f) s = f () (s.put deferred) := rfl

theorem modifyEconomy_eq_ok {g : Economy → Economy} :
    modifyEconomy g s = .ok (u, s') ↔ s' = s.onEconomy g :=
  write_eq_ok (f := Working.onEconomy g)

theorem modifyGame_eq_ok {g : Game → Game} :
    modifyGame g s = .ok (u, s') ↔ s' = s.onGame g :=
  write_eq_ok (f := Working.onGame g)

theorem modifyReadModel_eq_ok {g : ReadModel → ReadModel} :
    modifyReadModel g s = .ok (u, s') ↔ s' = s.onReadModel g :=
  write_eq_ok (f := Working.onReadModel g)

theorem defer_eq_ok {deferred : Deferred} :
    defer deferred s = .ok (u, s') ↔ s' = s.put deferred := write_eq_ok

theorem within_select {R : Working → Working → Prop} [Std.Refl R] (query : Database → α) :
    Within R (select query) := by
  intro s a s' h
  rw [(select_eq_ok.1 h).2]
  exact Std.Refl.refl s

theorem triple_select {P : Working → Prop} {query : Database → α} :
    Triple P (select query) fun a s => a = query s.db ∧ P s := by
  intro s a s' hs h
  obtain ⟨ha, rfl⟩ := select_eq_ok.1 h
  exact ⟨ha, hs⟩

end Primitives

/-! ### Committing -/

section Committing

variable {α : Type} {a : α} {work : ApiTx α} {db db' : Database}

/-- A transaction commits when it returns and the triggers that it has put off hold. -/
theorem withTransaction_eq_ok :
    withTransaction work db = .ok (a, db') ↔
      ∃ s, work ⟨db, []⟩ = .ok (a, s) ∧ (∀ d ∈ s.deferred, d.Holds s.db) ∧ db' = s.db := by
  unfold withTransaction
  cases hwork : work ⟨db, []⟩ with
  | error failure => simp
  | ok result =>
    obtain ⟨a', s⟩ := result
    simp only [Except.ok.injEq, Prod.mk.injEq]
    cases hfind : s.deferred.find? fun d => ¬ d.Holds s.db with
    | some d =>
      have hnot : ¬ d.Holds s.db := by simpa using List.find?_some hfind
      have hmem := List.mem_of_find?_eq_some hfind
      simp only [reduceCtorEq, false_iff]
      rintro ⟨t, ⟨-, rfl⟩, hall, -⟩
      exact hnot (hall d hmem)
    | none =>
      have hall : ∀ d ∈ s.deferred, d.Holds s.db := by simpa using hfind
      simp only [Except.ok.injEq, Prod.mk.injEq]
      constructor
      · rintro ⟨rfl, rfl⟩
        exact ⟨s, ⟨rfl, rfl⟩, hall, rfl⟩
      · rintro ⟨t, ⟨rfl, rfl⟩, -, rfl⟩
        exact ⟨rfl, rfl⟩

/-- What a call returns makes no difference to whether it commits. -/
theorem withTransaction_discard :
    withTransaction (do let _ ← work) db = .ok ((), db') ↔
      ∃ a, withTransaction work db = .ok (a, db') := by
  simp only [withTransaction_eq_ok, bind_eq_ok, pure_eq_ok]
  constructor
  · rintro ⟨_, ⟨a, m, hwork, -, rfl⟩, hholds, rfl⟩
    exact ⟨a, m, hwork, hholds, rfl⟩
  · rintro ⟨a, m, hwork, hholds, rfl⟩
    exact ⟨m, ⟨a, m, hwork, trivial, rfl⟩, hholds, rfl⟩

end Committing

/-! ### Accounts and ledger -/

section Rules

variable {s s' : Working} {u : Unit}

theorem insertAccountIfAbsent_eq_ok {userId : String} :
    insertAccountIfAbsent userId s = .ok (u, s') ↔
      ((∃ account ∈ s.db.economy.accounts, account.userId = userId) ∧ s' = s) ∨
      ((∀ account ∈ s.db.economy.accounts, account.userId ≠ userId) ∧ userId ∈ s.db.users ∧
        s' = s.onEconomy fun e => { e with accounts := e.accounts ++ [⟨userId, 0, 0, 0, none⟩] }) := by
  simp only [insertAccountIfAbsent, select_bind, ite_eq_ok, pure_eq_ok, check_bind_eq_ok,
    modifyEconomy_eq_ok, true_and, eq_comm (a := s), not_exists, not_and]

theorem updateAccount_ok {userId : String} {guard : AccountRow → Prop} [DecidablePred guard]
    {f : AccountRow → AccountRow} {result : Option AccountRow}
    (h : updateAccount userId guard f s = .ok (result, s')) :
    (result = none ∧ s' = s) ∨
      ∃ account ∈ s.db.economy.accounts, account.userId = userId ∧ guard account ∧
        0 ≤ (f account).availableCoin ∧ 0 ≤ (f account).reservedCoin ∧ result = some (f account) ∧
        s' = s.onEconomy fun e =>
          { e with accounts := updateWhere (fun other => other.userId = userId) f e.accounts } := by
  simp only [updateAccount, select_bind] at h
  cases hfind : s.db.economy.accounts.find? fun account => account.userId = userId with
  | none =>
    simp only [hfind] at h
    obtain ⟨rfl, rfl⟩ := pure_eq_ok.1 h
    exact .inl ⟨rfl, rfl⟩
  | some account =>
    simp only [hfind] at h
    obtain ⟨hmem, hkey⟩ := find?_key_eq_some hfind
    rcases ite_eq_ok.1 h with ⟨hguard, h⟩ | ⟨-, h⟩
    · simp only [check_bind_eq_ok, modifyEconomy_bind, pure_eq_ok] at h
      obtain ⟨⟨havailable, -⟩, ⟨hreserved, -⟩, rfl, rfl⟩ := h
      exact .inr ⟨account, hmem, hkey, hguard, havailable, hreserved, rfl, rfl⟩
    · obtain ⟨rfl, rfl⟩ := pure_eq_ok.1 h
      exact .inl ⟨rfl, rfl⟩

/-- An account that need not pass anything is rewritten if it is there. -/
theorem updateAccount_none {userId : String} {f : AccountRow → AccountRow}
    (h : updateAccount userId (fun _ => True) f s = .ok (none, s')) :
    ∀ account ∈ s.db.economy.accounts, account.userId ≠ userId := by
  simp only [updateAccount, select_bind] at h
  cases hfind : s.db.economy.accounts.find? fun account => account.userId = userId with
  | none => simpa using hfind
  | some account =>
    simp only [hfind, if_true, check_bind_eq_ok, modifyEconomy_bind, pure_eq_ok] at h
    obtain ⟨-, -, hsome, -⟩ := h
    cases hsome

theorem insertLedgerAccountIfAbsent_ok {row : LedgerAccountRow}
    {conflict : LedgerAccountRow → Prop} [DecidablePred conflict]
    (h : insertLedgerAccountIfAbsent row conflict s = .ok (u, s')) :
    ((∃ other ∈ s.db.economy.ledgerAccounts, conflict other) ∧ s' = s) ∨
      ((∀ other ∈ s.db.economy.ledgerAccounts, other.id ≠ row.id) ∧
        (∀ other ∈ s.db.economy.ledgerAccounts,
          ¬ (other.ownerUserId = row.ownerUserId ∧ other.kind = row.kind)) ∧
        s' = s.onEconomy fun e => { e with ledgerAccounts := e.ledgerAccounts ++ [row] }) := by
  rw [insertLedgerAccountIfAbsent, select_bind] at h
  rcases ite_eq_ok.1 h with ⟨hconflict, h⟩ | ⟨-, h⟩
  · obtain ⟨-, rfl⟩ := pure_eq_ok.1 h
    exact .inl ⟨hconflict, rfl⟩
  · simp only [check_bind_eq_ok, modifyEconomy_eq_ok] at h
    exact .inr h

theorem insertOperation_eq_ok {row : OperationRow} :
    insertOperation row s = .ok (u, s') ↔
      (∀ other ∈ s.db.economy.operations, other.id ≠ row.id) ∧
      (∀ other ∈ s.db.economy.operations, ¬ sameKey row other) ∧ row.actorUserId ∈ s.db.users ∧
      s' = (s.onEconomy fun e => { e with operations := e.operations ++ [row] }).put
        (.balancedOperation row.id) := by
  simp only [insertOperation, select_bind, id_eq, check_bind_eq_ok, modifyEconomy_bind,
    defer_eq_ok]

theorem insertOperationIfAbsent_ok {row : OperationRow} {inserted : Bool}
    (h : insertOperationIfAbsent row s = .ok (inserted, s')) :
    (inserted = false ∧ s' = s) ∨ (inserted = true ∧ insertOperation row s = .ok ((), s')) := by
  rw [insertOperationIfAbsent, select_bind] at h
  rcases ite_eq_ok.1 h with ⟨-, h⟩ | ⟨-, h⟩
  · obtain ⟨rfl, rfl⟩ := pure_eq_ok.1 h
    exact .inl ⟨rfl, rfl⟩
  · obtain ⟨_, m, hinsert, h⟩ := bind_eq_ok.1 h
    obtain ⟨rfl, rfl⟩ := pure_eq_ok.1 h
    exact .inr ⟨rfl, hinsert⟩

def OperationRow.commit (response : ResponseSnapshot) (row : OperationRow) : OperationRow :=
  { row with status := .committed, responseSnapshot := some response }

theorem commitOperation_eq_ok {operationId : String} {response : ResponseSnapshot} :
    commitOperation operationId response s = .ok (u, s') ↔
      (∀ row ∈ s.db.economy.operations, row.id = operationId → row.status = .pending) ∧
      s' = (s.onEconomy fun e => { e with
        operations := updateWhere (fun row => row.id = operationId) (·.commit response)
          e.operations }).put (.balancedOperation operationId) := by
  simp only [commitOperation, select_bind, check_bind_eq_ok, modifyEconomy_bind, defer_eq_ok,
    OperationRow.commit]

theorem insertEntry_eq_ok {row : LedgerEntryRow} :
    insertEntry row s = .ok (u, s') ↔
      (∀ operation ∈ s.db.economy.operations, operation.id = row.operationId →
        operation.status = .pending) ∧
      (∃ operation ∈ s.db.economy.operations, operation.id = row.operationId) ∧
      (∃ ledger ∈ s.db.economy.ledgerAccounts, ledger.id = row.ledgerAccountId) ∧
      (row.amount ≠ 0 ∧ FitsNumeric row.amount) ∧
      s' = (s.onEconomy fun e => { e with ledgerEntries := e.ledgerEntries ++ [row] }).put
        (.balancedOperation row.operationId) := by
  simp only [insertEntry, select_bind, check_bind_eq_ok, modifyEconomy_bind, defer_eq_ok]

/-! ### Reservations and settlements -/

/-- The session takes admissions. -/
abbrev IsOpen (db : Database) (gameId : String) : Prop :=
  ∃ session ∈ db.game.sessions, session.id = gameId ∧ session.lifecycle = .opened

theorem requireOpenSession_bind_eq_ok {gameId : String} {β : Type} {f : Unit → ApiTx β}
    {r : β × Working} :
    (requireOpenSession gameId >>= f) s = .ok r ↔ IsOpen s.db gameId ∧ f () s = .ok r := by
  obtain ⟨b, t⟩ := r
  rw [bind_eq_ok]
  simp only [requireOpenSession, select_bind, check_eq_ok]
  constructor
  · rintro ⟨_, m, ⟨hopen, rfl⟩, hf⟩
    exact ⟨hopen, hf⟩
  · rintro ⟨hopen, hf⟩
    exact ⟨(), s, ⟨hopen, rfl⟩, hf⟩

theorem insertReservation_eq_ok {row : ReservationRow} :
    insertReservation row s = .ok (u, s') ↔
      IsOpen s.db row.gameSessionId ∧
      (∀ other ∈ s.db.economy.reservations, other.id ≠ row.id) ∧
      (∃ operation ∈ s.db.economy.operations, operation.id = row.operationId) ∧
      row.userId ∈ s.db.users ∧ (0 ≤ row.amount ∧ FitsNumeric row.amount) ∧
      (∀ other ∈ s.db.economy.reservations, ¬ (other.status = .reserved ∧
        other.gameSessionId = row.gameSessionId ∧ other.userId = row.userId)) ∧
      s' = s.onEconomy fun e => { e with reservations := e.reservations ++ [row] } := by
  simp only [insertReservation, requireOpenSession_bind_eq_ok, select_bind, id_eq,
    check_bind_eq_ok, modifyEconomy_eq_ok]

def ReservationRow.close (status : ReservationStatus) (operationId : String) (now : ℤ)
    (row : ReservationRow) : ReservationRow :=
  { row with status := status, terminalAt := some now, terminalOperationId := some operationId }

theorem closeReservation_eq_ok {reservationId : String} {status : ReservationStatus}
    {operationId : String} {now : ℤ} :
    closeReservation reservationId status operationId now s = .ok (u, s') ↔
      (∀ row ∈ s.db.economy.reservations, row.id = reservationId →
        row.status = .reserved ∧ status ≠ .reserved) ∧
      (∃ operation ∈ s.db.economy.operations, operation.id = operationId) ∧
      (∀ row ∈ s.db.economy.reservations, row.id = reservationId → row.createdAt ≤ now) ∧
      s' = s.onEconomy fun e => { e with
        reservations := updateWhere (fun row => row.id = reservationId)
          (·.close status operationId now) e.reservations } := by
  simp only [closeReservation, select_bind, check_bind_eq_ok, modifyEconomy_eq_ok,
    ReservationRow.close]

theorem insertSettlement_eq_ok {row : SettlementRow} :
    insertSettlement row s = .ok (u, s') ↔
      (∀ other ∈ s.db.economy.settlements, other.id ≠ row.id) ∧
      (∀ other ∈ s.db.economy.settlements, other.operationId ≠ row.operationId) ∧
      (∀ other ∈ s.db.economy.settlements, other.gameSessionId ≠ row.gameSessionId) ∧
      s' = (s.onEconomy fun e => { e with settlements := e.settlements ++ [row] }).put
        (.terminalSettlementComplete row) := by
  simp only [insertSettlement, select_bind, check_bind_eq_ok, modifyEconomy_bind, defer_eq_ok]

/-! ### Sessions and seats -/

theorem insertSession_eq_ok {row : SessionRow} :
    insertSession row s = .ok (u, s') ↔
      (∀ other ∈ s.db.game.sessions, other.id ≠ row.id) ∧
      (∀ other ∈ s.db.game.sessions, other.roomId ≠ row.roomId) ∧
      row.creatorUserId ∈ s.db.users ∧
      (∃ definition ∈ s.db.game.definitions, definition.id = row.gameDefinitionId ∧
        definition.policyVersion = row.gameDefinitionVersion) ∧
      (2 ≤ row.maximumPlayers ∧ row.maximumPlayers ≤ 4) ∧
      (0 ≤ row.entryCoin ∧ FitsNumeric row.entryCoin) ∧ SessionTimestamps row ∧
      s' = (s.onGame fun g => { g with sessions := g.sessions ++ [row] }).put
        (.cancelledSessionClosed row.id row.lifecycle) := by
  simp only [insertSession, select_bind, id_eq, check_bind_eq_ok, modifyGame_bind, defer_eq_ok]

theorem updateSession_eq_ok {gameId : String} {lifecycle : SessionLifecycle}
    {f : SessionRow → SessionRow} :
    updateSession gameId lifecycle f s = .ok (u, s') ↔
      (∀ row ∈ s.db.game.sessions, row.id = gameId →
        ValidSessionUpdate row { f row with lifecycle := lifecycle }) ∧
      (∀ row ∈ s.db.game.sessions, row.id = gameId →
        SessionTimestamps { f row with lifecycle := lifecycle }) ∧
      s' = ((s.onGame fun g => { g with
          sessions := updateWhere (fun row => row.id = gameId)
            (fun row => { f row with lifecycle := lifecycle }) g.sessions }).put
        (.cancelledSessionClosed gameId lifecycle)).put
        (.settledSessionHasOutcome gameId lifecycle) := by
  simp only [updateSession, select_bind, check_bind_eq_ok, modifyGame_bind, deferLifecycle,
    defer_bind, defer_eq_ok]

theorem insertPlayer_eq_ok {row : PlayerRow} :
    insertPlayer row s = .ok (u, s') ↔
      IsOpen s.db row.gameSessionId ∧
      (∀ other ∈ s.db.game.players,
        ¬ (other.gameSessionId = row.gameSessionId ∧ other.playerId = row.playerId)) ∧
      (∀ other ∈ s.db.game.players,
        ¬ (other.gameSessionId = row.gameSessionId ∧ other.userId = row.userId)) ∧
      (∀ other ∈ s.db.game.players,
        ¬ (other.gameSessionId = row.gameSessionId ∧ other.seatIndex = row.seatIndex)) ∧
      (∀ other ∈ s.db.game.players, other.reservationId ≠ row.reservationId) ∧ row.seatIndex ≤ 3 ∧
      RefersTo s.db.economy row.reservationId row.userId row.gameSessionId ∧
      s' = (s.onGame fun g => { g with players := g.players ++ [row] }).put
        (.sessionPlayerCapacity row.gameSessionId row.seatIndex) := by
  simp only [insertPlayer, requireOpenSession_bind_eq_ok, select_bind, id_eq, check_bind_eq_ok,
    modifyGame_bind, defer_eq_ok]

theorem deletePlayers_eq_ok {p : PlayerRow → Prop} [DecidablePred p] :
    deletePlayers p s = .ok (u, s') ↔
      s' = s.onGame fun g => { g with players := g.players.filter fun row => ¬ p row } :=
  modifyGame_eq_ok

/-! ### Intents and tickets -/

theorem insertJoinIntent_eq_ok {row : JoinIntentRow} :
    insertJoinIntent row s = .ok (u, s') ↔
      IsOpen s.db row.gameSessionId ∧ (∀ other ∈ s.db.game.joinIntents, other.id ≠ row.id) ∧
      (∀ other ∈ s.db.game.joinIntents, other.reservationId ≠ row.reservationId) ∧
      (∀ other ∈ s.db.game.joinIntents, ¬ ((other.status = .pending ∨ other.status = .admitted) ∧
        other.gameSessionId = row.gameSessionId ∧ other.userId = row.userId)) ∧
      RefersTo s.db.economy row.reservationId row.userId row.gameSessionId ∧
      s' = s.onGame fun g => { g with joinIntents := g.joinIntents ++ [row] } := by
  simp only [insertJoinIntent, requireOpenSession_bind_eq_ok, select_bind, id_eq,
    check_bind_eq_ok, modifyGame_eq_ok]

theorem updateJoinIntents_eq_ok {p : JoinIntentRow → Prop} [DecidablePred p]
    {status : JoinIntentStatus → JoinIntentStatus} {now : ℤ} :
    updateJoinIntents p status now s = .ok (u, s') ↔
      (∀ row ∈ s.db.game.joinIntents, p row →
        joinIntentTransition row.status (status row.status) = true) ∧
      (∀ row ∈ s.db.game.joinIntents, p row → row.createdAt ≤ now) ∧
      s' = s.onGame fun g => { g with
        joinIntents := updateWhere p
          (fun row => { row with status := status row.status, updatedAt := now })
          g.joinIntents } := by
  simp only [updateJoinIntents, select_bind, check_bind_eq_ok, modifyGame_eq_ok]

theorem insertTicket_eq_ok {row : TicketRow} :
    insertTicket row s = .ok (u, s') ↔
      (∀ other ∈ s.db.game.tickets, other.id ≠ row.id) ∧
      (∀ other ∈ s.db.game.tickets, other.tokenHash ≠ row.tokenHash) ∧
      (∀ other ∈ s.db.game.tickets,
        ¬ (other.consumption = none ∧ other.reservationId = row.reservationId)) ∧
      (∃ session ∈ s.db.game.sessions, session.id = row.gameSessionId ∧
        session.roomId = row.roomId) ∧
      RefersTo s.db.economy row.reservationId row.userId row.gameSessionId ∧ TicketTimestamps row ∧
      s' = s.onGame fun g => { g with tickets := g.tickets ++ [row] } := by
  simp only [insertTicket, select_bind, id_eq, check_bind_eq_ok, modifyGame_eq_ok]

theorem updateTickets_eq_ok {p : TicketRow → Prop} [DecidablePred p] {f : TicketRow → TicketRow} :
    updateTickets p f s = .ok (u, s') ↔
      (∀ row ∈ s.db.game.tickets, p row → row.consumption = none) ∧
      (∀ row ∈ s.db.game.tickets, p row → (f row).consumption ≠ none →
        (f row).tokenHash = row.tokenHash ∧ (f row).expiresAt = row.expiresAt) ∧
      (∀ row ∈ s.db.game.tickets, p row → TicketTimestamps (f row)) ∧
      ((updateWhere p f s.db.game.tickets).map TicketRow.tokenHash).Nodup ∧
      s' = s.onGame fun g => { g with tickets := updateWhere p f g.tickets } := by
  simp only [updateTickets, select_bind, check_bind_eq_ok, modifyGame_eq_ok]

/-! ### Finished sessions -/

theorem insertHistory_eq_ok {row : HistoryRow} :
    insertHistory row s = .ok (u, s') ↔
      (∀ other ∈ s.db.readModel.history,
        ¬ (other.gameSessionId = row.gameSessionId ∧ other.userId = row.userId)) ∧
      FitsNumeric row.accountCoinDelta ∧
      s' = s.onReadModel fun r => { r with history := r.history ++ [row] } := by
  simp only [insertHistory, select_bind, check_bind_eq_ok, modifyReadModel_eq_ok]

theorem insertHistoryIfAbsent_eq_ok {row : HistoryRow} :
    insertHistoryIfAbsent row s = .ok (u, s') ↔
      ((∃ other ∈ s.db.readModel.history,
        other.gameSessionId = row.gameSessionId ∧ other.userId = row.userId) ∧ s' = s) ∨
      ((∀ other ∈ s.db.readModel.history,
        ¬ (other.gameSessionId = row.gameSessionId ∧ other.userId = row.userId)) ∧
        insertHistory row s = .ok (u, s')) := by
  simp only [insertHistoryIfAbsent, select_bind, ite_eq_ok, pure_eq_ok, true_and,
    eq_comm (a := s), not_exists, not_and]

/-- A player's line after one more game. -/
def LeaderboardRow.after (row other : LeaderboardRow) : LeaderboardRow :=
  { other with
    playerId := row.playerId
    gamesPlayed := other.gamesPlayed + 1
    gamesWon := other.gamesWon + row.gamesWon
    accountCoinWon := other.accountCoinWon + row.accountCoinWon }

theorem upsertLeaderboard_ok {row : LeaderboardRow} (h : upsertLeaderboard row s = .ok (u, s')) :
    ((∀ other ∈ s.db.readModel.leaderboard, other.userId ≠ row.userId) ∧
      s' = s.onReadModel fun r => { r with leaderboard := r.leaderboard ++ [row] }) ∨
    (∃ old ∈ s.db.readModel.leaderboard, old.userId = row.userId) ∧
      s' = s.onReadModel fun r => { r with
        leaderboard := updateWhere (fun other => other.userId = row.userId) row.after
          r.leaderboard } := by
  simp only [upsertLeaderboard, select_bind, check_bind_eq_ok] at h
  obtain ⟨-, h⟩ := h
  cases hfind : s.db.readModel.leaderboard.find? fun other => other.userId = row.userId with
  | none =>
    simp only [hfind, check_bind_eq_ok, modifyReadModel_eq_ok] at h
    exact .inl ⟨by simpa using hfind, h.2⟩
  | some old =>
    simp only [hfind, check_bind_eq_ok, modifyReadModel_eq_ok] at h
    exact .inr ⟨⟨old, find?_key_eq_some hfind⟩, h.2⟩

end Rules

end Pootown.Api
