import Mathlib.Tactic
import Pootown.Api.Bookkeeping
import Pootown.Api.Calls

/-!
# What leaves rescues alone

The time of the last rescue of an account is written by a rescue and by nothing else, and who has
been provisioned stays so.

* `RescuesKept`: what every transaction but a registration and a rescue stays within, one rule per
  statement and per service; `runCall_rescuesKept`.
-/

namespace Pootown.Api

open Tables Transactions

/-! ### Accounts and initial grants -/

def findAccount (db : Database) (userId : String) : Option AccountRow :=
  db.economy.accounts.find? fun account => account.userId = userId

/-- The time recorded for the last rescue of a user. -/
def lastRescue (db : Database) (userId : String) : Option ℤ :=
  (findAccount db userId).bind AccountRow.lastRescueGrantAt

/-- The user has an account, and an operation under the key of the initial grant. -/
structure Provisioned (db : Database) (userId : String) : Prop where
  account : ∃ account ∈ db.economy.accounts, account.userId = userId
  granted : ∃ row ∈ db.economy.operations, row.actorUserId = userId ∧
    row.scope = .initialGrant ∧ row.idempotencyKey = initialGrantKey

structure ProvisionsKept (s s' : Working) : Prop where
  users : s'.db.users = s.db.users
  provisioned : ∀ userId, Provisioned s.db userId → Provisioned s'.db userId

instance : Std.Refl ProvisionsKept := ⟨fun _ => ⟨rfl, fun _ h => h⟩⟩

instance : IsTrans Working ProvisionsKept := ⟨fun _ _ _ h h' => ⟨h'.users.trans h.users,
  fun userId hs => h'.provisioned userId (h.provisioned userId hs)⟩⟩

structure RescuesKept (s s' : Working) : Prop extends ProvisionsKept s s' where
  rescues : ∀ userId, lastRescue s'.db userId = lastRescue s.db userId

instance : Std.Refl RescuesKept := ⟨fun s => ⟨Std.Refl.refl s, fun _ => rfl⟩⟩

instance : IsTrans Working RescuesKept := ⟨fun _ _ _ h h' => ⟨IsTrans.trans _ _ _ h.1 h'.1,
  fun userId => (h'.rescues userId).trans (h.rescues userId)⟩⟩

variable {digests : Digests} {settings : Settings} {userId operationId : String} {fresh : Fresh}
  {now : ℤ} {s s' : Working} {α : Type}

/-- Nobody's account or operations have changed. -/
theorem RescuesKept.of_eq (husers : s'.db.users = s.db.users)
    (haccounts : s'.db.economy.accounts = s.db.economy.accounts)
    (hoperations : s.db.economy.operations ⊆ s'.db.economy.operations) : RescuesKept s s' where
  users := husers
  rescues := fun userId => by rw [lastRescue, lastRescue, findAccount, findAccount, haccounts]
  provisioned := fun userId h => by
    obtain ⟨row, hmem, hrow⟩ := h.granted
    exact ⟨haccounts ▸ h.account, row, hoperations hmem, hrow⟩

theorem BooksKept.rescuesKept (h : BooksKept s s') : RescuesKept s s' :=
  .of_eq h.users (by rw [h.economy]) (by rw [h.economy]; exact List.Subset.refl _)

theorem rescues_of_kept {tx : ApiTx α} (h : Within BooksKept tx) : Within RescuesKept tx :=
  h.mono fun _ _ => BooksKept.rescuesKept

/-! ### Statements -/

theorem insertAccountIfAbsent_rescues : Within RescuesKept (insertAccountIfAbsent userId) := by
  intro s u s' h
  obtain ⟨-, rfl⟩ | ⟨hnew, -, rfl⟩ := insertAccountIfAbsent_eq_ok.1 h
  · exact Std.Refl.refl _
  · refine ⟨⟨rfl, fun other hs => ⟨?_, hs.granted⟩⟩, fun other => ?_⟩
    · obtain ⟨account, hmem, hid⟩ := hs.account
      exact ⟨account, List.mem_append_left _ hmem, hid⟩
    · simp only [lastRescue, findAccount, Working.onEconomy, List.find?_append]
      cases hfind : s.db.economy.accounts.find? fun account => account.userId = other with
      | some account => rfl
      | none => by_cases hother : userId = other <;> simp [hother]

theorem updateAccount_provisions {guard : AccountRow → Prop} [DecidablePred guard]
    {f : AccountRow → AccountRow} (hf : ∀ account, (f account).userId = account.userId) :
    Within ProvisionsKept (updateAccount userId guard f) := by
  intro s result s' h
  obtain ⟨-, rfl⟩ | ⟨account, hmem, hid, -, -, -, -, rfl⟩ := updateAccount_ok h
  · exact Std.Refl.refl _
  · refine ⟨rfl, fun other hs => ⟨?_, hs.granted⟩⟩
    obtain ⟨account, hmem, hid⟩ := hs.account
    refine ⟨_, mem_updateWhere.2 ⟨account, hmem, rfl⟩, ?_⟩
    split_ifs
    · exact (hf account).trans hid
    · exact hid

theorem updateAccount_rescues {guard : AccountRow → Prop} [DecidablePred guard]
    {f : AccountRow → AccountRow} (hf : ∀ account, (f account).userId = account.userId)
    (hrescue : ∀ account, (f account).lastRescueGrantAt = account.lastRescueGrantAt) :
    Within RescuesKept (updateAccount userId guard f) := by
  intro s result s' h
  refine ⟨updateAccount_provisions hf s result s' h, fun other => ?_⟩
  obtain ⟨-, rfl⟩ | ⟨account, -, -, -, -, -, -, rfl⟩ := updateAccount_ok h
  · rfl
  · simp only [lastRescue, findAccount, Working.onEconomy, find?_updateWhere hf]
    cases s.db.economy.accounts.find? fun account => account.userId = other with
    | none => rfl
    | some account =>
      simp only [Option.map_some, Option.bind_some]
      split_ifs
      · exact hrescue account
      · rfl

theorem insertLedgerAccountIfAbsent_rescues (row : LedgerAccountRow)
    (conflict : LedgerAccountRow → Prop) [DecidablePred conflict] :
    Within RescuesKept (insertLedgerAccountIfAbsent row conflict) := by
  intro s u s' h
  obtain ⟨-, rfl⟩ | ⟨-, -, rfl⟩ := insertLedgerAccountIfAbsent_ok h
  · exact Std.Refl.refl _
  · exact .of_eq rfl rfl (List.Subset.refl _)

theorem insertOperation_rescues (row : OperationRow) :
    Within RescuesKept (insertOperation row) := by
  intro s u s' h
  obtain ⟨-, -, -, rfl⟩ := insertOperation_eq_ok.1 h
  exact .of_eq rfl rfl (List.subset_append_left _ _)

theorem commitOperation_rescues (response : ResponseSnapshot) :
    Within RescuesKept (commitOperation operationId response) := by
  intro s u s' h
  obtain ⟨-, rfl⟩ := commitOperation_eq_ok.1 h
  refine ⟨⟨rfl, fun other hs => ⟨hs.account, ?_⟩⟩, fun _ => rfl⟩
  obtain ⟨row, hmem, hrow⟩ := hs.granted
  refine ⟨_, mem_updateWhere.2 ⟨row, hmem, rfl⟩, ?_⟩
  split_ifs <;> exact hrow

theorem insertEntry_rescues (row : LedgerEntryRow) : Within RescuesKept (insertEntry row) := by
  intro s u s' h
  obtain ⟨-, -, -, -, rfl⟩ := insertEntry_eq_ok.1 h
  exact .of_eq rfl rfl (List.Subset.refl _)

theorem insertReservation_rescues (row : ReservationRow) :
    Within RescuesKept (insertReservation row) := by
  intro s u s' h
  obtain ⟨-, -, -, -, -, -, rfl⟩ := insertReservation_eq_ok.1 h
  exact .of_eq rfl rfl (List.Subset.refl _)

theorem closeReservation_rescues (reservationId : String) (status : ReservationStatus) :
    Within RescuesKept (closeReservation reservationId status operationId now) := by
  intro s u s' h
  obtain ⟨-, -, -, rfl⟩ := closeReservation_eq_ok.1 h
  exact .of_eq rfl rfl (List.Subset.refl _)

/-! ### Services -/

theorem moveCoin_rescues (needs : AccountRow → Prop) [DecidablePred needs]
    (available reserved : ℤ) (failure : Failure) :
    Within RescuesKept (moveCoin userId needs available reserved failure) :=
  .bind (updateAccount_rescues (fun _ => rfl) fun _ => rfl) fun _ => .check _ _

theorem ledgerAccount_rescues (kind : LedgerKind) (message : String) :
    Within RescuesKept (ledgerAccount userId kind message) :=
  .bind (within_select _) fun _ => .bind (.checkSome _ _) fun _ => .pure _

theorem enterMove_rescues (available reserved : ℤ) (missing : String) :
    Within RescuesKept (enterMove operationId userId available reserved missing) :=
  .bind (ledgerAccount_rescues _ _) fun _ => .bind (ledgerAccount_rescues _ _) fun _ =>
    .bind (insertEntry_rescues _) fun _ => insertEntry_rescues _

theorem giveBack_rescues (missing : String) (r : ReservationRow) :
    Within RescuesKept (giveBack missing operationId r now) :=
  .ite (.bind (moveCoin_rescues _ _ _ _) fun _ => .bind (enterMove_rescues _ _ _) fun _ =>
    closeReservation_rescues _ _) (closeReservation_rescues _ _)

theorem captureReservation_rescues (r : ReservationRow) :
    Within RescuesKept (captureReservation operationId r now) :=
  .ite (.bind (moveCoin_rescues _ _ _ _) fun _ => .bind (ledgerAccount_rescues _ _) fun _ =>
    .bind (insertEntry_rescues _) fun _ => closeReservation_rescues _ _)
    (closeReservation_rescues _ _)

theorem creditWinner_rescues (amount : ℤ) :
    Within RescuesKept (creditWinner operationId userId amount) :=
  .bind (updateAccount_rescues (fun _ => rfl) fun _ => rfl) fun _ =>
    .bind (ledgerAccount_rescues _ _) fun _ => insertEntry_rescues _

theorem reserveAndSeat_rescues (logical : LogicalAdmission) (seatIndex : ℕ) (amount : ℤ) :
    Within RescuesKept
      (reserveAndSeat operationId userId logical seatIndex amount fresh now) := by
  have hseat : Within RescuesKept (do
      insertReservation ⟨logical.reservationId, operationId, userId, logical.gameId, amount,
        .reserved, now, none, none⟩
      insertPlayer ⟨logical.gameId, logical.playerId, userId, seatIndex, logical.reservationId,
        true, now⟩
      insertJoinIntent ⟨fresh.joinIntentId, logical.gameId, userId, logical.reservationId,
        .admitted, now, now⟩) :=
    .bind (insertReservation_rescues _) fun _ =>
      .bind (rescues_of_kept (insertPlayer_kept _)) fun _ =>
        rescues_of_kept (insertJoinIntent_kept _)
  exact .ite (.bind (moveCoin_rescues _ _ _ _) fun _ => .bind (enterMove_rescues _ _ _) fun _ =>
    hseat) hseat

theorem admit_rescues (scope : OperationScope) (idempotencyKey hash : String)
    (logical : LogicalAdmission) (seatIndex : ℕ) (amount : ℤ) {beforeSeat : ApiTx Unit}
    (h : Within RescuesKept beforeSeat) :
    Within RescuesKept (admitPlayer digests settings userId scope idempotencyKey hash logical seatIndex
      amount beforeSeat fresh now) :=
  .bind (insertOperation_rescues _) fun _ => .bind h fun _ =>
    .bind (reserveAndSeat_rescues _ _ _) fun _ =>
    .bind (rescues_of_kept (issueTicket_kept _)) fun _ =>
    .bind (commitOperation_rescues _) fun _ => rescues_of_kept (admissionResponse_kept _ _ _)

theorem commitWithResponse_rescues : Within RescuesKept (commitWithResponse operationId) :=
  .bind (commitOperation_rescues _) fun _ => .pure _

theorem expireUnusedTickets_kept (p : TicketRow → Prop) [DecidablePred p] :
    Within BooksKept (expireUnusedTickets p now) :=
  updateTickets_kept _ _

theorem leaveSeat_rescues (r : ReservationRow) :
    Within RescuesKept (leaveSeat operationId r now) :=
  .bind (giveBack_rescues _ _) fun _ => .bind (rescues_of_kept (updateJoinIntents_kept _ _ _))
    fun _ => .bind (rescues_of_kept (deletePlayers_kept _)) fun _ =>
      rescues_of_kept (expireUnusedTickets_kept _)

theorem closeWaitingSession_rescues (gameId : String) (reservations : List ReservationRow) :
    Within RescuesKept (closeWaitingSession operationId gameId reservations now) :=
  .bind (rescues_of_kept (updateSession_kept _ _ _)) fun _ =>
    .bind (.forM fun r _ => giveBack_rescues _ r) fun _ =>
    .bind (rescues_of_kept (updateJoinIntents_kept _ _ _)) fun _ =>
    .bind (within_select _) fun _ =>
    .bind (.forM fun _ _ => rescues_of_kept (insertHistoryIfAbsent_kept _)) fun _ =>
    .bind (rescues_of_kept (deletePlayers_kept _)) fun _ =>
    .bind (rescues_of_kept (expireUnusedTickets_kept _)) fun _ =>
    rescues_of_kept (updateSession_kept _ _ _)

/-! ### Calls -/

theorem ensureAccountInfrastructure_rescues :
    Within RescuesKept (ensureAccountInfrastructure digests userId) :=
  .bind insertAccountIfAbsent_rescues fun _ =>
    .bind (insertLedgerAccountIfAbsent_rescues _ _) fun _ =>
    .bind (insertLedgerAccountIfAbsent_rescues _ _) fun _ =>
    insertLedgerAccountIfAbsent_rescues _ _

theorem lockAccountRow_kept : Within BooksKept (lockAccountRow userId) :=
  .bind (within_select _) fun _ => .checkSome _ _

theorem insertOperationIfAbsent_rescues (row : OperationRow) :
    Within RescuesKept (insertOperationIfAbsent row) :=
  .bind (within_select _) fun _ => .ite (.pure _) (.bind (insertOperation_rescues _) fun _ =>
    .pure _)

/-- A grant that is no rescue. -/
theorem applyGrant_rescues (amount : ℤ) :
    Within RescuesKept (applyGrant digests userId operationId amount now false) :=
  .bind (updateAccount_rescues (fun _ => rfl) fun _ => rfl) fun _ =>
    .bind (insertEntry_rescues _) fun _ => .bind (insertEntry_rescues _) fun _ =>
    .bind (.checkSome _ _) fun _ => .bind (commitOperation_rescues _) fun _ => .pure _

theorem provisionUser_rescues :
    Within RescuesKept (provisionUser digests settings userId fresh now) :=
  .bind ensureAccountInfrastructure_rescues fun _ =>
    .bind (rescues_of_kept lockAccountRow_kept) fun _ =>
    .bind (insertOperationIfAbsent_rescues _) fun _ =>
    .ite (.bind (applyGrant_rescues _) fun _ => .pure _) (.pure _)

theorem provisionPrincipal_rescues :
    Within RescuesKept (provisionPrincipal digests settings userId fresh now) :=
  .bind (within_select _) fun _ => .bind (.check _ _) fun _ => provisionUser_rescues

theorem createSession_rescues (gameDefinitionId idempotencyKey : String) :
    Within RescuesKept
      (createSession digests settings userId gameDefinitionId idempotencyKey fresh now) := by
  refine .bind (rescues_of_kept lockAccount_kept) fun _ =>
    .bind (rescues_of_kept (findOperation_kept _ _)) fun prior => ?_
  cases prior with
  | some prior =>
    exact .bind (rescues_of_kept (assertReplay_kept _ _ _)) fun _ =>
      .bind (rescues_of_kept (parseAdmission_kept _)) fun _ =>
      rescues_of_kept (reissueAdmission_kept _)
  | none =>
    exact .bind (within_select _) fun _ => .bind (.checkSome _ _) fun _ =>
      admit_rescues _ _ _ _ _ _ (rescues_of_kept (insertSession_kept _))

theorem joinSession_rescues (gameId idempotencyKey : String) :
    Within RescuesKept (joinSession digests settings userId gameId idempotencyKey fresh now) := by
  refine .bind (rescues_of_kept lockAccount_kept) fun _ =>
    .bind (rescues_of_kept (lockSession_kept _)) fun _ =>
    .bind (rescues_of_kept (findOperation_kept _ _)) fun prior => ?_
  cases prior with
  | some prior =>
    exact .bind (rescues_of_kept (assertReplay_kept _ _ _)) fun _ =>
      .bind (rescues_of_kept (parseAdmission_kept _)) fun _ =>
      rescues_of_kept (reissueAdmission_kept _)
  | none =>
    exact .bind (.check _ _) fun _ => .bind (within_select _) fun _ => .bind (.check _ _) fun _ =>
      .bind (.checkSome _ _) fun _ => admit_rescues _ _ _ _ _ _ (.pure _)

theorem reconnectTicket_rescues (gameId idempotencyKey : String) :
    Within RescuesKept
      (reconnectTicket digests settings userId gameId idempotencyKey fresh now) := by
  refine .bind (rescues_of_kept lockAccount_kept) fun _ =>
    .bind (rescues_of_kept (lockSession_kept _)) fun _ => .bind (.check _ _) fun _ =>
    .bind (rescues_of_kept (findOperation_kept _ _)) fun prior => ?_
  cases prior with
  | some prior =>
    exact .bind (rescues_of_kept (assertReplay_kept _ _ _)) fun _ =>
      .bind (rescues_of_kept (parseAdmission_kept _)) fun _ =>
      rescues_of_kept (reissueAdmission_kept _)
  | none =>
    exact .bind (within_select _) fun _ => .bind (.checkSome _ _) fun _ =>
      .bind (rescues_of_kept (reissueAdmission_kept _)) fun _ =>
      .bind (insertOperation_rescues _) fun _ => .pure _

theorem releaseJoinIntentForUser_rescues (gameId idempotencyKey hash : String)
    (expected : Option RoomBinding) :
    Within RescuesKept
      (releaseJoinIntentForUser userId gameId idempotencyKey hash expected fresh now) := by
  refine .bind (rescues_of_kept lockAccount_kept) fun _ =>
    .bind (rescues_of_kept (lockSession_kept _)) fun _ =>
    .bind (rescues_of_kept (findOperation_kept _ _)) fun prior => ?_
  cases prior with
  | some prior =>
    exact .bind (rescues_of_kept (assertReplay_kept _ _ _)) fun _ =>
      rescues_of_kept (parseOperation_kept _)
  | none =>
    exact .bind (rescues_of_kept (requireNoRoom_kept _ _ _)) fun _ => .bind (.check _ _) fun _ =>
      .bind (.check _ _) fun _ => .bind (rescues_of_kept (requireBinding_kept _ _ _ _ _ _)) fun _ =>
      .bind (within_select _) fun _ => .bind (.checkSome _ _) fun _ => .bind (.check _ _) fun _ =>
      .bind (insertOperation_rescues _) fun _ => .bind (leaveSeat_rescues _) fun _ =>
      commitWithResponse_rescues

theorem cancelSessionForUser_rescues (gameId idempotencyKey hash : String)
    (expected : Option RoomBinding) :
    Within RescuesKept
      (cancelSessionForUser userId gameId idempotencyKey hash expected fresh now) := by
  refine .bind (within_select _) fun _ => .bind (.checkSome _ _) fun _ => .bind (.check _ _)
    fun _ => .bind (rescues_of_kept (findOperation_kept _ _)) fun prior => ?_
  cases prior with
  | some prior =>
    exact .bind (rescues_of_kept (assertReplay_kept _ _ _)) fun _ =>
      rescues_of_kept (parseOperation_kept _)
  | none =>
    exact .bind (within_select _) fun _ => .bind (rescues_of_kept (lockAccounts_kept _ _)) fun _ =>
      .bind (rescues_of_kept (lockSession_kept _)) fun _ => .bind (.check _ _) fun _ =>
      .bind (rescues_of_kept (requireNoRoom_kept _ _ _)) fun _ =>
      .bind (rescues_of_kept (requireBinding_kept _ _ _ _ _ _)) fun _ =>
      .bind (insertOperation_rescues _) fun _ => .bind (closeWaitingSession_rescues _ _) fun _ =>
      commitWithResponse_rescues

theorem finalizeRoomCommand_rescues (gameId : String) (request : RoomSessionFinalizationRequest)
    (idempotencyKey : String) :
    Within RescuesKept (finalizeRoomCommand digests gameId request idempotencyKey fresh now) := by
  refine .bind (within_select _) fun tickets => ?_
  dsimp only
  split
  · split
    · exact releaseJoinIntentForUser_rescues _ _ _ _
    · exact cancelSessionForUser_rescues _ _ _ _
  · exact .fail _

theorem cancelExpiredWaitingSession_rescues (gameId : String) (expiresBefore : ℤ) :
    Within RescuesKept (cancelExpiredWaitingSession digests gameId expiresBefore fresh now) := by
  refine .bind (within_select _) fun db => ?_
  dsimp only
  split
  · exact .pure _
  next row _ =>
    refine .bind (rescues_of_kept (findOperation_kept _ _)) fun prior => ?_
    cases prior with
    | some prior =>
      exact .bind (rescues_of_kept (assertReplay_kept _ _ _)) fun _ => .pure _
    | none =>
      exact .bind (rescues_of_kept (lockAccounts_kept _ _)) fun _ =>
        .bind (rescues_of_kept (lockSession_kept _)) fun _ =>
        .ite (.bind (insertOperation_rescues _) fun _ =>
          .bind (closeWaitingSession_rescues _ _) fun _ =>
          .bind commitWithResponse_rescues fun _ => .pure _) (.pure _)

theorem releaseExpiredAdmission_rescues (reservationId : String) (expiredBefore : ℤ) :
    Within RescuesKept
      (releaseExpiredAdmission digests reservationId expiredBefore fresh now) := by
  refine .bind (within_select _) fun db => ?_
  split
  · exact .pure _
  next row _ =>
    refine .bind (rescues_of_kept lockAccount_kept) fun _ =>
      .bind (rescues_of_kept (lockSession_kept _)) fun _ => .ite (.pure _) ?_
    refine .bind (rescues_of_kept (findOperation_kept _ _)) fun prior => ?_
    cases prior with
    | some prior =>
      exact .bind (rescues_of_kept (assertReplay_kept _ _ _)) fun _ => .pure _
    | none =>
      dsimp only
      split
      · exact .pure _
      · exact .bind (insertOperation_rescues _) fun _ => .bind (giveBack_rescues _ _) fun _ =>
          .bind (rescues_of_kept (updateJoinIntents_kept _ _ _)) fun _ =>
          .bind (rescues_of_kept (expireUnusedTickets_kept _)) fun _ =>
          .bind commitWithResponse_rescues fun _ => .pure _

open Classical in
theorem bootstrap_rescues (gameId : String) : Within RescuesKept (bootstrap gameId) :=
  .bind (within_select _) fun _ => .bind (.checkSome _ _) fun _ => .bind (.check _ _) fun _ =>
    .bind (.check _ _) fun _ => .bind (.checkSome _ _) fun _ => .pure _

theorem ensureBoundSeat_kept (session : SessionRow) (ticket : TicketRow) :
    Within BooksKept (ensureBoundSeat session ticket now) := by
  refine .bind (within_select _) fun db => ?_
  split
  · exact .bind (.check _ _) fun _ => .pure _
  · exact .bind (.check _ _) fun _ => .bind (.checkSome _ _) fun _ =>
      .bind (insertPlayer_kept _) fun _ => .bind (updateJoinIntents_kept _ _ _) fun _ => .pure _

theorem consumeTicket_rescues (request : TicketConsumeRequest) (idempotencyKey : String) :
    Within RescuesKept (consumeTicket digests request idempotencyKey fresh now) := by
  refine .bind (rescues_of_kept (lockSession_kept _)) fun session => .bind (within_select _)
    fun db => .bind (.checkSome _ _) fun ticket => .bind (.check _ _) fun _ =>
    .bind (.check _ _) fun _ => .bind (rescues_of_kept (findOperation_kept _ _)) fun prior => ?_
  have hrest : Within RescuesKept
      (useTicket digests session ticket request idempotencyKey prior fresh now) := by
    unfold useTicket
    cases ticket.consumption with
    | some consumption =>
      refine .bind (.check _ _) fun _ => .bind (rescues_of_kept ?_) fun _ => ?_
      · exact .bind (within_select _) fun _ => .bind (.checkSome _ _) fun _ => .pure _
      · cases prior with
        | some prior => exact rescues_of_kept (parseTicket_kept _)
        | none => exact .bind (insertOperation_rescues _) fun _ => .pure _
    | none =>
      exact .bind (.check _ _) fun _ => .bind (.check _ _) fun _ =>
        .bind (rescues_of_kept (ensureBoundSeat_kept _ _)) fun _ =>
        .bind (rescues_of_kept (updateTickets_kept _ _)) fun _ =>
        .bind (insertOperation_rescues _) fun _ => .pure _
  cases prior with
  | some prior => exact .bind (rescues_of_kept (assertNoOpReplay_kept _ _)) fun _ => hrest
  | none => exact hrest

theorem markStarted_rescues (gameId roomId : String) (stateVersion : ℤ) (idempotencyKey : String) :
    Within RescuesKept
      (markStarted digests gameId roomId stateVersion idempotencyKey fresh now) := by
  refine .bind (rescues_of_kept (lockSession_kept _)) fun session =>
    .bind (rescues_of_kept (findOperation_kept _ _)) fun prior => ?_
  cases prior with
  | some prior =>
    exact .bind (rescues_of_kept (assertNoOpReplay_kept _ _)) fun _ =>
      rescues_of_kept (parseOperation_kept _)
  | none =>
    exact .bind (.check _ _) fun _ => .bind (.check _ _) fun _ => .bind (.check _ _) fun _ =>
      .bind (within_select _) fun _ => .bind (.check _ _) fun _ =>
      .bind (rescues_of_kept (updateSession_kept _ _ _)) fun _ =>
      .bind (insertOperation_rescues _) fun _ => .pure _

theorem replay_kept (operation : OperationRow) (hash : String) :
    Within BooksKept (replay operation hash) :=
  .bind (.check _ _) fun _ => .bind (.check _ _) fun _ => parseOperation_kept _

theorem finishSession_kept (gameId : String) (f : SessionRow → SessionRow) :
    Within BooksKept (finishSession gameId f now) :=
  .bind (updateSession_kept _ _ _) fun _ => updateSession_kept _ _ _

theorem complete_rescues (gameId creatorUserId : String) (request : SettlementRequest)
    (idempotencyKey hash : String) (seated : List Participant) (winner : Participant) :
    Within RescuesKept (complete gameId creatorUserId request idempotencyKey hash seated winner
      fresh now) := by
  have hclose : Within RescuesKept (do
      insertSettlement ⟨fresh.settlementId, gameId, .completed request.terminalStateVersion
        request.checkpointChecksum winner.reservation.userId, fresh.operationId⟩
      seated.forM (writeCompletedHistory gameId winner.reservation.userId
        (seated.map fun p => p.reservation.amount).sum now)
      finishSession gameId
        (fun row => { row with stateVersion := request.terminalStateVersion }) now
      commitWithResponse fresh.operationId) :=
    .bind (rescues_of_kept (insertSettlement_kept _)) fun _ =>
      .bind (.forM fun _ _ => rescues_of_kept
        (.bind (insertHistory_kept _) fun _ => upsertLeaderboard_kept _)) fun _ =>
      .bind (rescues_of_kept (finishSession_kept _ _)) fun _ => commitWithResponse_rescues
  exact .bind (rescues_of_kept (.bind (.check _ _) fun _ => .bind (within_select _) fun _ =>
      .check _ _)) fun _ => .bind (insertOperation_rescues _) fun _ =>
    .bind (.forM fun p _ => captureReservation_rescues p.reservation) fun _ =>
    .ite (.bind (creditWinner_rescues _) fun _ => hclose) hclose

theorem settle_rescues (gameId : String) (request : SettlementRequest) (idempotencyKey : String) :
    Within RescuesKept (settle digests gameId request idempotencyKey fresh now) := by
  refine .bind (within_select _) fun _ => .bind (rescues_of_kept (lockAccounts_kept _ _)) fun _ =>
    .bind (rescues_of_kept (lockSession_kept _)) fun _ =>
    .bind (rescues_of_kept (findOperation_kept _ _)) fun prior => ?_
  cases prior with
  | some prior => exact rescues_of_kept (replay_kept _ _)
  | none =>
    exact .bind (.bind (within_select _) fun _ => .check _ _) fun _ => .bind (.check _ _) fun _ =>
      .bind (.check _ _) fun _ => .bind (within_select _) fun _ => .bind (.checkSome _ _) fun _ =>
      .bind (.check _ _) fun _ => .bind (.checkSome _ _) fun _ => complete_rescues _ _ _ _ _ _ _

theorem abort_rescues (gameId : String) (reason : AbortReason) (idempotencyKey : String) :
    Within RescuesKept (abort digests gameId reason idempotencyKey fresh now) := by
  refine .bind (within_select _) fun _ => .bind (rescues_of_kept (lockAccounts_kept _ _)) fun _ =>
    .bind (rescues_of_kept (lockSession_kept _)) fun _ =>
    .bind (rescues_of_kept (findOperation_kept _ _)) fun prior => ?_
  cases prior with
  | some prior => exact rescues_of_kept (replay_kept _ _)
  | none =>
    exact .bind (.bind (within_select _) fun _ => .check _ _) fun _ => .bind (.check _ _) fun _ =>
      .bind (insertOperation_rescues _) fun _ =>
      .bind (.forM fun p _ => giveBack_rescues _ p.reservation) fun _ =>
      .bind (rescues_of_kept (insertSettlement_kept _)) fun _ =>
      .bind (.forM fun _ _ => rescues_of_kept (insertHistory_kept _)) fun _ =>
      .bind (rescues_of_kept (finishSession_kept _ _)) fun _ => commitWithResponse_rescues

theorem requireRecovery_kept (gameId : String) (requiredAt : ℤ) :
    Within BooksKept (requireRecovery gameId requiredAt) :=
  updateSession_kept _ _ _

theorem markRecoveryRequired_rescues (gameId : String) (inactiveBefore : ℤ) :
    Within RescuesKept (markRecoveryRequired settings gameId inactiveBefore) := by
  refine .bind (within_select _) fun db => ?_
  split
  · exact .pure _
  · exact .bind (rescues_of_kept (requireRecovery_kept _ _)) fun _ => .pure _

theorem markProofRecoveryRequired_rescues (gameId : String) :
    Within RescuesKept (markProofRecoveryRequired gameId now) := by
  refine .bind (within_select _) fun db => ?_
  split
  · exact .pure _
  · exact .bind (rescues_of_kept (requireRecovery_kept _ _)) fun _ => .pure _

/-- A rescue moves Coin to an account that stays in place. -/
theorem rescue_provisions (idempotencyKey : String) :
    Within ProvisionsKept (rescue digests settings userId idempotencyKey fresh now) := by
  have hwithin : ∀ {α : Type} {tx : ApiTx α}, Within RescuesKept tx → Within ProvisionsKept tx :=
    fun h => h.mono fun _ _ => RescuesKept.toProvisionsKept
  refine .bind (hwithin (rescues_of_kept lockAccountRow_kept)) fun account =>
    .bind (hwithin (rescues_of_kept (findOperation_kept _ _))) fun prior => ?_
  cases prior with
  | some prior => exact .bind (.check _ _) fun _ => .bind (.check _ _) fun _ => .checkSome _ _
  | none =>
    refine .ite (.bind (hwithin (insertOperation_rescues _)) fun _ => .bind ?_ fun _ =>
      .bind (hwithin (commitOperation_rescues _)) fun _ => .pure _)
      (.bind (hwithin (insertOperation_rescues _)) fun _ => .pure _)
    exact .bind (updateAccount_provisions fun _ => rfl) fun _ =>
      .bind (hwithin (insertEntry_rescues _)) fun _ => .bind (hwithin (insertEntry_rescues _))
      fun _ => .bind (.checkSome _ _) fun _ => .pure _

/-- The calls that are neither a registration nor a rescue. -/
def ApiCall.KeepsRescues : ApiCall → Prop
  | .registerUser _ | .rescue _ _ => False
  | _ => True

theorem runCall_rescuesKept {call : ApiCall} (h : call.KeepsRescues) :
    Within RescuesKept (runCall digests settings fresh now call) := by
  cases call with
  | registerUser userId | rescue userId key => exact h.elim
  | provisionPrincipal userId => exact .bind provisionPrincipal_rescues fun _ => .pure _
  | createSession userId definitionId key =>
    exact .bind (createSession_rescues _ _) fun _ => .pure _
  | joinSession userId gameId key => exact .bind (joinSession_rescues _ _) fun _ => .pure _
  | reconnectTicket userId gameId key =>
    exact .bind (reconnectTicket_rescues _ _) fun _ => .pure _
  | releaseJoinIntent userId gameId key =>
    exact .bind (releaseJoinIntentForUser_rescues _ _ _ _) fun _ => .pure _
  | cancelSession userId gameId key =>
    exact .bind (cancelSessionForUser_rescues _ _ _ _) fun _ => .pure _
  | finalizeRoomCommand gameId request key =>
    exact .bind (finalizeRoomCommand_rescues _ _ _) fun _ => .pure _
  | cancelExpiredWaitingSession gameId expiresBefore =>
    exact .bind (cancelExpiredWaitingSession_rescues _ _) fun _ => .pure _
  | releaseExpiredAdmission reservationId expiredBefore =>
    exact .bind (releaseExpiredAdmission_rescues _ _) fun _ => .pure _
  | bootstrap gameId => exact .bind (bootstrap_rescues _) fun _ => .pure _
  | consumeTicket request key => exact .bind (consumeTicket_rescues _ _) fun _ => .pure _
  | markStarted gameId roomId stateVersion key =>
    exact .bind (markStarted_rescues _ _ _ _) fun _ => .pure _
  | settle gameId request key => exact .bind (settle_rescues _ _ _) fun _ => .pure _
  | abort gameId reason key => exact .bind (abort_rescues _ _ _) fun _ => .pure _
  | markRecoveryRequired gameId inactiveBefore =>
    exact .bind (markRecoveryRequired_rescues _ _) fun _ => .pure _
  | markProofRecoveryRequired gameId =>
    exact .bind (markProofRecoveryRequired_rescues _) fun _ => .pure _

end Pootown.Api
