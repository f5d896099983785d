import Mathlib.Tactic
import Pootown.Api.SeatedReservations
import Pootown.Api.RescueFrame

/-!
# Account Coin is conserved

Every call keeps the books, and the commit of a transaction shows that its operation is balanced.

* `runCall_books`: the calls, one by one;
* `Books.committed`: what the deferred triggers add at the commit;
* `coin_is_conserved`: the accounts agree with the ledger and with the reservations in every state.
-/

namespace Pootown.Api

open Tables Transactions Runs

variable {digests : Digests} {settings : Settings} {opened : Option String}
  {rs : List ReservationRow} {gap : Gap} {userId operationId : String} {fresh : Fresh} {now : ℤ}
  {α : Type}

/-! ### Rules -/

theorem books_of_kept {tx : ApiTx α} (h : Within BooksKept tx) :
    Keeps (Books digests opened rs gap) tx :=
  h.keeps fun _ _ hkept hs => hs.kept hkept

/-- An operation that never was pending. -/
theorem insertNoOp_books {row : OperationRow} (hstatus : row.status = .noOp) :
    Keeps (Books digests none rs gap) (insertOperation row) :=
  fun _ _ _ hs h => hs.insertOperation (fun _ => id) (by simp [hstatus]) h

/-- A new operation is open until it is committed. -/
theorem insertPending_books {row : OperationRow} :
    Triple (Books digests none rs gap) (insertOperation row)
      fun _ => Books digests (some row.id) rs gap :=
  fun _ _ _ hs h => hs.insertOperation (by simp) (fun _ => rfl) h

theorem commitOperation_books (response : ResponseSnapshot) :
    Triple (Books digests (some operationId) rs gap) (commitOperation operationId response)
      fun _ => Books digests none rs gap :=
  fun _ _ _ hs h => hs.commitOperation h

theorem commitWithResponse_books :
    Triple (Books digests (some operationId) rs gap) (commitWithResponse operationId)
      fun _ => Books digests none [] gap :=
  .bind (commitOperation_books _) fun _ => .pure fun _ hs => hs.forget (List.nil_subset _)

/-- Rows that a query reads from the reservations are carried along from there. -/
theorem select_books {query : Database → α} (rows : α → List ReservationRow) {β : Type}
    {f : α → ApiTx β} {Q : β → Working → Prop}
    (hrows : ∀ db, rows (query db) ⊆ db.economy.reservations)
    (hf : ∀ a, Triple (Books digests opened (rows a) gap) (f a) Q) :
    Triple (Books digests opened rs gap) (select query >>= f) Q := by
  refine .bind triple_select fun a => (hf a).pre fun s hs => ?_
  obtain ⟨rfl, hbooks⟩ := hs
  exact hbooks.carry fun _ hr => hrows s.db hr

/-! ### Calls -/

theorem registerUser_books :
    Keeps (Books digests none rs .none) (registerUser digests settings userId fresh now) :=
  .bind (books_of_kept (within_select _)) fun _ => .bind (books_of_kept (.check _ _)) fun _ =>
    .bind (fun _ _ _ hs h => by
      rw [write_eq_ok.1 h]
      exact hs.of_economy rfl (List.Subset.refl _)) fun _ => provisionUser_books

theorem provisionPrincipal_books :
    Keeps (Books digests none rs .none) (provisionPrincipal digests settings userId fresh now) :=
  .bind (books_of_kept (within_select _)) fun _ => .bind (books_of_kept (.check _ _)) fun _ =>
    provisionUser_books

theorem rescue_books (idempotencyKey : String) :
    Keeps (Books digests none rs .none)
      (rescue digests settings userId idempotencyKey fresh now) := by
  intro s response s' hs h
  simp only [rescue, lockAccountRow_bind_eq_ok, findOperation_bind] at h
  obtain ⟨account, hfind, h⟩ := h
  have hholder : HasAccount userId s := ⟨account, find?_key_eq_some hfind⟩
  cases hprior : priorOperation s.db userId .rescueGrant idempotencyKey with
  | some prior =>
    simp only [hprior, check_bind_eq_ok, checkSome_eq_ok] at h
    obtain ⟨-, -, -, rfl⟩ := h
    exact hs
  | none =>
    simp only [hprior] at h
    rcases ite_eq_ok.1 h with ⟨-, h⟩ | ⟨-, h⟩
    · simp only [bind_eq_ok] at h
      obtain ⟨_, m, hoperation, granted, m₁, hgrant, _, m₂, hcommit, h⟩ := h
      obtain ⟨-, rfl⟩ := pure_eq_ok.1 h
      have hopened := insertGrant_books hs hholder (.inr rfl) hoperation
      exact (applyGrant_books m _ m₁ hopened hgrant).commitOperation hcommit
    · rw [bind_eq_ok] at h
      obtain ⟨_, m, hoperation, h⟩ := h
      obtain ⟨-, rfl⟩ := pure_eq_ok.1 h
      exact insertNoOp_books rfl s _ m hs hoperation

theorem admitPlayer_books (scope : OperationScope) (idempotencyKey hash : String)
    (logical : LogicalAdmission) (seatIndex : ℕ) (amount : ℤ) {beforeSeat : ApiTx Unit}
    (hkept : Within BooksKept beforeSeat) :
    Triple (fun s => Books digests none rs gap s ∧ HasAccount userId s)
      (admitPlayer digests settings userId scope idempotencyKey hash logical seatIndex amount
        beforeSeat fresh now) fun _ => Books digests none rs gap := by
  have hrest : Triple (Books digests (some fresh.operationId) rs gap) (do
      issueTicket digests settings userId logical fresh now
      commitOperation fresh.operationId (.admission logical)
      admissionResponse logical fresh.ticket (now + settings.ticketTtlMs))
      fun _ => Books digests none rs gap :=
    .bind (books_of_kept (issueTicket_kept _)) fun _ => .bind (commitOperation_books _) fun _ =>
      books_of_kept (admissionResponse_kept _ _ _)
  rintro s response s' ⟨hs, hholder⟩ h
  rw [admitPlayer, bind_eq_ok] at h
  obtain ⟨_, m, hoperation, h⟩ := h
  rw [bind_eq_ok] at h
  obtain ⟨_, m₁, hbefore, h⟩ := h
  rw [bind_eq_ok] at h
  obtain ⟨_, m₂, hreserve, h⟩ := h
  have hopened := insertPending_books s _ m hs hoperation
  have hholder' : HasAccount userId m := by
    obtain ⟨-, -, -, rfl⟩ := insertOperation_eq_ok.1 hoperation
    exact hholder
  have hbefore' := hkept _ _ _ hbefore
  exact hrest m₂ _ s' (reserveAndSeat_books _ _ _ m₁ _ m₂
    ⟨hopened.kept hbefore', hbefore'.hasAccount hholder'⟩ hreserve) h

/-- A user whose account was locked has one. -/
theorem lockAccount_books {β : Type} {f : AccountRow → ApiTx β} {Q : β → Working → Prop}
    (hf : ∀ account, Triple (fun s => Books digests opened rs gap s ∧ HasAccount userId s)
      (f account) Q) :
    Triple (Books digests opened rs gap) (lockAccount userId >>= f) Q := by
  intro s b s' hs h
  rw [bind_eq_ok] at h
  obtain ⟨account, _, hlock, h⟩ := h
  obtain ⟨rfl, hholder⟩ := lockAccount_ok hlock
  exact hf account _ b s' ⟨hs, hholder⟩ h

theorem holder_of_kept {tx : ApiTx α} (h : Within BooksKept tx) :
    Keeps (fun s => Books digests opened rs gap s ∧ HasAccount userId s) tx :=
  h.keeps fun _ _ hkept hs => ⟨hs.1.kept hkept, hkept.hasAccount hs.2⟩

theorem replayAdmission_kept (prior : OperationRow) (hash : String) (status : OperationStatus) :
    Within BooksKept (do
      assertReplay prior hash status
      let logical ← parseAdmission prior.responseSnapshot
      reissueAdmission digests settings logical fresh now) :=
  .bind (assertReplay_kept _ _ _) fun _ => .bind (parseAdmission_kept _) fun _ =>
    reissueAdmission_kept _

theorem createSession_books (gameDefinitionId idempotencyKey : String) :
    Keeps (Books digests none rs gap)
      (createSession digests settings userId gameDefinitionId idempotencyKey fresh now) := by
  refine lockAccount_books fun _ => .bind (holder_of_kept (findOperation_kept _ _)) fun prior => ?_
  cases prior with
  | some prior => exact (books_of_kept (replayAdmission_kept _ _ _)).pre fun _ => And.left
  | none =>
    exact .bind (holder_of_kept (within_select _)) fun _ =>
      .bind (holder_of_kept (.checkSome _ _)) fun _ =>
      admitPlayer_books _ _ _ _ _ _ (insertSession_kept _)

theorem joinSession_books (gameId idempotencyKey : String) :
    Keeps (Books digests none rs gap)
      (joinSession digests settings userId gameId idempotencyKey fresh now) := by
  refine lockAccount_books fun _ => .bind (holder_of_kept (lockSession_kept _)) fun _ =>
    .bind (holder_of_kept (findOperation_kept _ _)) fun prior => ?_
  cases prior with
  | some prior => exact (books_of_kept (replayAdmission_kept _ _ _)).pre fun _ => And.left
  | none =>
    exact .bind (holder_of_kept (.check _ _)) fun _ => .bind (holder_of_kept (within_select _))
      fun _ => .bind (holder_of_kept (.check _ _)) fun _ =>
      .bind (holder_of_kept (.checkSome _ _)) fun _ => admitPlayer_books _ _ _ _ _ _ (.pure _)

theorem reconnectTicket_books (gameId idempotencyKey : String) :
    Keeps (Books digests none rs gap)
      (reconnectTicket digests settings userId gameId idempotencyKey fresh now) := by
  refine .bind (books_of_kept lockAccount_kept) fun _ =>
    .bind (books_of_kept (lockSession_kept _)) fun _ => .bind (books_of_kept (.check _ _)) fun _ =>
    .bind (books_of_kept (findOperation_kept _ _)) fun prior => ?_
  cases prior with
  | some prior => exact books_of_kept (replayAdmission_kept _ _ _)
  | none =>
    exact .bind (books_of_kept (within_select _)) fun _ =>
      .bind (books_of_kept (.checkSome _ _)) fun _ =>
      .bind (books_of_kept (reissueAdmission_kept _)) fun _ =>
      .bind (insertNoOp_books rfl) fun _ => .pure fun _ => id

theorem leaveSeat_books {r : ReservationRow} (hr : r ∈ rs) :
    Keeps (Books digests opened rs gap) (leaveSeat operationId r now) :=
  .bind (giveBack_books hr) fun _ => .bind (books_of_kept (updateJoinIntents_kept _ _ _)) fun _ =>
    .bind (books_of_kept (deletePlayers_kept _)) fun _ =>
    books_of_kept (expireUnusedTickets_kept _)

theorem releaseJoinIntentForUser_books (gameId idempotencyKey hash : String)
    (expected : Option RoomBinding) :
    Keeps (Books digests none [] gap)
      (releaseJoinIntentForUser userId gameId idempotencyKey hash expected fresh now) := by
  refine .bind (books_of_kept lockAccount_kept) fun _ =>
    .bind (books_of_kept (lockSession_kept _)) fun _ =>
    .bind (books_of_kept (findOperation_kept _ _)) fun prior => ?_
  cases prior with
  | some prior =>
    exact .bind (books_of_kept (assertReplay_kept _ _ _)) fun _ =>
      books_of_kept (parseOperation_kept _)
  | none =>
    refine .bind (books_of_kept (requireNoRoom_kept _ _ _)) fun _ =>
      .bind (books_of_kept (.check _ _)) fun _ => .bind (books_of_kept (.check _ _)) fun _ =>
      .bind (books_of_kept (requireBinding_kept _ _ _ _ _ _)) fun _ => ?_
    refine select_books (fun db : Database => db.economy.reservations)
      (fun _ => List.Subset.refl _) fun db => .bind .checkSome fun r => .assuming fun hfind => ?_
    have hr : r ∈ db.economy.reservations := List.mem_of_find?_eq_some hfind
    exact .bind (books_of_kept (.check _ _)) fun _ => .bind insertPending_books fun _ =>
      .bind (leaveSeat_books hr) fun _ => commitWithResponse_books

theorem reservedInSession_subset (db : Database) (gameId : String) :
    reservedInSession db gameId ⊆ db.economy.reservations :=
  fun _ hr => List.mem_of_mem_filter (mem_orderBy.1 hr)

theorem closeWaitingSession_books (gameId : String) :
    Keeps (Books digests opened rs gap) (closeWaitingSession operationId gameId rs now) :=
  .bind (books_of_kept (updateSession_kept _ _ _)) fun _ =>
    .bind (Keeps.forM fun _ hr => giveBack_books hr) fun _ =>
    books_of_kept (.bind (updateJoinIntents_kept _ _ _) fun _ => .bind (within_select _) fun _ =>
      .bind (.forM fun _ _ => insertHistoryIfAbsent_kept _) fun _ =>
      .bind (deletePlayers_kept _) fun _ => .bind (expireUnusedTickets_kept _) fun _ =>
      updateSession_kept _ _ _)

theorem cancelSessionForUser_books (gameId idempotencyKey hash : String)
    (expected : Option RoomBinding) :
    Keeps (Books digests none [] gap)
      (cancelSessionForUser userId gameId idempotencyKey hash expected fresh now) := by
  refine .bind (books_of_kept (within_select _)) fun _ =>
    .bind (books_of_kept (.checkSome _ _)) fun _ => .bind (books_of_kept (.check _ _)) fun _ =>
    .bind (books_of_kept (findOperation_kept _ _)) fun prior => ?_
  cases prior with
  | some prior =>
    exact .bind (books_of_kept (assertReplay_kept _ _ _)) fun _ =>
      books_of_kept (parseOperation_kept _)
  | none =>
    exact select_books (fun db : Database => reservedInSession db gameId)
      (fun db => reservedInSession_subset db gameId) fun db =>
      .bind (books_of_kept (lockAccounts_kept _ _)) fun _ =>
      .bind (books_of_kept (lockSession_kept _)) fun _ => .bind (books_of_kept (.check _ _))
      fun _ => .bind (books_of_kept (requireNoRoom_kept _ _ _)) fun _ =>
      .bind (books_of_kept (requireBinding_kept _ _ _ _ _ _)) fun _ =>
      .bind insertPending_books fun _ => .bind (closeWaitingSession_books gameId) fun _ =>
      commitWithResponse_books

theorem finalizeRoomCommand_books (gameId : String) (request : RoomSessionFinalizationRequest)
    (idempotencyKey : String) :
    Keeps (Books digests none [] gap)
      (finalizeRoomCommand digests gameId request idempotencyKey fresh now) := by
  refine .bind (books_of_kept (within_select _)) fun tickets => ?_
  dsimp only
  split
  · split
    · exact releaseJoinIntentForUser_books _ _ _ _
    · exact cancelSessionForUser_books _ _ _ _
  · exact .fail

theorem cancelExpiredWaitingSession_books (gameId : String) (expiresBefore : ℤ) :
    Keeps (Books digests none [] gap)
      (cancelExpiredWaitingSession digests gameId expiresBefore fresh now) := by
  refine select_books (fun db : Database => reservedInSession db gameId)
    (fun db => reservedInSession_subset db gameId) fun db => ?_
  have hnone : Triple (Books digests none (reservedInSession db gameId) gap)
      (pure false : ApiTx Bool) fun _ => Books digests none [] gap :=
    .pure fun _ hs => hs.forget (List.nil_subset _)
  split
  · exact hnone
  next row _ =>
    refine .bind (books_of_kept (findOperation_kept _ _)) fun prior => ?_
    cases prior with
    | some prior => exact .bind (books_of_kept (assertReplay_kept _ _ _)) fun _ => hnone
    | none =>
      exact .bind (books_of_kept (lockAccounts_kept _ _)) fun _ =>
        .bind (books_of_kept (lockSession_kept _)) fun _ =>
        .ite (fun _ => .bind insertPending_books fun _ =>
          .bind (closeWaitingSession_books gameId) fun _ =>
          .bind commitWithResponse_books fun _ => .pure fun _ => id) fun _ => hnone

theorem releaseExpiredAdmission_books (reservationId : String) (expiredBefore : ℤ) :
    Keeps (Books digests none [] gap)
      (releaseExpiredAdmission digests reservationId expiredBefore fresh now) := by
  refine select_books (fun db : Database => db.economy.reservations)
    (fun _ => List.Subset.refl _) fun db => ?_
  have hnone : Triple (Books digests none db.economy.reservations gap)
      (pure false : ApiTx Bool) fun _ => Books digests none [] gap :=
    .pure fun _ hs => hs.forget (List.nil_subset _)
  split
  · exact hnone
  next row _ =>
    refine .bind (books_of_kept lockAccount_kept) fun _ =>
      .bind (books_of_kept (lockSession_kept _)) fun _ => .ite (fun _ => hnone) fun _ => ?_
    refine .bind (books_of_kept (findOperation_kept _ _)) fun prior => ?_
    cases prior with
    | some prior => exact .bind (books_of_kept (assertReplay_kept _ _ _)) fun _ => hnone
    | none =>
      dsimp only
      split
      · exact hnone
      next r hfind =>
        have hr : r ∈ db.economy.reservations := List.mem_of_find?_eq_some hfind
        exact .bind insertPending_books fun _ => .bind (giveBack_books hr) fun _ =>
          .bind (books_of_kept (updateJoinIntents_kept _ _ _)) fun _ =>
          .bind (books_of_kept (expireUnusedTickets_kept _)) fun _ =>
          .bind commitWithResponse_books fun _ => .pure fun _ => id

open Classical in
theorem bootstrap_kept (gameId : String) : Within BooksKept (bootstrap gameId) :=
  .bind (within_select _) fun _ => .bind (.checkSome _ _) fun _ => .bind (.check _ _) fun _ =>
    .bind (.check _ _) fun _ => .bind (.checkSome _ _) fun _ => .pure _

theorem consumeTicket_books (request : TicketConsumeRequest) (idempotencyKey : String) :
    Keeps (Books digests none rs gap)
      (consumeTicket digests request idempotencyKey fresh now) := by
  refine .bind (books_of_kept (lockSession_kept _)) fun session =>
    .bind (books_of_kept (within_select _)) fun db => .bind (books_of_kept (.checkSome _ _))
    fun ticket => .bind (books_of_kept (.check _ _)) fun _ => .bind (books_of_kept (.check _ _))
    fun _ => .bind (books_of_kept (findOperation_kept _ _)) fun prior => ?_
  have hrest : Keeps (Books digests none rs gap)
      (useTicket digests session ticket request idempotencyKey prior fresh now) := by
    unfold useTicket
    cases ticket.consumption with
    | some consumption =>
      refine .bind (books_of_kept (.check _ _)) fun _ => .bind (books_of_kept ?_) fun _ => ?_
      · exact .bind (within_select _) fun _ => .bind (.checkSome _ _) fun _ => .pure _
      · cases prior with
        | some prior => exact books_of_kept (parseTicket_kept _)
        | none => exact .bind (insertNoOp_books rfl) fun _ => .pure fun _ => id
    | none =>
      exact .bind (books_of_kept (.check _ _)) fun _ => .bind (books_of_kept (.check _ _))
        fun _ => .bind (books_of_kept (ensureBoundSeat_kept _ _)) fun _ =>
        .bind (books_of_kept (updateTickets_kept _ _)) fun _ =>
        .bind (insertNoOp_books rfl) fun _ => .pure fun _ => id
  cases prior with
  | some prior => exact .bind (books_of_kept (assertNoOpReplay_kept _ _)) fun _ => hrest
  | none => exact hrest

theorem markStarted_books (gameId roomId : String) (stateVersion : ℤ) (idempotencyKey : String) :
    Keeps (Books digests none rs gap)
      (markStarted digests gameId roomId stateVersion idempotencyKey fresh now) := by
  refine .bind (books_of_kept (lockSession_kept _)) fun session =>
    .bind (books_of_kept (findOperation_kept _ _)) fun prior => ?_
  cases prior with
  | some prior =>
    exact .bind (books_of_kept (assertNoOpReplay_kept _ _)) fun _ =>
      books_of_kept (parseOperation_kept _)
  | none =>
    exact .bind (books_of_kept (.check _ _)) fun _ => .bind (books_of_kept (.check _ _)) fun _ =>
      .bind (books_of_kept (.check _ _)) fun _ => .bind (books_of_kept (within_select _)) fun _ =>
      .bind (books_of_kept (.check _ _)) fun _ =>
      .bind (books_of_kept (updateSession_kept _ _ _)) fun _ =>
      .bind (insertNoOp_books rfl) fun _ => .pure fun _ => id

/-! ### Settlements -/

/-- The reservations of the participants. -/
def Participant.rows (seated : List Participant) : List ReservationRow :=
  seated.map Participant.reservation

theorem participants_subset (db : Database) (gameId : String) :
    Participant.rows (participants db gameId) ⊆ db.economy.reservations := by
  intro r hr
  obtain ⟨p, hp, rfl⟩ := List.mem_map.1 hr
  exact (mem_participants hp).1

theorem complete_books (gameId creatorUserId : String) (request : SettlementRequest)
    (idempotencyKey hash : String) {seated : List Participant} {winner : Participant}
    (hwinner : winner ∈ seated) :
    Triple (Books digests none (Participant.rows seated) gap)
      (complete gameId creatorUserId request idempotencyKey hash seated winner fresh now)
      fun _ => Books digests none [] gap := by
  have hclose : Triple (Books digests (some fresh.operationId) (Participant.rows seated) gap) (do
      insertSettlement ⟨fresh.settlementId, gameId, .completed request.terminalStateVersion
        request.checkpointChecksum winner.reservation.userId, fresh.operationId⟩
      seated.forM (writeCompletedHistory gameId winner.reservation.userId
        (seated.map fun p => p.reservation.amount).sum now)
      finishSession gameId
        (fun row => { row with stateVersion := request.terminalStateVersion }) now
      commitWithResponse fresh.operationId) fun _ => Books digests none [] gap :=
    .bind (books_of_kept (insertSettlement_kept _)) fun _ =>
      .bind (books_of_kept (.forM fun _ _ =>
        .bind (insertHistory_kept _) fun _ => upsertLeaderboard_kept _)) fun _ =>
      .bind (books_of_kept (finishSession_kept _ _)) fun _ => commitWithResponse_books
  exact .bind (books_of_kept (.bind (.check _ _) fun _ => .bind (within_select _) fun _ =>
      .check _ _)) fun _ => .bind insertPending_books fun _ =>
    .bind (Keeps.forM fun _ hp => captureReservation_books (List.mem_map_of_mem hp)) fun _ =>
    .ite (fun _ => .bind (creditWinner_books (List.mem_map_of_mem hwinner)) fun _ => hclose)
      fun _ => hclose

theorem settle_books (gameId : String) (request : SettlementRequest) (idempotencyKey : String) :
    Keeps (Books digests none [] gap) (settle digests gameId request idempotencyKey fresh now) := by
  refine select_books (fun db : Database => Participant.rows (participants db gameId))
    (fun db => participants_subset db gameId) fun db => ?_
  refine .bind (books_of_kept (lockAccounts_kept _ _)) fun _ =>
    .bind (books_of_kept (lockSession_kept _)) fun _ =>
    .bind (books_of_kept (findOperation_kept _ _)) fun prior => ?_
  cases prior with
  | some prior =>
    exact (books_of_kept (replay_kept _ _)).post fun _ _ hs => hs.forget (List.nil_subset _)
  | none =>
    refine .bind (books_of_kept (.bind (within_select _) fun _ => .check _ _)) fun _ =>
      .bind (books_of_kept (.check _ _)) fun _ => .bind (books_of_kept (.check _ _)) fun _ =>
      .bind (books_of_kept (within_select _)) fun _ => .bind (books_of_kept (.checkSome _ _))
      fun _ => .bind (books_of_kept (.check _ _)) fun _ => .bind .checkSome fun winner =>
      .assuming fun hfind => complete_books _ _ _ _ _ (List.mem_of_find?_eq_some hfind)

theorem abort_books (gameId : String) (reason : AbortReason) (idempotencyKey : String) :
    Keeps (Books digests none [] gap) (abort digests gameId reason idempotencyKey fresh now) := by
  refine select_books (fun db : Database => Participant.rows (participants db gameId))
    (fun db => participants_subset db gameId) fun db => ?_
  refine .bind (books_of_kept (lockAccounts_kept _ _)) fun _ =>
    .bind (books_of_kept (lockSession_kept _)) fun _ =>
    .bind (books_of_kept (findOperation_kept _ _)) fun prior => ?_
  cases prior with
  | some prior =>
    exact (books_of_kept (replay_kept _ _)).post fun _ _ hs => hs.forget (List.nil_subset _)
  | none =>
    exact .bind (books_of_kept (.bind (within_select _) fun _ => .check _ _)) fun _ =>
      .bind (books_of_kept (.check _ _)) fun _ => .bind insertPending_books fun _ =>
      .bind (Keeps.forM fun _ hp => giveBack_books (List.mem_map_of_mem hp)) fun _ =>
      .bind (books_of_kept (insertSettlement_kept _)) fun _ =>
      .bind (books_of_kept (.forM fun _ _ => insertHistory_kept _)) fun _ =>
      .bind (books_of_kept (finishSession_kept _ _)) fun _ => commitWithResponse_books

theorem markRecoveryRequired_kept (gameId : String) (inactiveBefore : ℤ) :
    Within BooksKept (markRecoveryRequired settings gameId inactiveBefore) := by
  refine .bind (within_select _) fun db => ?_
  split
  · exact .pure _
  · exact .bind (requireRecovery_kept _ _) fun _ => .pure _

theorem markProofRecoveryRequired_kept (gameId : String) :
    Within BooksKept (markProofRecoveryRequired gameId now) := by
  refine .bind (within_select _) fun db => ?_
  split
  · exact .pure _
  · exact .bind (requireRecovery_kept _ _) fun _ => .pure _

/-- Every call keeps the books. -/
theorem runCall_books (call : ApiCall) :
    Keeps (Books digests none [] .none) (runCall digests settings fresh now call) := by
  have hdone : ∀ {α : Type} {tx : ApiTx α}, Keeps (Books digests none [] .none) tx →
      Keeps (Books digests none [] .none) (do let _ ← tx) :=
    fun h => .bind h fun _ => .pure fun _ => id
  cases call with
  | registerUser userId => exact hdone registerUser_books
  | provisionPrincipal userId => exact hdone provisionPrincipal_books
  | rescue userId key => exact hdone (rescue_books _)
  | createSession userId definitionId key => exact hdone (createSession_books _ _)
  | joinSession userId gameId key => exact hdone (joinSession_books _ _)
  | reconnectTicket userId gameId key => exact hdone (reconnectTicket_books _ _)
  | releaseJoinIntent userId gameId key => exact hdone (releaseJoinIntentForUser_books _ _ _ _)
  | cancelSession userId gameId key => exact hdone (cancelSessionForUser_books _ _ _ _)
  | finalizeRoomCommand gameId request key => exact hdone (finalizeRoomCommand_books _ _ _)
  | cancelExpiredWaitingSession gameId expiresBefore =>
    exact hdone (cancelExpiredWaitingSession_books _ _)
  | releaseExpiredAdmission reservationId expiredBefore =>
    exact hdone (releaseExpiredAdmission_books _ _)
  | bootstrap gameId => exact hdone (books_of_kept (bootstrap_kept _))
  | consumeTicket request key => exact hdone (consumeTicket_books _ _)
  | markStarted gameId roomId stateVersion key => exact hdone (markStarted_books _ _ _ _)
  | settle gameId request key => exact hdone (settle_books _ _ _)
  | abort gameId reason key => exact hdone (abort_books _ _ _)
  | markRecoveryRequired gameId inactiveBefore =>
    exact hdone (books_of_kept (markRecoveryRequired_kept _ _))
  | markProofRecoveryRequired gameId =>
    exact hdone (books_of_kept (markProofRecoveryRequired_kept _))

/-! ### Commits -/

section Commits

variable {db : Database}

/-- At the commit every trigger holds, and no operation is left unbalanced. -/
theorem Books.committed {s : Working} (h : Books digests none rs gap s)
    (hholds : ∀ deferred ∈ s.deferred, deferred.Holds s.db) :
    Books digests none rs gap ⟨s.db, []⟩ := by
  have hbalanced : ∀ operation ∈ s.db.economy.operations, operation.status ≠ .pending →
      operationBalance s.db.economy operation.id = 0 := by
    intro operation hmem hstatus
    rcases h.watched operation hmem hstatus with hzero | ⟨hcommitted, hdeferred⟩
    · exact hzero
    · exact (hholds _ hdeferred operation hmem rfl hcommitted).1
  exact { h with watched := fun operation hmem hstatus => .inl (hbalanced operation hmem hstatus) }

/-- Between two transactions the books are closed. -/
def Closed (digests : Digests) (db : Database) : Prop :=
  Books digests none [] .none ⟨db, []⟩

theorem Closed.balanced (h : Closed digests db) {operation : OperationRow}
    (hmem : operation ∈ db.economy.operations) : operationBalance db.economy operation.id = 0 := by
  have hstatus : operation.status ≠ .pending := by
    intro hpending
    cases h.pending operation hmem hpending
  rcases h.watched operation hmem hstatus with hzero | ⟨-, hdeferred⟩
  · exact hzero
  · exact absurd hdeferred List.not_mem_nil

theorem Initial.closed (h : Initial db) : Closed digests db := by
  have heconomy := h.economy
  constructor <;> simp [heconomy]

theorem SystemStep.closed {codec : Server.Codec} {label : SystemLabel} {db' : Database}
    (h : Closed digests db) (hstep : SystemStep digests settings codec db label db') :
    Closed digests db' := by
  cases hstep with
  | committed hcommit =>
    obtain ⟨s, hcall, hholds, rfl⟩ := withTransaction_eq_ok.1 hcommit
    exact (runCall_books _ _ _ _ h hcall).committed hholds
  | rolledBack => exact h
  | room => exact Books.of_economy h rfl (List.Subset.refl _)

theorem closed_of_run {codec : Server.Codec} {labels : List SystemLabel} {start : Database}
    (hinitial : Initial start) (hrun : Run (SystemStep digests settings codec) start labels db) :
    Closed digests db :=
  hrun.invariant (I := Closed digests) (fun _ _ _ h hstep => hstep.closed h) hinitial.closed

/-! ### Totals -/

/-- All Coin on the accounts of users. -/
def totalCoin (economy : Economy) : ℤ :=
  (economy.accounts.map fun account => account.availableCoin + account.reservedCoin).sum

/-- All Coin that has left the issuance account. -/
def issuedCoin (economy : Economy) : ℤ :=
  -sumWhere (fun entry => entry.ledgerAccountId = issuanceAccount.id) LedgerEntryRow.amount
    economy.ledgerEntries

/-- The entry is on one of the two ledger accounts of a user. -/
abbrev OnUser (economy : Economy) (userId : String) (entry : LedgerEntryRow) : Prop :=
  OnAccount economy userId .userAvailable entry ∨ OnAccount economy userId .userReserved entry

theorem Closed.onUser (h : Closed digests db) {entry : LedgerEntryRow}
    (hmem : entry ∈ db.economy.ledgerEntries)
    (hissued : entry.ledgerAccountId ≠ issuanceAccount.id) :
    ∃ account ∈ db.economy.accounts,
      ∀ userId, OnUser db.economy userId entry ↔ account.userId = userId := by
  obtain ⟨⟨l, hl, hid⟩, -⟩ := h.entered entry hmem
  rcases h.named l hl with rfl | ⟨account, haccount, kind, hkind, rfl⟩
  · exact absurd hid.symm hissued
  · refine ⟨account, haccount, fun userId => ?_⟩
    rw [OnUser, h.onAccount_iff hl hid.symm, h.onAccount_iff hl hid.symm]
    rcases hkind with rfl | rfl <;> simp

/-- The entries of all users are those that the issuance account does not have. -/
theorem Closed.sum_userEntries (h : Closed digests db) :
    (db.economy.accounts.map fun account =>
      sumWhere (OnUser db.economy account.userId) LedgerEntryRow.amount
        db.economy.ledgerEntries).sum =
      sumWhere (fun entry => ¬ entry.ledgerAccountId = issuanceAccount.id) LedgerEntryRow.amount
        db.economy.ledgerEntries := by
  refine sum_sumWhere fun entry hmem => ?_
  by_cases hissued : entry.ledgerAccountId = issuanceAccount.id
  · rw [if_neg (not_not.2 hissued)]
    obtain ⟨⟨l, hl, hid⟩, -⟩ := h.entered entry hmem
    have hl' := h.eq_issuance hl (hid.trans hissued)
    refine sumWhere_eq_zero fun account _ => ?_
    rw [OnUser, h.onAccount_iff hl hid.symm, h.onAccount_iff hl hid.symm, hl']
    simp [issuanceAccount]
  · obtain ⟨account, haccount, huser⟩ := h.onUser hmem hissued
    have hone := sumWhere_key (w := fun _ => entry.amount) h.accountKeys haccount
    rw [if_pos hissued]
    exact (sumWhere_congr (fun other _ => (huser other.userId).trans eq_comm)
      fun _ _ _ => rfl).trans hone

/-- Each entry belongs to one operation, and the entries of an operation cancel out. -/
theorem Closed.sum_entries (h : Closed digests db) :
    (db.economy.ledgerEntries.map LedgerEntryRow.amount).sum = 0 := by
  have hgroups : (db.economy.operations.map fun operation =>
      operationBalance db.economy operation.id).sum =
        sumWhere (fun _ => True) LedgerEntryRow.amount db.economy.ledgerEntries := by
    refine sum_sumWhere fun entry hmem => ?_
    obtain ⟨-, operation, hoperation, hid⟩ := h.entered entry hmem
    have hone := sumWhere_key (w := fun _ => entry.amount) h.operationIds hoperation
    rw [if_pos trivial]
    exact (sumWhere_congr (fun other _ => by rw [hid, eq_comm]) fun _ _ _ => rfl).trans hone
  have hzero : (db.economy.operations.map fun operation =>
      operationBalance db.economy operation.id).sum = 0 := by
    refine List.sum_eq_zero fun x hx => ?_
    obtain ⟨operation, hoperation, rfl⟩ := List.mem_map.1 hx
    exact h.balanced hoperation
  rw [← hzero, hgroups]
  exact congrArg List.sum (List.map_congr_left fun _ _ => (if_pos trivial).symm)

theorem Closed.account_eq (h : Closed digests db) {account : AccountRow}
    (hmem : account ∈ db.economy.accounts) :
    account.availableCoin + account.reservedCoin =
      sumWhere (OnUser db.economy account.userId) LedgerEntryRow.amount
        db.economy.ledgerEntries := by
  have hdisjoint : ∀ entry ∈ db.economy.ledgerEntries,
      OnAccount db.economy account.userId .userAvailable entry →
        ¬ OnAccount db.economy account.userId .userReserved entry := by
    rintro entry hentry ⟨l, hl, hid, -, hkind⟩ ⟨l', hl', hid', -, hkind'⟩
    rw [eq_of_key_eq h.ledgerIds hl hl' (hid'.trans hid.symm), hkind] at hkind'
    cases hkind'
  have havailable := h.available account hmem
  have hreserved := h.reserved account hmem
  rw [sumWhere_or hdisjoint]
  simpa [Gap.none, ledgerBalance] using congrArg₂ (· + ·) havailable hreserved

theorem Closed.totalCoin_eq (h : Closed digests db) :
    totalCoin db.economy = issuedCoin db.economy := by
  have hsum : totalCoin db.economy = _ :=
    (congrArg List.sum (List.map_congr_left fun account hmem => h.account_eq hmem)).trans
      h.sum_userEntries
  have hall : sumWhere (fun entry => entry.ledgerAccountId = issuanceAccount.id)
      LedgerEntryRow.amount db.economy.ledgerEntries + _ =
      (db.economy.ledgerEntries.map LedgerEntryRow.amount).sum := sumWhere_add_not
  rw [h.sum_entries] at hall
  rw [hsum, issuedCoin]
  exact eq_neg_of_add_eq_zero_right hall

end Commits

/-- Along every run of the API, whatever its calls and however they interleave: the accounts agree
with the ledger and with the open reservations, every operation balances, and Coin comes from
nowhere but the grants. -/
theorem coin_is_conserved (digests : Digests) (settings : Settings) (codec : Server.Codec)
    {labels : List SystemLabel} {start db : Database} (hinitial : Initial start)
    (hrun : Run (SystemStep digests settings codec) start labels db) :
    (∀ account ∈ db.economy.accounts,
      account.availableCoin = ledgerBalance db.economy account.userId .userAvailable ∧
      account.reservedCoin = ledgerBalance db.economy account.userId .userReserved ∧
      account.reservedCoin = heldCoin db.economy account.userId ∧
      0 ≤ account.availableCoin ∧ 0 ≤ account.reservedCoin) ∧
    (∀ operation ∈ db.economy.operations, operation.status = .committed →
      operationBalance db.economy operation.id = 0) ∧
    (∀ entry ∈ db.economy.ledgerEntries,
      (∃ account ∈ db.economy.accounts, OnUser db.economy account.userId entry) ∨
      entry.ledgerAccountId = issuanceAccount.id ∧ ∃ operation ∈ db.economy.operations,
        operation.id = entry.operationId ∧ operation.scope.IsGrant) ∧
    totalCoin db.economy = issuedCoin db.economy := by
  have h : Closed digests db := closed_of_run hinitial hrun
  refine ⟨fun account hmem => ?_, fun operation hmem _ => h.balanced hmem, fun entry hmem => ?_,
    h.totalCoin_eq⟩
  · have havailable := h.available account hmem
    have hreserved := h.reserved account hmem
    have hheld := h.held account hmem
    exact ⟨by simpa [Gap.none] using havailable, by simpa [Gap.none] using hreserved,
      by simpa [Gap.none] using hheld, h.nonneg account hmem⟩
  · by_cases hissued : entry.ledgerAccountId = issuanceAccount.id
    · exact .inr ⟨hissued, h.issued entry hmem hissued⟩
    · obtain ⟨account, haccount, huser⟩ := h.onUser hmem hissued
      exact .inl ⟨account, haccount, (huser _).2 rfl⟩

/-- Alice and bob were granted a thousand each, of which their game holds fifty. -/
theorem coin_is_conserved_two :
    seatedDatabase.economy.accounts.map
      (fun account => (account.userId, account.availableCoin, account.reservedCoin)) =
      [("alice", 950, 50), ("bob", 950, 50)] ∧
    totalCoin seatedDatabase.economy = issuedCoin seatedDatabase.economy :=
  ⟨rfl, (coin_is_conserved plainDigests shortSettings plainCodec emptyDatabase_initial
    (run_afterCalls plainCodec aliceAndBob emptyDatabase)).2.2.2⟩

end Pootown.Api
