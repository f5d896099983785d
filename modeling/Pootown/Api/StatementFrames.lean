import Mathlib.Tactic
import Pootown.Api.Calls
import Pootown.Api.StatementRules

/-!
# What all statements keep

Every call is made of a few kinds of statements. What each of these keeps, whatever it is run with,
every call keeps.

* `KeptByStatements R`: each kind of statement stays within `R`, but for those that the leaderboard
  counts;
* `KeptByStatements.runCall`: then so does each call but `settle`, and that one as well if these do.
-/

namespace Pootown.Api

open Transactions

/-- Each kind of statement that the services run stays within `R`. -/
structure KeptByStatements (R : Working → Working → Prop) : Prop where
  insertUser : ∀ userId, Within R (modify fun db => { db with users := db.users ++ [userId] })
  insertAccountIfAbsent : ∀ userId, Within R (insertAccountIfAbsent userId)
  updateAccount : ∀ (userId : String) (guard : AccountRow → Prop) [DecidablePred guard]
    (f : AccountRow → AccountRow), (∀ account, (f account).userId = account.userId) →
      Within R (updateAccount userId guard f)
  insertLedgerAccountIfAbsent : ∀ (row : LedgerAccountRow) (conflict : LedgerAccountRow → Prop)
    [DecidablePred conflict], Within R (insertLedgerAccountIfAbsent row conflict)
  insertOperation : ∀ row, Within R (insertOperation row)
  commitOperation : ∀ operationId response, Within R (commitOperation operationId response)
  insertEntry : ∀ row, Within R (insertEntry row)
  insertReservation : ∀ row, Within R (insertReservation row)
  closeReservation : ∀ reservationId status operationId now,
    Within R (closeReservation reservationId status operationId now)
  insertSettlement : ∀ row, Within R (insertSettlement row)
  insertSession : ∀ row : SessionRow, row.lifecycle = .opened → Within R (insertSession row)
  updateSession : ∀ (gameId : String) (lifecycle : SessionLifecycle) (f : SessionRow → SessionRow),
    (∀ row, (f row).id = row.id ∧ (f row).creatorUserId = row.creatorUserId) →
      Within R (updateSession gameId lifecycle f)
  insertPlayer : ∀ row, Within R (insertPlayer row)
  deletePlayers : ∀ (p : PlayerRow → Prop) [DecidablePred p], Within R (deletePlayers p)
  insertJoinIntent : ∀ row, Within R (insertJoinIntent row)
  updateJoinIntents : ∀ (p : JoinIntentRow → Prop) [DecidablePred p] status now,
    Within R (updateJoinIntents p status now)
  insertTicket : ∀ row, Within R (insertTicket row)
  updateTickets : ∀ (p : TicketRow → Prop) [DecidablePred p] f, Within R (updateTickets p f)
  /-- A line of history that the leaderboard does not count. -/
  insertHistory : ∀ row, row.result = .cancelled ∨ row.result = .aborted →
    Within R (insertHistory row)

namespace KeptByStatements

variable {R : Working → Working → Prop} [Std.Refl R] [IsTrans Working R] {digests : Digests}
  {settings : Settings} {userId operationId : String} {fresh : Fresh} {now : ℤ}

/-! ### Reading -/

theorem lockAccount : Within R (lockAccount userId) :=
  .bind (within_select _) fun _ => .checkSome _ _

theorem lockAccountRow : Within R (lockAccountRow userId) :=
  .bind (within_select _) fun _ => .checkSome _ _

theorem lockSession (gameId : String) : Within R (lockSession gameId) :=
  .bind (within_select _) fun _ => .checkSome _ _

theorem lockAccounts (userIds : List String) (message : String) :
    Within R (lockAccounts userIds message) :=
  .bind (within_select _) fun _ => .check _ _

theorem findOperation (scope : OperationScope) (key : String) :
    Within R (findOperation userId scope key) :=
  .bind (within_select _) fun _ => .pure _

theorem assertReplay (operation : OperationRow) (hash : String) (status : OperationStatus) :
    Within R (assertReplay operation hash status) :=
  .bind (.check _ _) fun _ => .check _ _

theorem assertNoOpReplay (operation : OperationRow) (hash : String) :
    Within R (assertNoOpReplay operation hash) :=
  .bind (.check _ _) fun _ => .check _ _

omit [IsTrans Working R] in
theorem parseAdmission (snapshot : Option ResponseSnapshot) :
    Within R (parseAdmission snapshot) := by
  unfold Api.parseAdmission
  split
  · exact .pure _
  · exact .fail _

omit [IsTrans Working R] in
theorem parseOperation (snapshot : Option ResponseSnapshot) :
    Within R (parseOperation snapshot) := by
  unfold Api.parseOperation
  split
  · exact .pure _
  · exact .fail _

omit [IsTrans Working R] in
theorem parseTicket (snapshot : Option ResponseSnapshot) : Within R (parseTicket snapshot) := by
  unfold Api.parseTicket
  split
  · exact .pure _
  · exact .fail _

theorem admissionResponse (logical : LogicalAdmission) (ticket : String) (expiresAt : ℤ) :
    Within R (admissionResponse logical ticket expiresAt) :=
  .bind (within_select _) fun _ => .bind (.checkSome _ _) fun _ => .pure _

theorem ledgerAccount (kind : LedgerKind) (message : String) :
    Within R (ledgerAccount userId kind message) :=
  .bind (within_select _) fun _ => .bind (.checkSome _ _) fun _ => .pure _

open Classical in
theorem requireNoRoom (expected : Option RoomBinding) (gameId message : String) :
    Within R (requireNoRoom expected gameId message) := by
  unfold Api.requireNoRoom
  cases expected with
  | none => exact .bind (within_select _) fun _ => .check _ _
  | some binding => exact .pure _

theorem requireBinding (expected : Option RoomBinding) (gameId : String) (session : SessionRow)
    (seat : PlayerRow → Prop) [DecidablePred seat] (roomMessage seatMessage : String) :
    Within R (requireBinding expected gameId userId session seat roomMessage seatMessage) := by
  unfold Api.requireBinding
  cases expected with
  | none => exact .pure _
  | some binding => exact .bind (.check _ _) fun _ => .bind (within_select _) fun _ => .check _ _

/-! ### Parts of the services -/

variable (h : KeptByStatements R)

include h

theorem moveCoin (needs : AccountRow → Prop) [DecidablePred needs] (available reserved : ℤ)
    (failure : Failure) : Within R (moveCoin userId needs available reserved failure) :=
  .bind (h.updateAccount _ _ _ fun _ => rfl) fun _ => .check _ _

theorem enterMove (available reserved : ℤ) (missing : String) :
    Within R (enterMove operationId userId available reserved missing) :=
  .bind (ledgerAccount _ _) fun _ => .bind (ledgerAccount _ _) fun _ =>
    .bind (h.insertEntry _) fun _ => h.insertEntry _

theorem giveBack (missing : String) (r : ReservationRow) :
    Within R (giveBack missing operationId r now) :=
  .ite (.bind (h.moveCoin _ _ _ _) fun _ => .bind (h.enterMove _ _ _) fun _ =>
    h.closeReservation _ _ _ _) (h.closeReservation _ _ _ _)

theorem captureReservation (r : ReservationRow) :
    Within R (captureReservation operationId r now) :=
  .ite (.bind (h.moveCoin _ _ _ _) fun _ => .bind (ledgerAccount _ _) fun _ =>
    .bind (h.insertEntry _) fun _ => h.closeReservation _ _ _ _) (h.closeReservation _ _ _ _)

theorem creditWinner (amount : ℤ) : Within R (creditWinner operationId userId amount) :=
  .bind (h.updateAccount _ _ _ fun _ => rfl) fun _ =>
    .bind (ledgerAccount _ _) fun _ => h.insertEntry _

theorem reserveAndSeat (logical : LogicalAdmission) (seatIndex : ℕ) (amount : ℤ) :
    Within R (reserveAndSeat operationId userId logical seatIndex amount fresh now) := by
  have hseat : Within R (do
      Api.insertReservation ⟨logical.reservationId, operationId, userId, logical.gameId, amount,
        .reserved, now, none, none⟩
      Api.insertPlayer ⟨logical.gameId, logical.playerId, userId, seatIndex,
        logical.reservationId, true, now⟩
      Api.insertJoinIntent ⟨fresh.joinIntentId, logical.gameId, userId, logical.reservationId,
        .admitted, now, now⟩) :=
    .bind (h.insertReservation _) fun _ => .bind (h.insertPlayer _) fun _ => h.insertJoinIntent _
  exact .ite (.bind (h.moveCoin _ _ _ _) fun _ => .bind (h.enterMove _ _ _) fun _ => hseat) hseat

omit [Std.Refl R] [IsTrans Working R] in
theorem issueTicket (logical : LogicalAdmission) :
    Within R (issueTicket digests settings userId logical fresh now) :=
  h.insertTicket _

theorem reissueAdmission (logical : LogicalAdmission) :
    Within R (reissueAdmission digests settings logical fresh now) := by
  refine .bind (lockSession _) fun session => .bind (.check _ _) fun _ => .bind (within_select _)
    fun db => .bind (.checkSome _ _) fun reservation => ?_
  dsimp only
  split
  · exact .bind (h.updateTickets _ _) fun _ => admissionResponse _ _ _
  · exact .bind (h.issueTicket _) fun _ => admissionResponse _ _ _

theorem admitPlayer (scope : OperationScope) (idempotencyKey hash : String)
    (logical : LogicalAdmission) (seatIndex : ℕ) (amount : ℤ) {beforeSeat : ApiTx Unit}
    (hbefore : Within R beforeSeat) :
    Within R (admitPlayer digests settings userId scope idempotencyKey hash logical seatIndex
      amount beforeSeat fresh now) :=
  .bind (h.insertOperation _) fun _ => .bind hbefore fun _ =>
    .bind (h.reserveAndSeat _ _ _) fun _ => .bind (h.issueTicket _) fun _ =>
    .bind (h.commitOperation _ _) fun _ => admissionResponse _ _ _

theorem replayAdmission (prior : OperationRow) (hash : String) (status : OperationStatus) :
    Within R (do
      Api.assertReplay prior hash status
      let logical ← Api.parseAdmission prior.responseSnapshot
      Api.reissueAdmission digests settings logical fresh now) :=
  .bind (assertReplay _ _ _) fun _ => .bind (parseAdmission _) fun _ => h.reissueAdmission _

theorem commitWithResponse : Within R (commitWithResponse operationId) :=
  .bind (h.commitOperation _ _) fun _ => .pure _

theorem leaveSeat (r : ReservationRow) : Within R (leaveSeat operationId r now) :=
  .bind (h.giveBack _ _) fun _ => .bind (h.updateJoinIntents _ _ _) fun _ =>
    .bind (h.deletePlayers _) fun _ => h.updateTickets _ _

theorem insertHistoryIfAbsent {row : HistoryRow}
    (hrow : row.result = .cancelled ∨ row.result = .aborted) :
    Within R (insertHistoryIfAbsent row) :=
  .bind (within_select _) fun _ => .ite (.pure _) (h.insertHistory _ hrow)

theorem closeWaitingSession (gameId : String) (reservations : List ReservationRow) :
    Within R (closeWaitingSession operationId gameId reservations now) :=
  .bind (h.updateSession _ _ _ fun _ => ⟨rfl, rfl⟩) fun _ =>
    .bind (.forM fun r _ => h.giveBack _ r) fun _ => .bind (h.updateJoinIntents _ _ _) fun _ =>
    .bind (within_select _) fun _ =>
    .bind (.forM fun _ _ => h.insertHistoryIfAbsent (.inl rfl)) fun _ =>
    .bind (h.deletePlayers _) fun _ => .bind (h.updateTickets _ _) fun _ =>
    h.updateSession _ _ _ fun _ => ⟨rfl, rfl⟩

/-! ### Grants -/

omit [Std.Refl R] in
theorem ensureAccountInfrastructure : Within R (ensureAccountInfrastructure digests userId) :=
  .bind (h.insertAccountIfAbsent _) fun _ => .bind (h.insertLedgerAccountIfAbsent _ _) fun _ =>
    .bind (h.insertLedgerAccountIfAbsent _ _) fun _ => h.insertLedgerAccountIfAbsent _ _

theorem applyGrant (amount : ℤ) (rescue : Bool) :
    Within R (applyGrant digests userId operationId amount now rescue) :=
  .bind (h.updateAccount _ _ _ fun _ => rfl) fun _ => .bind (h.insertEntry _) fun _ =>
    .bind (h.insertEntry _) fun _ => .bind (.checkSome _ _) fun _ =>
    .ite (.bind (h.commitOperation _ _) fun _ => .pure _) (.pure _)

theorem insertOperationIfAbsent (row : OperationRow) :
    Within R (insertOperationIfAbsent row) :=
  .bind (within_select _) fun _ => .ite (.pure _) (.bind (h.insertOperation _) fun _ => .pure _)

theorem provisionUser : Within R (provisionUser digests settings userId fresh now) :=
  .bind h.ensureAccountInfrastructure fun _ => .bind lockAccountRow fun _ =>
    .bind (h.insertOperationIfAbsent _) fun _ =>
    .ite (.bind (h.applyGrant _ _) fun _ => .pure _) (.pure _)

theorem provisionPrincipal : Within R (provisionPrincipal digests settings userId fresh now) :=
  .bind (within_select _) fun _ => .bind (.check _ _) fun _ => h.provisionUser

theorem registerUser : Within R (registerUser digests settings userId fresh now) :=
  .bind (within_select _) fun _ => .bind (.check _ _) fun _ => .bind (h.insertUser _) fun _ =>
    h.provisionUser

theorem rescue (idempotencyKey : String) :
    Within R (rescue digests settings userId idempotencyKey fresh now) := by
  refine .bind lockAccountRow fun account => .bind (findOperation _ _) fun prior => ?_
  cases prior with
  | some prior => exact .bind (.check _ _) fun _ => .bind (.check _ _) fun _ => .checkSome _ _
  | none =>
    exact .ite (.bind (h.insertOperation _) fun _ => .bind (h.applyGrant _ _) fun _ =>
      .bind (h.commitOperation _ _) fun _ => .pure _) (.bind (h.insertOperation _) fun _ => .pure _)

/-! ### Sessions -/

theorem createSession (gameDefinitionId idempotencyKey : String) :
    Within R (createSession digests settings userId gameDefinitionId idempotencyKey fresh now) := by
  refine .bind lockAccount fun _ => .bind (findOperation _ _) fun prior => ?_
  cases prior with
  | some prior => exact h.replayAdmission _ _ _
  | none =>
    exact .bind (within_select _) fun _ => .bind (.checkSome _ _) fun _ =>
      h.admitPlayer _ _ _ _ _ _ (h.insertSession _ rfl)

theorem joinSession (gameId idempotencyKey : String) :
    Within R (joinSession digests settings userId gameId idempotencyKey fresh now) := by
  refine .bind lockAccount fun _ => .bind (lockSession _) fun _ => .bind (findOperation _ _)
    fun prior => ?_
  cases prior with
  | some prior => exact h.replayAdmission _ _ _
  | none =>
    exact .bind (.check _ _) fun _ => .bind (within_select _) fun _ => .bind (.check _ _) fun _ =>
      .bind (.checkSome _ _) fun _ => h.admitPlayer _ _ _ _ _ _ (.pure _)

theorem reconnectTicket (gameId idempotencyKey : String) :
    Within R (reconnectTicket digests settings userId gameId idempotencyKey fresh now) := by
  refine .bind lockAccount fun _ => .bind (lockSession _) fun _ => .bind (.check _ _) fun _ =>
    .bind (findOperation _ _) fun prior => ?_
  cases prior with
  | some prior => exact h.replayAdmission _ _ _
  | none =>
    exact .bind (within_select _) fun _ => .bind (.checkSome _ _) fun _ =>
      .bind (h.reissueAdmission _) fun _ => .bind (h.insertOperation _) fun _ => .pure _

theorem releaseJoinIntentForUser (gameId idempotencyKey hash : String)
    (expected : Option RoomBinding) : Within R
      (releaseJoinIntentForUser userId gameId idempotencyKey hash expected fresh now) := by
  refine .bind lockAccount fun _ => .bind (lockSession _) fun _ => .bind (findOperation _ _)
    fun prior => ?_
  cases prior with
  | some prior => exact .bind (assertReplay _ _ _) fun _ => parseOperation _
  | none =>
    exact .bind (requireNoRoom _ _ _) fun _ => .bind (.check _ _) fun _ => .bind (.check _ _)
      fun _ => .bind (requireBinding _ _ _ _ _ _) fun _ => .bind (within_select _) fun _ =>
      .bind (.checkSome _ _) fun _ => .bind (.check _ _) fun _ => .bind (h.insertOperation _)
      fun _ => .bind (h.leaveSeat _) fun _ => h.commitWithResponse

theorem cancelSessionForUser (gameId idempotencyKey hash : String)
    (expected : Option RoomBinding) : Within R
      (cancelSessionForUser userId gameId idempotencyKey hash expected fresh now) := by
  refine .bind (within_select _) fun _ => .bind (.checkSome _ _) fun _ => .bind (.check _ _)
    fun _ => .bind (findOperation _ _) fun prior => ?_
  cases prior with
  | some prior => exact .bind (assertReplay _ _ _) fun _ => parseOperation _
  | none =>
    exact .bind (within_select _) fun _ => .bind (lockAccounts _ _) fun _ =>
      .bind (lockSession _) fun _ => .bind (.check _ _) fun _ =>
      .bind (requireNoRoom _ _ _) fun _ => .bind (requireBinding _ _ _ _ _ _) fun _ =>
      .bind (h.insertOperation _) fun _ =>
      .bind (h.closeWaitingSession _ _) fun _ => h.commitWithResponse

theorem finalizeRoomCommand (gameId : String) (request : RoomSessionFinalizationRequest)
    (idempotencyKey : String) :
    Within R (finalizeRoomCommand digests gameId request idempotencyKey fresh now) := by
  refine .bind (within_select _) fun tickets => ?_
  dsimp only
  split
  · split
    · exact h.releaseJoinIntentForUser _ _ _ _
    · exact h.cancelSessionForUser _ _ _ _
  · exact .fail _

theorem cancelExpiredWaitingSession (gameId : String) (expiresBefore : ℤ) :
    Within R (cancelExpiredWaitingSession digests gameId expiresBefore fresh now) := by
  refine .bind (within_select _) fun db => ?_
  dsimp only
  split
  · exact .pure _
  · refine .bind (findOperation _ _) fun prior => ?_
    cases prior with
    | some prior => exact .bind (assertReplay _ _ _) fun _ => .pure _
    | none =>
      exact .bind (lockAccounts _ _) fun _ => .bind (lockSession _) fun _ =>
        .ite (.bind (h.insertOperation _) fun _ => .bind (h.closeWaitingSession _ _) fun _ =>
          .bind h.commitWithResponse fun _ => .pure _) (.pure _)

theorem releaseExpiredAdmission (reservationId : String) (expiredBefore : ℤ) :
    Within R (releaseExpiredAdmission digests reservationId expiredBefore fresh now) := by
  refine .bind (within_select _) fun db => ?_
  split
  · exact .pure _
  · refine .bind lockAccount fun _ => .bind (lockSession _) fun _ => .ite (.pure _) ?_
    refine .bind (findOperation _ _) fun prior => ?_
    cases prior with
    | some prior => exact .bind (assertReplay _ _ _) fun _ => .pure _
    | none =>
      dsimp only
      split
      · exact .pure _
      · exact .bind (h.insertOperation _) fun _ => .bind (h.giveBack _ _) fun _ =>
          .bind (h.updateJoinIntents _ _ _) fun _ => .bind (h.updateTickets _ _) fun _ =>
          .bind h.commitWithResponse fun _ => .pure _

/-! ### Rooms -/

omit h in
open Classical in
theorem bootstrap (gameId : String) : Within R (bootstrap gameId) :=
  .bind (within_select _) fun _ => .bind (.checkSome _ _) fun _ => .bind (.check _ _) fun _ =>
    .bind (.check _ _) fun _ => .bind (.checkSome _ _) fun _ => .pure _

theorem ensureBoundSeat (session : SessionRow) (ticket : TicketRow) :
    Within R (ensureBoundSeat session ticket now) := by
  refine .bind (within_select _) fun db => ?_
  split
  · exact .bind (.check _ _) fun _ => .pure _
  · exact .bind (.check _ _) fun _ => .bind (.checkSome _ _) fun _ =>
      .bind (h.insertPlayer _) fun _ => .bind (h.updateJoinIntents _ _ _) fun _ => .pure _

theorem reuseTicket (ticket : TicketRow) (consumption : TicketConsumption)
    (request : TicketConsumeRequest) (idempotencyKey : String) (prior : Option OperationRow) :
    Within R (reuseTicket digests ticket consumption request idempotencyKey prior fresh) := by
  refine .bind (.check _ _) fun _ => .bind (.bind (within_select _) fun _ => .bind (.checkSome _ _)
    fun _ => .pure _) fun _ => ?_
  cases prior with
  | some prior => exact parseTicket _
  | none => exact .bind (h.insertOperation _) fun _ => .pure _

theorem consumeTicket (request : TicketConsumeRequest) (idempotencyKey : String) :
    Within R (consumeTicket digests request idempotencyKey fresh now) := by
  refine .bind (lockSession _) fun session => .bind (within_select _) fun db =>
    .bind (.checkSome _ _) fun ticket => .bind (.check _ _) fun _ => .bind (.check _ _) fun _ =>
    .bind (findOperation _ _) fun prior => ?_
  have hrest : Within R
      (useTicket digests session ticket request idempotencyKey prior fresh now) := by
    unfold useTicket
    cases ticket.consumption with
    | some consumption => exact h.reuseTicket _ _ _ _ _
    | none =>
      exact .bind (.check _ _) fun _ => .bind (.check _ _) fun _ =>
        .bind (h.ensureBoundSeat _ _) fun _ => .bind (h.updateTickets _ _) fun _ =>
        .bind (h.insertOperation _) fun _ => .pure _
  cases prior with
  | some prior => exact .bind (assertNoOpReplay _ _) fun _ => hrest
  | none => exact hrest

theorem markStarted (gameId roomId : String) (stateVersion : ℤ) (idempotencyKey : String) :
    Within R (markStarted digests gameId roomId stateVersion idempotencyKey fresh now) := by
  refine .bind (lockSession _) fun session => .bind (findOperation _ _) fun prior => ?_
  cases prior with
  | some prior => exact .bind (assertNoOpReplay _ _) fun _ => parseOperation _
  | none =>
    exact .bind (.check _ _) fun _ => .bind (.check _ _) fun _ => .bind (.check _ _) fun _ =>
      .bind (within_select _) fun _ => .bind (.check _ _) fun _ =>
      .bind (h.updateSession _ _ _ fun _ => ⟨rfl, rfl⟩) fun _ =>
      .bind (h.insertOperation _) fun _ => .pure _

omit h in
theorem replay (operation : OperationRow) (hash : String) : Within R (replay operation hash) :=
  .bind (.check _ _) fun _ => .bind (.check _ _) fun _ => parseOperation _

omit h in
theorem requireNoSettlement (gameId : String) : Within R (requireNoSettlement gameId) :=
  .bind (within_select _) fun _ => .check _ _

omit [Std.Refl R] in
theorem finishSession (gameId : String) {f : SessionRow → SessionRow}
    (hf : ∀ row, (f row).id = row.id ∧ (f row).creatorUserId = row.creatorUserId) :
    Within R (finishSession gameId f now) :=
  .bind (h.updateSession _ _ _ hf) fun _ => h.updateSession _ _ _ fun _ => ⟨rfl, rfl⟩

/-- To record the outcome of a session once its reservations are closed. -/
theorem recordOutcome {seated : List Participant} {history : Participant → ApiTx PUnit}
    {f : SessionRow → SessionRow} (settlement : SettlementRow)
    (hhistory : ∀ p ∈ seated, Within R (history p))
    (hf : ∀ row, (f row).id = row.id ∧ (f row).creatorUserId = row.creatorUserId) :
    Within R (do
      Api.insertSettlement settlement
      seated.forM history
      Api.finishSession settlement.gameSessionId f now
      Api.commitWithResponse operationId) :=
  .bind (h.insertSettlement _) fun _ => .bind (.forM hhistory) fun _ =>
    .bind (h.finishSession _ hf) fun _ => h.commitWithResponse

theorem complete (gameId creatorUserId : String) (request : SettlementRequest)
    (idempotencyKey hash : String) (seated : List Participant) (winner : Participant)
    (hwrite : ∀ p ∈ seated, Within R (writeCompletedHistory gameId winner.reservation.userId
      (seated.map fun p => p.reservation.amount).sum now p)) :
    Within R (complete gameId creatorUserId request idempotencyKey hash seated winner
      fresh now) := by
  refine .bind (.bind (.check _ _) fun _ => .bind (within_select _) fun _ => .check _ _) fun _ =>
    .bind (h.insertOperation _) fun _ =>
    .bind (.forM fun p _ => h.captureReservation p.reservation) fun _ =>
    .ite (.bind (h.creditWinner _) fun _ => ?_) ?_ <;>
  exact h.recordOutcome ⟨_, gameId, _, _⟩ hwrite fun _ => ⟨rfl, rfl⟩

theorem settle (gameId : String) (request : SettlementRequest) (idempotencyKey : String)
    (hwrite : ∀ winnerUserId prize p,
      Within R (writeCompletedHistory gameId winnerUserId prize now p)) :
    Within R (settle digests gameId request idempotencyKey fresh now) := by
  refine .bind (within_select _) fun _ => .bind (lockAccounts _ _) fun _ => .bind (lockSession _)
    fun _ => .bind (findOperation _ _) fun prior => ?_
  cases prior with
  | some prior => exact replay _ _
  | none =>
    exact .bind (requireNoSettlement _) fun _ => .bind (.check _ _) fun _ => .bind (.check _ _)
      fun _ => .bind (within_select _) fun _ => .bind (.checkSome _ _) fun _ => .bind (.check _ _)
      fun _ => .bind (.checkSome _ _) fun _ => h.complete _ _ _ _ _ _ _ fun _ _ =>
        hwrite _ _ _

theorem abort (gameId : String) (reason : AbortReason) (idempotencyKey : String) :
    Within R (abort digests gameId reason idempotencyKey fresh now) := by
  refine .bind (within_select _) fun _ => .bind (lockAccounts _ _) fun _ => .bind (lockSession _)
    fun _ => .bind (findOperation _ _) fun prior => ?_
  cases prior with
  | some prior => exact replay _ _
  | none =>
    exact .bind (requireNoSettlement _) fun _ => .bind (.check _ _) fun _ =>
      .bind (h.insertOperation _) fun _ => .bind (.forM fun p _ => h.giveBack _ p.reservation)
      fun _ => h.recordOutcome ⟨_, gameId, _, _⟩ (fun _ _ => h.insertHistory _ (.inr rfl))
        fun _ => ⟨rfl, rfl⟩

theorem markRecoveryRequired (gameId : String) (inactiveBefore : ℤ) :
    Within R (markRecoveryRequired settings gameId inactiveBefore) := by
  refine .bind (within_select _) fun db => ?_
  split
  · exact .pure _
  · exact .bind (h.updateSession _ _ _ fun _ => ⟨rfl, rfl⟩) fun _ => .pure _

theorem markProofRecoveryRequired (gameId : String) :
    Within R (markProofRecoveryRequired gameId now) := by
  refine .bind (within_select _) fun db => ?_
  split
  · exact .pure _
  · exact .bind (h.updateSession _ _ _ fun _ => ⟨rfl, rfl⟩) fun _ => .pure _

/-! ### Calls -/

/-- What every kind of statement keeps, every call keeps. -/
theorem runCall (call : ApiCall) (hsettle : ∀ gameId request key, call = .settle gameId request key →
    Within R (Api.settle digests gameId request key fresh now)) :
    Within R (runCall digests settings fresh now call) := by
  cases call with
  | registerUser userId => exact .bind h.registerUser fun _ => .pure _
  | provisionPrincipal userId => exact .bind h.provisionPrincipal fun _ => .pure _
  | rescue userId key => exact .bind (h.rescue _) fun _ => .pure _
  | createSession userId definitionId key => exact .bind (h.createSession _ _) fun _ => .pure _
  | joinSession userId gameId key => exact .bind (h.joinSession _ _) fun _ => .pure _
  | reconnectTicket userId gameId key => exact .bind (h.reconnectTicket _ _) fun _ => .pure _
  | releaseJoinIntent userId gameId key =>
    exact .bind (h.releaseJoinIntentForUser _ _ _ _) fun _ => .pure _
  | cancelSession userId gameId key =>
    exact .bind (h.cancelSessionForUser _ _ _ _) fun _ => .pure _
  | finalizeRoomCommand gameId request key =>
    exact .bind (h.finalizeRoomCommand _ _ _) fun _ => .pure _
  | cancelExpiredWaitingSession gameId expiresBefore =>
    exact .bind (h.cancelExpiredWaitingSession _ _) fun _ => .pure _
  | releaseExpiredAdmission reservationId expiredBefore =>
    exact .bind (h.releaseExpiredAdmission _ _) fun _ => .pure _
  | bootstrap gameId => exact .bind (bootstrap _) fun _ => .pure _
  | consumeTicket request key => exact .bind (h.consumeTicket _ _) fun _ => .pure _
  | markStarted gameId roomId stateVersion key =>
    exact .bind (h.markStarted _ _ _ _) fun _ => .pure _
  | settle gameId request key => exact .bind (hsettle _ _ _ rfl) fun _ => .pure _
  | abort gameId reason key => exact .bind (h.abort _ _ _) fun _ => .pure _
  | markRecoveryRequired gameId inactiveBefore =>
    exact .bind (h.markRecoveryRequired _ _) fun _ => .pure _
  | markProofRecoveryRequired gameId => exact .bind (h.markProofRecoveryRequired _) fun _ => .pure _

end KeptByStatements

end Pootown.Api
