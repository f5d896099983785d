import Mathlib.Tactic
import Pootown.Api.AppendOnly

/-!
# Requests that are repeated

A service looks for an operation under the key of a request before it does anything: a request that
has been committed and is repeated gives out another ticket at most.

* `callKey`: the key of a call, with the digest of its request;
* `Records`: a call that commits finds its operation, and leaves all but the tickets alone, or
  records one;
* `keys_take_effect_once`: along every run.
-/

namespace Pootown.Api

open Tables Transactions Runs

/-! ### Keys -/

/-- The key of a request, with the digest of what it asks for. -/
structure CallKey where
  actorUserId : String
  scope : OperationScope
  idempotencyKey : String
  requestHash : String

def CallKey.key (k : CallKey) : String × OperationScope × String :=
  (k.actorUserId, k.scope, k.idempotencyKey)

def CallKey.request (k : CallKey) : String × OperationScope × String × String :=
  (k.actorUserId, k.scope, k.idempotencyKey, k.requestHash)

/-- Those for whom tickets of the seat that a room names have been issued. -/
def finalizationActors (db : Database) (gameId : String)
    (request : RoomSessionFinalizationRequest) : List String :=
  ((db.game.tickets.filter fun row => row.gameSessionId = gameId ∧ row.roomId = request.roomId ∧
    row.playerId = request.playerId ∧ row.reservationId = request.reservationId).map
      TicketRow.userId).dedup

def finalizationScope : Server.FinalizationAction → OperationScope
  | .leave => .releaseJoinIntent
  | .cancel => .cancelSession

/-- The key of a request about a session that counts for its creator. -/
def creatorKey (db : Database) (gameId : String) (scope : OperationScope)
    (idempotencyKey requestHash : String) : Option CallKey :=
  (findSession db gameId).map fun session =>
    ⟨session.creatorUserId, scope, idempotencyKey, requestHash⟩

/-- The key that the reconciler cancels a waiting session under, where it would cancel it or has. -/
def waitingExpiryKey (digests : Digests) (db : Database) (gameId : String) (expiresBefore : ℤ) :
    Option CallKey :=
  ((findSession db gameId).filter fun session => session.createdAt ≤ expiresBefore ∧
    (session.lifecycle = .opened ∨ (priorOperation db session.creatorUserId .cancelSession
      (waitingKey gameId)).isSome = true)).map fun session =>
    ⟨session.creatorUserId, .cancelSession, waitingKey gameId,
      digests.requestHash (.waitingExpired gameId)⟩

/-- The key that the reconciler releases an admission under, where it would release it or has. -/
def ticketExpiryKey (digests : Digests) (db : Database) (reservationId : String)
    (expiredBefore : ℤ) : Option CallKey :=
  ((db.economy.reservations.find? fun row => row.id = reservationId).filter fun row =>
    (findSession db row.gameSessionId).map SessionRow.lifecycle = some .opened ∧
    (ExpiredAdmission db expiredBefore row ∨ (priorOperation db row.userId .releaseJoinIntent
      (ticketKey reservationId)).isSome = true)).map fun row =>
    ⟨row.userId, .releaseJoinIntent, ticketKey reservationId,
      digests.requestHash (.ticketExpired reservationId)⟩

/-- The key that a call takes effect under. The initial grant is left out, whose one key is not
compared with a request; calls that only read, or mark a session for recovery, have no key. -/
def callKey (digests : Digests) (db : Database) : ApiCall → Option CallKey
  | .rescue userId key => some ⟨userId, .rescueGrant, key, digests.requestHash .rescueGrant⟩
  | .createSession userId definitionId key =>
    some ⟨userId, .createSession, key, digests.requestHash (.createSession definitionId)⟩
  | .joinSession userId gameId key =>
    some ⟨userId, .joinIntent, key, digests.requestHash (.session gameId)⟩
  | .reconnectTicket userId gameId key =>
    some ⟨userId, .reconnectTicket, key, digests.requestHash (.session gameId)⟩
  | .releaseJoinIntent userId gameId key =>
    some ⟨userId, .releaseJoinIntent, key, digests.requestHash (.session gameId)⟩
  | .cancelSession userId gameId key =>
    some ⟨userId, .cancelSession, key, digests.requestHash (.session gameId)⟩
  | .finalizeRoomCommand gameId request key =>
    match finalizationActors db gameId request with
    | [userId] => some ⟨userId, finalizationScope request.action, key,
        digests.requestHash (.finalization gameId request)⟩
    | _ => none
  | .cancelExpiredWaitingSession gameId expiresBefore =>
    waitingExpiryKey digests db gameId expiresBefore
  | .releaseExpiredAdmission reservationId expiredBefore =>
    ticketExpiryKey digests db reservationId expiredBefore
  | .consumeTicket request key =>
    (db.game.tickets.find? fun row => row.tokenHash = digests.tokenHash request.ticket).map
      fun ticket => ⟨ticket.userId, .consumeTicket, key, digests.requestHash (.consumeTicket request)⟩
  | .markStarted gameId roomId stateVersion key =>
    creatorKey db gameId .markStarted key
      (digests.requestHash (.markStarted gameId roomId stateVersion))
  | .settle gameId request key =>
    creatorKey db gameId .settleSession key (digests.requestHash (.settlement gameId request))
  | .abort gameId reason key =>
    creatorKey db gameId .abortSession key (digests.requestHash (.abort gameId reason))
  | _ => none

/-- Only tickets differ. -/
def TicketsOnly (db db' : Database) : Prop :=
  db' = { db with game := { db.game with tickets := db'.game.tickets } }

/-- What a call does under its key: it finds its operation, or records one. -/
inductive Records (key : CallKey) (s s' : Working) : Prop
  | again {prior : OperationRow} :
      priorOperation s.db key.actorUserId key.scope key.idempotencyKey = some prior →
      prior.requestHash = key.requestHash → TicketsOnly s.db s'.db → Records key s s'
  | first :
      priorOperation s.db key.actorUserId key.scope key.idempotencyKey = none →
      key.request ∈ s'.db.economy.operations.map OperationRow.request → Records key s s'

variable {digests : Digests} {settings : Settings} {userId gameId idempotencyKey hash : String}
  {fresh : Fresh} {now : ℤ} {s s' : Working} {β : Type} {b : β}

theorem mem_request_iff {db : Database} {key : CallKey} :
    key.request ∈ db.economy.operations.map OperationRow.request ↔
      ∃ row ∈ db.economy.operations, row.key = key.key ∧ row.requestHash = key.requestHash := by
  simp only [List.mem_map, OperationRow.request, CallKey.request, OperationRow.key, CallKey.key,
    Prod.mk.injEq, and_assoc]

/-- Where keys are not used twice, the operation under a key is the one that is found. -/
theorem priorOperation_of_mem {db : Database} {row : OperationRow} {key : CallKey}
    (hnodup : (db.economy.operations.map OperationRow.key).Nodup)
    (hmem : row ∈ db.economy.operations) (hkey : row.key = key.key) :
    priorOperation db key.actorUserId key.scope key.idempotencyKey = some row := by
  have hfind := find?_of_nodup hnodup hmem
  rw [hkey] at hfind
  rw [← hfind, priorOperation]
  simp only [OperationRow.key, CallKey.key, Prod.mk.injEq]

/-- The first row with a property is the first of those with it and another that it has. -/
theorem find?_and {α : Type} {rows : List α} {row : α} {p q : α → Prop} [DecidablePred p]
    [DecidablePred q] (h : rows.find? (fun row => p row) = some row) (hq : q row) :
    rows.find? (fun row => p row ∧ q row) = some row := by
  induction rows with
  | nil => cases h
  | cons other rest ih =>
    by_cases hp : p other
    · obtain rfl : other = row := by simpa [hp] using h
      simp [hp, hq]
    · simp only [List.find?_cons, hp, decide_false, false_and] at h ⊢
      exact ih h

/-! ### Parts of the calls -/

theorem reissueAdmission_tickets {logical : LogicalAdmission} {response : AdmissionResponse}
    (h : reissueAdmission digests settings logical fresh now s = .ok (response, s')) :
    TicketsOnly s.db s'.db := by
  simp only [reissueAdmission, lockSession_bind_eq_ok, check_bind_eq_ok, select_bind, id_eq,
    checkSome_bind_eq_ok] at h
  obtain ⟨session, -, -, r, -, h⟩ := h
  cases hfind : s.db.game.tickets.find? fun row =>
      row.reservationId = logical.reservationId ∧ row.consumption = none with
  | some current =>
    simp only [hfind, bind_eq_ok] at h
    obtain ⟨_, m, hupdate, h⟩ := h
    obtain ⟨rfl, -⟩ := admissionResponse_ok h
    obtain ⟨-, -, -, -, rfl⟩ := updateTickets_eq_ok.1 hupdate
    rfl
  | none =>
    simp only [hfind, bind_eq_ok] at h
    obtain ⟨_, m, hissue, h⟩ := h
    obtain ⟨rfl, -⟩ := admissionResponse_ok h
    obtain ⟨-, -, -, -, -, -, rfl⟩ := insertTicket_eq_ok.1 hissue
    rfl

/-- An operation that is inserted keeps its request through the rest of the transaction. -/
theorem request_of_insert {row : OperationRow} {rest : Unit → ApiTx β}
    (hrest : ∀ u, Within Grows (rest u)) (h : (insertOperation row >>= rest) s = .ok (b, s')) :
    row.request ∈ s'.db.economy.operations.map OperationRow.request := by
  rw [bind_eq_ok] at h
  obtain ⟨u, m, hinsert, h⟩ := h
  obtain ⟨-, -, -, rfl⟩ := insertOperation_eq_ok.1 hinsert
  refine (hrest u _ _ _ h).requests.subset (List.mem_map_of_mem ?_)
  exact List.mem_append_right _ (List.mem_singleton_self row)

theorem replayAdmission_records {key : CallKey} {prior : OperationRow} {status : OperationStatus}
    {response : AdmissionResponse}
    (hprior : priorOperation s.db key.actorUserId key.scope key.idempotencyKey = some prior)
    (h : (do
      assertReplay prior key.requestHash status
      let logical ← parseAdmission prior.responseSnapshot
      reissueAdmission digests settings logical fresh now : ApiTx _) s = .ok (response, s')) :
    Records key s s' := by
  simp only [assertReplay_bind_eq_ok, parseAdmission_bind_eq_ok] at h
  obtain ⟨hhash, -, logical, -, h⟩ := h
  exact .again hprior hhash (reissueAdmission_tickets h)

/-! ### Calls -/

theorem rescue_records {response : ResponseSnapshot}
    (h : rescue digests settings userId idempotencyKey fresh now s = .ok (response, s')) :
    Records ⟨userId, .rescueGrant, idempotencyKey, digests.requestHash .rescueGrant⟩ s s' := by
  simp only [rescue, lockAccountRow_bind_eq_ok, findOperation_bind] at h
  obtain ⟨account, -, h⟩ := h
  cases hprior : priorOperation s.db userId .rescueGrant idempotencyKey with
  | some prior =>
    simp only [hprior, check_bind_eq_ok, checkSome_eq_ok] at h
    obtain ⟨hhash, -, -, rfl⟩ := h
    exact .again hprior hhash rfl
  | none =>
    simp only [hprior] at h
    rcases ite_eq_ok.1 h with ⟨-, h⟩ | ⟨-, h⟩
    · refine .first hprior (request_of_insert (fun _ => ?_) h)
      exact .bind (grows_statements.applyGrant _ _) fun _ =>
        .bind (commitOperation_grows _ _) fun _ => .pure _
    · exact .first hprior (request_of_insert (fun _ => .pure _) h)

theorem createSession_records {gameDefinitionId : String} {response : AdmissionResponse}
    (h : createSession digests settings userId gameDefinitionId idempotencyKey fresh now s =
      .ok (response, s')) :
    Records ⟨userId, .createSession, idempotencyKey,
      digests.requestHash (.createSession gameDefinitionId)⟩ s s' := by
  simp only [createSession, lockAccount_bind_eq_ok, findOperation_bind] at h
  obtain ⟨account, -, h⟩ := h
  cases hprior : priorOperation s.db userId .createSession idempotencyKey with
  | some prior =>
    simp only [hprior] at h
    exact replayAdmission_records hprior h
  | none =>
    simp only [hprior, select_bind, id_eq, checkSome_bind_eq_ok, admitPlayer] at h
    obtain ⟨definition, -, h⟩ := h
    refine .first hprior (request_of_insert (fun _ => ?_) h)
    exact .bind (grows_statements.insertSession _ rfl) fun _ =>
      .bind (grows_statements.reserveAndSeat _ _ _) fun _ =>
      .bind (grows_statements.issueTicket _) fun _ => .bind (commitOperation_grows _ _) fun _ =>
      KeptByStatements.admissionResponse _ _ _

theorem joinSession_records {response : AdmissionResponse}
    (h : joinSession digests settings userId gameId idempotencyKey fresh now s =
      .ok (response, s')) :
    Records ⟨userId, .joinIntent, idempotencyKey, digests.requestHash (.session gameId)⟩ s s' := by
  simp only [joinSession, lockAccount_bind_eq_ok, lockSession_bind_eq_ok, findOperation_bind] at h
  obtain ⟨account, -, session, -, h⟩ := h
  cases hprior : priorOperation s.db userId .joinIntent idempotencyKey with
  | some prior =>
    simp only [hprior] at h
    exact replayAdmission_records hprior h
  | none =>
    simp only [hprior, select_bind, id_eq, check_bind_eq_ok, checkSome_bind_eq_ok,
      admitPlayer] at h
    obtain ⟨-, -, seatIndex, -, h⟩ := h
    refine .first hprior (request_of_insert (fun _ => ?_) h)
    exact .bind (.pure _) fun _ => .bind (grows_statements.reserveAndSeat _ _ _) fun _ =>
      .bind (grows_statements.issueTicket _) fun _ => .bind (commitOperation_grows _ _) fun _ =>
      KeptByStatements.admissionResponse _ _ _

theorem reconnectTicket_records {response : AdmissionResponse}
    (h : reconnectTicket digests settings userId gameId idempotencyKey fresh now s =
      .ok (response, s')) :
    Records ⟨userId, .reconnectTicket, idempotencyKey,
      digests.requestHash (.session gameId)⟩ s s' := by
  simp only [reconnectTicket, lockAccount_bind_eq_ok, lockSession_bind_eq_ok, findOperation_bind,
    check_bind_eq_ok] at h
  obtain ⟨account, -, session, -, -, h⟩ := h
  cases hprior : priorOperation s.db userId .reconnectTicket idempotencyKey with
  | some prior =>
    simp only [hprior] at h
    exact replayAdmission_records hprior h
  | none =>
    simp only [hprior, select_bind, id_eq, checkSome_bind_eq_ok] at h
    obtain ⟨player, -, h⟩ := h
    rw [bind_eq_ok] at h
    obtain ⟨_, m, -, h⟩ := h
    exact .first hprior (request_of_insert (fun _ => .pure _) h)

theorem releaseJoinIntentForUser_records {expected : Option RoomBinding}
    {response : OperationResponse}
    (h : releaseJoinIntentForUser userId gameId idempotencyKey hash expected fresh now s =
      .ok (response, s')) :
    Records ⟨userId, .releaseJoinIntent, idempotencyKey, hash⟩ s s' := by
  simp only [releaseJoinIntentForUser, lockAccount_bind_eq_ok, lockSession_bind_eq_ok,
    findOperation_bind] at h
  obtain ⟨account, -, session, -, h⟩ := h
  cases hprior : priorOperation s.db userId .releaseJoinIntent idempotencyKey with
  | some prior =>
    simp only [hprior, assertReplay_bind_eq_ok] at h
    obtain ⟨hhash, -, h⟩ := h
    obtain ⟨rfl, -⟩ := parseOperation_ok h
    exact .again hprior hhash rfl
  | none =>
    simp only [hprior, requireNoRoom_bind_eq_ok, requireBinding_bind_eq_ok, check_bind_eq_ok,
      select_bind, id_eq, checkSome_bind_eq_ok] at h
    obtain ⟨-, -, -, -, reservation, -, -, h⟩ := h
    exact .first hprior (request_of_insert (fun _ => .bind (grows_statements.leaveSeat _) fun _ =>
      grows_statements.commitWithResponse) h)

theorem cancelSessionForUser_records {expected : Option RoomBinding} {response : OperationResponse}
    (h : cancelSessionForUser userId gameId idempotencyKey hash expected fresh now s =
      .ok (response, s')) :
    Records ⟨userId, .cancelSession, idempotencyKey, hash⟩ s s' := by
  simp only [cancelSessionForUser, select_bind, id_eq, checkSome_bind_eq_ok, check_bind_eq_ok,
    findOperation_bind] at h
  obtain ⟨creator, -, -, h⟩ := h
  cases hprior : priorOperation s.db userId .cancelSession idempotencyKey with
  | some prior =>
    simp only [hprior, assertReplay_bind_eq_ok] at h
    obtain ⟨hhash, -, h⟩ := h
    obtain ⟨rfl, -⟩ := parseOperation_ok h
    exact .again hprior hhash rfl
  | none =>
    simp only [hprior, select_bind, id_eq, lockAccounts_bind_eq_ok, lockSession_bind_eq_ok,
      check_bind_eq_ok, requireNoRoom_bind_eq_ok, requireBinding_bind_eq_ok] at h
    obtain ⟨-, session, -, -, -, -, h⟩ := h
    exact .first hprior (request_of_insert (fun _ =>
      .bind (grows_statements.closeWaitingSession _ _) fun _ =>
        grows_statements.commitWithResponse) h)

theorem finalizeRoomCommand_records {request : RoomSessionFinalizationRequest}
    {response : OperationResponse} {key : CallKey}
    (hkey : callKey digests s.db (.finalizeRoomCommand gameId request idempotencyKey) = some key)
    (h : finalizeRoomCommand digests gameId request idempotencyKey fresh now s =
      .ok (response, s')) : Records key s s' := by
  rw [finalizeRoomCommand, select_bind] at h
  rw [callKey, finalizationActors] at hkey
  generalize (List.dedup _ : List String) = actors at h hkey
  rcases actors with _ | ⟨userId, _ | _⟩
  case cons.nil =>
    obtain rfl := Option.some.inj hkey
    cases haction : request.action with
    | leave =>
      simp only [haction] at h
      exact releaseJoinIntentForUser_records h
    | cancel =>
      simp only [haction] at h
      exact cancelSessionForUser_records h
  all_goals cases hkey

theorem cancelExpiredWaitingSession_records {expiresBefore : ℤ} {answer : Bool} {key : CallKey}
    (hkey : callKey digests s.db (.cancelExpiredWaitingSession gameId expiresBefore) = some key)
    (h : cancelExpiredWaitingSession digests gameId expiresBefore fresh now s = .ok (answer, s')) :
    Records key s s' := by
  obtain ⟨row, hrow, rfl⟩ := Option.map_eq_some_iff.1 hkey
  obtain ⟨hsession, hcreated, hlive⟩ : findSession s.db gameId = some row ∧
      row.createdAt ≤ expiresBefore ∧ (row.lifecycle = .opened ∨ (priorOperation s.db
        row.creatorUserId .cancelSession (waitingKey gameId)).isSome = true) := by
    simpa [Option.filter_eq_some_iff] using hrow
  have hfound : (findSession s.db gameId).filter (fun row => row.createdAt ≤ expiresBefore) =
      some row := by
    rw [hsession, Option.filter_some, if_pos (decide_eq_true hcreated)]
  simp only [cancelExpiredWaitingSession, select_bind, id_eq, hfound, findOperation_bind] at h
  cases hprior : priorOperation s.db row.creatorUserId .cancelSession (waitingKey gameId) with
  | some prior =>
    simp only [hprior, assertReplay_bind_eq_ok] at h
    obtain ⟨hhash, -, h⟩ := h
    obtain ⟨-, rfl⟩ := pure_eq_ok.1 h
    exact .again hprior hhash rfl
  | none =>
    have hopened : row.lifecycle = .opened := by simpa [hprior] using hlive
    simp only [hprior, lockAccounts_bind_eq_ok, lockSession_bind_eq_ok, hsession,
      Option.some.injEq] at h
    obtain ⟨-, _, rfl, h⟩ := h
    rw [if_pos ⟨hopened, hcreated⟩] at h
    exact .first hprior (request_of_insert (fun _ =>
      .bind (grows_statements.closeWaitingSession _ _) fun _ =>
        .bind grows_statements.commitWithResponse fun _ => .pure _) h)

theorem releaseExpiredAdmission_records {reservationId : String} {expiredBefore : ℤ} {answer : Bool}
    {key : CallKey}
    (hkey : callKey digests s.db (.releaseExpiredAdmission reservationId expiredBefore) = some key)
    (h : releaseExpiredAdmission digests reservationId expiredBefore fresh now s = .ok (answer, s')) :
    Records key s s' := by
  obtain ⟨row, hrow, rfl⟩ := Option.map_eq_some_iff.1 hkey
  obtain ⟨hreservation, hguard⟩ := Option.filter_eq_some_iff.1 hrow
  obtain ⟨hopened, hlive⟩ := of_decide_eq_true hguard
  obtain ⟨session, hsession, hopened⟩ := Option.map_eq_some_iff.1 hopened
  simp only [releaseExpiredAdmission, select_bind, id_eq, hreservation, lockAccount_bind_eq_ok,
    lockSession_bind_eq_ok, hsession, Option.some.injEq] at h
  obtain ⟨-, -, _, rfl, h⟩ := h
  rw [if_neg (not_not.2 hopened)] at h
  simp only [findOperation_bind] at h
  cases hprior : priorOperation s.db row.userId .releaseJoinIntent (ticketKey reservationId) with
  | some prior =>
    simp only [hprior, assertReplay_bind_eq_ok] at h
    obtain ⟨hhash, -, h⟩ := h
    obtain ⟨-, rfl⟩ := pure_eq_ok.1 h
    exact .again hprior hhash rfl
  | none =>
    have hexpired : ExpiredAdmission s.db expiredBefore row := by simpa [hprior] using hlive
    have hfound : s.db.economy.reservations.find? (fun row =>
        row.id = reservationId ∧ ExpiredAdmission s.db expiredBefore row) = some row :=
      find?_and hreservation hexpired
    simp only [hprior, hfound] at h
    exact .first hprior (request_of_insert (fun _ => .bind (grows_statements.giveBack _ _)
      fun _ => .bind (grows_statements.updateJoinIntents _ _ _) fun _ =>
      .bind (grows_statements.updateTickets _ _) fun _ =>
      .bind grows_statements.commitWithResponse fun _ => .pure _) h)

theorem consumeTicket_records {request : TicketConsumeRequest} {response : TicketConsumeResponse}
    {key : CallKey}
    (hkey : callKey digests s.db (.consumeTicket request idempotencyKey) = some key)
    (hcall : consumeTicket digests request idempotencyKey fresh now s = .ok (response, s')) :
    Records key s s' := by
  obtain ⟨session, ticket, hfind, -, -, -, hhash, h⟩ := consumeTicket_uses hcall
  obtain rfl : (⟨_, _, _, _⟩ : CallKey) = key := by simpa [callKey, hfind] using hkey
  unfold useTicket at h
  cases hprior : priorOperation s.db ticket.userId .consumeTicket idempotencyKey with
  | some prior =>
    rw [hprior] at h hhash
    cases hconsumption : ticket.consumption with
    | none =>
      simp only [hconsumption, check_bind_eq_ok] at h
      obtain ⟨-, hnone, -⟩ := h
      cases hnone
    | some consumption =>
      simp only [hconsumption, reuseTicket, check_bind_eq_ok] at h
      obtain ⟨-, h⟩ := h
      rw [bind_eq_ok] at h
      obtain ⟨seatIndex, m, hbound, h⟩ := h
      obtain ⟨rfl, -⟩ := requireBoundSeat_ok hbound
      obtain ⟨rfl, -⟩ := parseTicket_ok h
      exact .again hprior (hhash prior rfl) rfl
  | none =>
    rw [hprior] at h
    cases hconsumption : ticket.consumption with
    | none =>
      simp only [hconsumption, check_bind_eq_ok, consumeUnusedTicket] at h
      obtain ⟨-, -, h⟩ := h
      rw [bind_eq_ok] at h
      obtain ⟨seatIndex, m, -, h⟩ := h
      rw [bind_eq_ok] at h
      obtain ⟨_, m', -, h⟩ := h
      exact .first hprior (request_of_insert (fun _ => .pure _) h)
    | some consumption =>
      simp only [hconsumption, reuseTicket, check_bind_eq_ok] at h
      obtain ⟨-, h⟩ := h
      rw [bind_eq_ok] at h
      obtain ⟨seatIndex, m, -, h⟩ := h
      exact .first hprior (request_of_insert (fun _ => .pure _) h)

theorem markStarted_records {roomId : String} {stateVersion : ℤ} {response : OperationResponse}
    {key : CallKey}
    (hkey : callKey digests s.db (.markStarted gameId roomId stateVersion idempotencyKey) =
      some key)
    (h : markStarted digests gameId roomId stateVersion idempotencyKey fresh now s =
      .ok (response, s')) : Records key s s' := by
  simp only [markStarted, lockSession_bind_eq_ok, findOperation_bind] at h
  obtain ⟨session, hsession, h⟩ := h
  obtain rfl : (⟨_, _, _, _⟩ : CallKey) = key := by simpa [callKey, creatorKey, hsession] using hkey
  cases hprior : priorOperation s.db session.creatorUserId .markStarted idempotencyKey with
  | some prior =>
    simp only [hprior, assertNoOpReplay, bind_bind, check_bind_eq_ok] at h
    obtain ⟨hhash, -, h⟩ := h
    obtain ⟨rfl, -⟩ := parseOperation_ok h
    exact .again hprior hhash rfl
  | none =>
    simp only [hprior, check_bind_eq_ok, select_bind, id_eq] at h
    obtain ⟨-, -, -, -, h⟩ := h
    rw [bind_eq_ok] at h
    obtain ⟨_, m, -, h⟩ := h
    exact .first hprior (request_of_insert (fun _ => .pure _) h)

theorem settle_records {request : SettlementRequest} {response : OperationResponse} {key : CallKey}
    (hkey : callKey digests s.db (.settle gameId request idempotencyKey) = some key)
    (h : settle digests gameId request idempotencyKey fresh now s = .ok (response, s')) :
    Records key s s' := by
  simp only [settle, select_bind, id_eq, lockAccounts_bind_eq_ok, lockSession_bind_eq_ok,
    findOperation_bind] at h
  obtain ⟨-, session, hsession, h⟩ := h
  obtain rfl : (⟨_, _, _, _⟩ : CallKey) = key := by simpa [callKey, creatorKey, hsession] using hkey
  cases hprior : priorOperation s.db session.creatorUserId .settleSession idempotencyKey with
  | some prior =>
    simp only [hprior] at h
    obtain ⟨rfl, hhash, -⟩ := replay_ok h
    exact .again hprior hhash rfl
  | none =>
    simp only [hprior, requireNoSettlement, bind_bind, select_bind, check_bind_eq_ok, id_eq,
      checkSome_bind_eq_ok, complete, assertPayoutFits] at h
    obtain ⟨-, -, -, proof, -, -, winner, -, -, -, h⟩ := h
    refine .first hprior (request_of_insert (fun _ => ?_) h)
    refine .bind (.forM fun p _ => grows_statements.captureReservation p.reservation) fun _ =>
      .ite (.bind (grows_statements.creditWinner _) fun _ => ?_) ?_ <;>
    exact grows_statements.recordOutcome ⟨_, gameId, _, _⟩
      (fun _ _ => writeCompletedHistory_grows _ _ _ _ _) fun _ => ⟨rfl, rfl⟩

theorem abort_records {reason : AbortReason} {response : OperationResponse} {key : CallKey}
    (hkey : callKey digests s.db (.abort gameId reason idempotencyKey) = some key)
    (h : abort digests gameId reason idempotencyKey fresh now s = .ok (response, s')) :
    Records key s s' := by
  simp only [abort, select_bind, id_eq, lockAccounts_bind_eq_ok, lockSession_bind_eq_ok,
    findOperation_bind] at h
  obtain ⟨-, session, hsession, h⟩ := h
  obtain rfl : (⟨_, _, _, _⟩ : CallKey) = key := by simpa [callKey, creatorKey, hsession] using hkey
  cases hprior : priorOperation s.db session.creatorUserId .abortSession idempotencyKey with
  | some prior =>
    simp only [hprior] at h
    obtain ⟨rfl, hhash, -⟩ := replay_ok h
    exact .again hprior hhash rfl
  | none =>
    simp only [hprior, requireNoSettlement, bind_bind, select_bind, check_bind_eq_ok, payBack] at h
    obtain ⟨-, -, h⟩ := h
    refine .first hprior (request_of_insert (fun _ => ?_) h)
    exact .bind (.forM fun p _ => grows_statements.giveBack _ p.reservation) fun _ =>
      grows_statements.recordOutcome ⟨_, gameId, _, _⟩
        (fun _ _ => grows_statements.insertHistory _ (.inr rfl)) fun _ => ⟨rfl, rfl⟩

/-- A call that returns has found its operation, or has recorded one. -/
theorem runCall_records {call : ApiCall} {key : CallKey}
    (hkey : callKey digests s.db call = some key)
    (h : runCall digests settings fresh now call s = .ok ((), s')) : Records key s s' := by
  have hdone : ∀ {α : Type} {tx : ApiTx α}, (do let _ ← tx) s = .ok ((), s') →
      ∃ a, tx s = .ok (a, s') := by
    intro α tx h
    rw [bind_eq_ok] at h
    obtain ⟨a, m, htx, h⟩ := h
    obtain ⟨-, rfl⟩ := pure_eq_ok.1 h
    exact ⟨a, htx⟩
  cases call with
  | rescue userId idempotencyKey =>
    obtain ⟨_, h⟩ := hdone h
    exact Option.some.inj hkey ▸ rescue_records h
  | createSession userId definitionId idempotencyKey =>
    obtain ⟨_, h⟩ := hdone h
    exact Option.some.inj hkey ▸ createSession_records h
  | joinSession userId gameId idempotencyKey =>
    obtain ⟨_, h⟩ := hdone h
    exact Option.some.inj hkey ▸ joinSession_records h
  | reconnectTicket userId gameId idempotencyKey =>
    obtain ⟨_, h⟩ := hdone h
    exact Option.some.inj hkey ▸ reconnectTicket_records h
  | releaseJoinIntent userId gameId idempotencyKey =>
    obtain ⟨_, h⟩ := hdone h
    exact Option.some.inj hkey ▸ releaseJoinIntentForUser_records h
  | cancelSession userId gameId idempotencyKey =>
    obtain ⟨_, h⟩ := hdone h
    exact Option.some.inj hkey ▸ cancelSessionForUser_records h
  | finalizeRoomCommand gameId request idempotencyKey =>
    obtain ⟨_, h⟩ := hdone h
    exact finalizeRoomCommand_records hkey h
  | cancelExpiredWaitingSession gameId expiresBefore =>
    obtain ⟨_, h⟩ := hdone h
    exact cancelExpiredWaitingSession_records hkey h
  | releaseExpiredAdmission reservationId expiredBefore =>
    obtain ⟨_, h⟩ := hdone h
    exact releaseExpiredAdmission_records hkey h
  | consumeTicket request idempotencyKey =>
    obtain ⟨_, h⟩ := hdone h
    exact consumeTicket_records hkey h
  | markStarted gameId roomId stateVersion idempotencyKey =>
    obtain ⟨_, h⟩ := hdone h
    exact markStarted_records hkey h
  | settle gameId request idempotencyKey =>
    obtain ⟨_, h⟩ := hdone h
    exact settle_records hkey h
  | abort gameId reason idempotencyKey =>
    obtain ⟨_, h⟩ := hdone h
    exact abort_records hkey h
  | registerUser | provisionPrincipal | bootstrap | markRecoveryRequired
  | markProofRecoveryRequired => cases hkey

/-! ### Runs -/

/-- The operation that a committed call has found or recorded is there from then on. -/
theorem Records.mem {key : CallKey} {db : Database} (h : Records key s s')
    (hgrows : Grows s' ⟨db, []⟩) :
    key.request ∈ db.economy.operations.map OperationRow.request := by
  refine hgrows.requests.subset ?_
  cases h with
  | again hprior hhash htickets =>
    obtain ⟨hmem, hactor, hscope, hkey⟩ := priorOperation_eq_some hprior
    have heconomy : s'.db.economy = s.db.economy := by rw [htickets]
    rw [heconomy, mem_request_iff]
    exact ⟨_, hmem, by rw [OperationRow.key, hactor, hscope, hkey, CallKey.key], hhash⟩
  | first _ hmem => exact hmem

/-- A request that has been committed takes effect once, whatever happens before it is repeated:
under its key nothing else commits, and the same request changes nothing but tickets. -/
theorem keys_take_effect_once (digests : Digests) (settings : Settings) (codec : Server.Codec)
    {labels labels' : List SystemLabel} {start db db₁ db₂ db₃ : Database} {call call' : ApiCall}
    {fresh fresh' : Fresh} {now now' : ℤ} {key key' : CallKey} (hinitial : Initial start)
    (hbefore : Run (SystemStep digests settings codec) start labels db)
    (hcommit : withTransaction (runCall digests settings fresh now call) db = .ok ((), db₁))
    (hkey : callKey digests db call = some key)
    (hbetween : Run (SystemStep digests settings codec) db₁ labels' db₂)
    (hagain : withTransaction (runCall digests settings fresh' now' call') db₂ = .ok ((), db₃))
    (hkey' : callKey digests db₂ call' = some key') (hsame : key'.key = key.key) :
    key'.requestHash = key.requestHash ∧ TicketsOnly db₂ db₃ := by
  have hgrows := grows_of_run hbetween
  have hnodup : (db₂.economy.operations.map OperationRow.key).Nodup := by
    have hstep : SystemStep digests settings codec db _ db₁ := .committed hcommit
    refine hgrows.keys (hstep.grows.keys ((grows_of_run hbefore).keys ?_))
    rw [hinitial.economy]
    exact List.nodup_nil
  obtain ⟨m, hcall, -, rfl⟩ := withTransaction_eq_ok.1 hcommit
  obtain ⟨m', hcall', -, rfl⟩ := withTransaction_eq_ok.1 hagain
  obtain ⟨row, hmem, hrow, hhash⟩ :=
    mem_request_iff.1 ((runCall_records hkey hcall).mem { hgrows with })
  have hfind := priorOperation_of_mem hnodup hmem (hrow.trans hsame.symm)
  cases runCall_records (s := ⟨db₂, []⟩) hkey' hcall' with
  | again hprior hhash' htickets =>
    obtain rfl := Option.some.inj (hfind.symm.trans hprior)
    exact ⟨hhash'.symm.trans hhash, htickets⟩
  | first hnone => cases hfind.symm.trans hnone

/-- Alice has registered. -/
noncomputable def aliceAlone : Database :=
  afterCalls [(.registerUser "alice", "alice", 1000)] emptyDatabase

/-- Alice opens a session under the key `open`. -/
noncomputable def aliceOpens (name : String) (now : ℤ) (db : Database) : Database :=
  afterCalls [(.createSession "alice" "duel" "open", name, now)] db

/-- The second time alice gets another ticket. -/
theorem keys_take_effect_once_alice :
    TicketsOnly (aliceOpens "first" 1001 aliceAlone)
      (aliceOpens "again" 1002 (aliceOpens "first" 1001 aliceAlone)) := by
  have hcommit : withTransaction (runCall plainDigests shortSettings (freshNamed "first") 1001
      (.createSession "alice" "duel" "open")) aliceAlone =
      .ok ((), aliceOpens "first" 1001 aliceAlone) := rfl
  have hagain : withTransaction (runCall plainDigests shortSettings (freshNamed "again") 1002
      (.createSession "alice" "duel" "open")) (aliceOpens "first" 1001 aliceAlone) =
      .ok ((), aliceOpens "again" 1002 (aliceOpens "first" 1001 aliceAlone)) := rfl
  exact (keys_take_effect_once plainDigests shortSettings plainCodec emptyDatabase_initial
    (run_afterCalls plainCodec [(.registerUser "alice", "alice", 1000)] emptyDatabase) hcommit rfl
    (.nil _) hagain rfl rfl).2

end Pootown.Api
