import Mathlib.Tactic
import Pootown.Api.SeatSteps
import Pootown.Api.Settlement

/-!
# What the calls do to the seating

Every transaction that commits changes the seating in one of the ways of `SeatStep`, or leaves it
alone, and never touches the tables of the rooms.

* `Aside`: statements that move Coin, enter it or keep history leave the seating alone;
* `Reseats`: what a transaction does to the seating;
* `createSession_reseats`, `joinSession_reseats`, …: one lemma a call, for those by which players
  come and leave.
-/

namespace Pootown.Api

open Tables Transactions

variable {digests : Digests} {settings : Settings} {fresh : Fresh} {now : ℤ}
  {s s' : Working} {u : Unit} {userId gameId operationId idempotencyKey : String}

/-! ### Statements that leave the seating alone -/

structure Aside (s s' : Working) : Prop where
  seating : s'.db.seating = s.db.seating
  realtime : s'.db.realtime = s.db.realtime
  deferred : s.deferred ⊆ s'.deferred

instance : Std.Refl Aside := ⟨fun _ => ⟨rfl, rfl, List.Subset.refl _⟩⟩

instance : IsTrans Working Aside :=
  ⟨fun _ _ _ h h' => ⟨h'.seating.trans h.seating, h'.realtime.trans h.realtime,
    List.Subset.trans h.deferred h'.deferred⟩⟩

theorem updateAccount_aside (userId : String) (guard : AccountRow → Prop) [DecidablePred guard]
    (f : AccountRow → AccountRow) : Within Aside (updateAccount userId guard f) := by
  intro s result s' h
  obtain ⟨-, rfl⟩ | ⟨account, -, -, -, -, -, -, rfl⟩ := updateAccount_ok h
  · exact Std.Refl.refl _
  · exact ⟨rfl, rfl, List.Subset.refl _⟩

theorem insertAccountIfAbsent_aside (userId : String) :
    Within Aside (insertAccountIfAbsent userId) := by
  intro s u s' h
  obtain ⟨-, rfl⟩ | ⟨-, -, rfl⟩ := insertAccountIfAbsent_eq_ok.1 h
  · exact Std.Refl.refl _
  · exact ⟨rfl, rfl, List.Subset.refl _⟩

theorem insertLedgerAccountIfAbsent_aside (row : LedgerAccountRow)
    (conflict : LedgerAccountRow → Prop) [DecidablePred conflict] :
    Within Aside (insertLedgerAccountIfAbsent row conflict) := by
  intro s u s' h
  obtain ⟨-, rfl⟩ | ⟨-, -, rfl⟩ := insertLedgerAccountIfAbsent_ok h
  · exact Std.Refl.refl _
  · exact ⟨rfl, rfl, List.Subset.refl _⟩

theorem insertEntry_aside (row : LedgerEntryRow) : Within Aside (insertEntry row) := by
  intro s u s' h
  obtain ⟨-, -, -, -, rfl⟩ := insertEntry_eq_ok.1 h
  exact ⟨rfl, rfl, List.subset_append_left _ _⟩

theorem insertSettlement_aside (row : SettlementRow) : Within Aside (insertSettlement row) := by
  intro s u s' h
  obtain ⟨-, -, -, rfl⟩ := insertSettlement_eq_ok.1 h
  exact ⟨rfl, rfl, List.subset_append_left _ _⟩

theorem modifyReadModel_aside (f : ReadModel → ReadModel) : Within Aside (modifyReadModel f) := by
  intro s u s' h
  rw [modifyReadModel_eq_ok.1 h]
  exact ⟨rfl, rfl, List.Subset.refl _⟩

theorem insertHistory_aside (row : HistoryRow) : Within Aside (insertHistory row) :=
  .bind (within_select _) fun _ => .bind (.check _ _) fun _ => .bind (.check _ _) fun _ =>
    modifyReadModel_aside _

theorem insertHistoryIfAbsent_aside (row : HistoryRow) : Within Aside (insertHistoryIfAbsent row) :=
  .bind (within_select _) fun _ => .ite (.pure _) (insertHistory_aside row)

theorem upsertLeaderboard_aside (row : LeaderboardRow) : Within Aside (upsertLeaderboard row) := by
  refine .bind (within_select _) fun leaderboard => .bind (.check _ _) fun _ => ?_
  cases leaderboard.find? fun other => other.userId = row.userId with
  | none => exact .bind (.check _ _) fun _ => modifyReadModel_aside _
  | some old => exact .bind (.check _ _) fun _ => modifyReadModel_aside _

theorem ledgerAccount_aside (userId : String) (kind : LedgerKind) (message : String) :
    Within Aside (ledgerAccount userId kind message) :=
  .bind (within_select _) fun _ => .bind (.checkSome _ _) fun _ => .pure _

theorem moveCoin_aside (userId : String) (needs : AccountRow → Prop) [DecidablePred needs]
    (available reserved : ℤ) (failure : Failure) :
    Within Aside (moveCoin userId needs available reserved failure) :=
  .bind (updateAccount_aside _ _ _) fun _ => .check _ _

theorem enterMove_aside (operationId userId : String) (available reserved : ℤ) (missing : String) :
    Within Aside (enterMove operationId userId available reserved missing) :=
  .bind (ledgerAccount_aside _ _ _) fun _ => .bind (ledgerAccount_aside _ _ _) fun _ =>
    .bind (insertEntry_aside _) fun _ => insertEntry_aside _

/-! ### Reading -/

/-- The operation under a key. -/
def priorOperation (db : Database) (userId : String) (scope : OperationScope)
    (idempotencyKey : String) : Option OperationRow :=
  db.economy.operations.find? fun row =>
    row.actorUserId = userId ∧ row.scope = scope ∧ row.idempotencyKey = idempotencyKey

theorem priorOperation_eq_some {db : Database} {scope : OperationScope} {prior : OperationRow}
    (h : priorOperation db userId scope idempotencyKey = some prior) :
    prior ∈ db.economy.operations ∧ prior.actorUserId = userId ∧ prior.scope = scope ∧
      prior.idempotencyKey = idempotencyKey :=
  ⟨List.mem_of_find?_eq_some h, by simpa using List.find?_some h⟩

section Reading

variable {β : Type} {r : β × Working}

theorem findOperation_bind {scope : OperationScope} {f : Option OperationRow → ApiTx β} :
    (findOperation userId scope idempotencyKey >>= f) s =
      f (priorOperation s.db userId scope idempotencyKey) s := rfl

theorem lockAccount_bind_eq_ok {f : AccountRow → ApiTx β} :
    (lockAccount userId >>= f) s = .ok r ↔ ∃ account,
      s.db.economy.accounts.find? (fun account => account.userId = userId) = some account ∧
        f account s = .ok r := by
  rw [lockAccount, bind_bind, select_bind, checkSome_bind_eq_ok]

theorem lockSession_bind_eq_ok {f : SessionRow → ApiTx β} :
    (lockSession gameId >>= f) s = .ok r ↔ ∃ session,
      findSession s.db gameId = some session ∧ f session s = .ok r := by
  rw [lockSession, bind_bind, select_bind, checkSome_bind_eq_ok, id_eq]

theorem lockAccounts_bind_eq_ok {userIds : List String} {message : String} {f : Unit → ApiTx β} :
    (lockAccounts userIds message >>= f) s = .ok r ↔
      (∀ userId ∈ userIds, ∃ account ∈ s.db.economy.accounts, account.userId = userId) ∧
        f () s = .ok r := by
  rw [lockAccounts, bind_bind, select_bind, check_bind_eq_ok]

theorem assertReplay_bind_eq_ok {operation : OperationRow} {hash : String}
    {expected : OperationStatus} {f : Unit → ApiTx β} :
    (assertReplay operation hash expected >>= f) s = .ok r ↔
      operation.requestHash = hash ∧ operation.status = expected ∧ f () s = .ok r := by
  rw [assertReplay, bind_bind, check_bind_eq_ok, check_bind_eq_ok]

theorem parseAdmission_bind_eq_ok {snapshot : Option ResponseSnapshot}
    {f : LogicalAdmission → ApiTx β} :
    (parseAdmission snapshot >>= f) s = .ok r ↔
      ∃ logical, snapshot = some (.admission logical) ∧ f logical s = .ok r := by
  rcases snapshot with _ | ⟨_ | logical | _ | _⟩
  case some.admission =>
    show f logical s = .ok r ↔ _
    simp
  all_goals
    show (Except.error Failure.contract : Except Failure (β × Working)) = .ok r ↔ _
    simp

theorem parseOperation_ok {snapshot : Option ResponseSnapshot} {response : OperationResponse}
    (h : parseOperation snapshot s = .ok (response, s')) :
    s' = s ∧ snapshot = some (.operation response.operationId) := by
  rcases snapshot with _ | ⟨_ | _ | _ | _⟩
  case some.operation other =>
    obtain ⟨rfl, rfl⟩ := pure_eq_ok.1 h
    exact ⟨rfl, rfl⟩
  all_goals cases h

theorem findSession_eq_some {db : Database} {session : SessionRow}
    (h : findSession db gameId = some session) :
    session ∈ db.game.sessions ∧ session.id = gameId :=
  find?_key_eq_some h

end Reading

/-! ### Operations -/

/-- A transaction on the seating: it leaves the rooms alone, and changes the seating by a step. -/
def Reseats (digests : Digests) (settings : Settings) (fresh : Fresh) (now : ℤ)
    (s s' : Working) : Prop :=
  s'.db.realtime = s.db.realtime ∧ SeatStep digests settings fresh now s.db.seating s'.db.seating

theorem Reseats.of_rows {rows : List OperationRow} (hrealtime : s'.db.realtime = s.db.realtime)
    (hrows : ∀ row ∈ rows, row.Plain)
    (hs' : s'.db.seating = { s.db.seating with
      operations := s.db.seating.operations ++ rows }) : Reseats digests settings fresh now s s' :=
  ⟨hrealtime, hs' ▸ .entered hrows⟩

theorem SeatStep.refl (t : Seating) : SeatStep digests settings fresh now t t := by
  have hstep : SeatStep digests settings fresh now t { t with operations := t.operations ++ [] } :=
    .entered nofun
  rwa [List.append_nil] at hstep

theorem Reseats.refl : Reseats digests settings fresh now s s := ⟨rfl, .refl _⟩

theorem plain_operation {row : OperationRow} {id : String}
    (h : row.responseSnapshot = some (.operation id)) : row.Plain := by
  constructor <;> intro _ <;> rw [h] <;> simp

theorem plain_rescueGrant {row : OperationRow} {balance : CoinBalance} {id : Option String}
    (h : row.responseSnapshot = some (.rescueGrant balance id)) : row.Plain := by
  constructor <;> intro _ <;> rw [h] <;> simp

/-- To commit the operation that was entered last. -/
theorem commit_entered {operations : List OperationRow} {row : OperationRow}
    {response : ResponseSnapshot} (hrow : row.id = operationId)
    (h : ∀ other ∈ operations, other.id ≠ row.id) :
    updateWhere (fun other => other.id = operationId) (·.commit response) (operations ++ [row]) =
      operations ++ [row.commit response] := by
  have hkeep : operations.map (fun other => if other.id = operationId then other.commit response
      else other) = operations :=
    (List.map_congr_left fun other hother => if_neg (hrow ▸ h other hother)).trans (List.map_id _)
  rw [updateWhere, List.map_append, hkeep, List.map_singleton, if_pos hrow]

theorem commitOperation_seating {operations : List OperationRow} {row : OperationRow}
    {response : ResponseSnapshot} (h : commitOperation operationId response s = .ok (u, s'))
    (hoperations : s.db.economy.operations = operations ++ [row]) (hrow : row.id = operationId)
    (hfresh : ∀ other ∈ operations, other.id ≠ row.id) :
    s'.db.realtime = s.db.realtime ∧ s'.db.seating = { s.db.seating with
      operations := operations ++ [row.commit response] } := by
  obtain ⟨-, rfl⟩ := commitOperation_eq_ok.1 h
  refine ⟨rfl, ?_⟩
  rw [← commit_entered hrow hfresh, ← hoperations]
  rfl

/-! ### Admitting -/

abbrev newReservation (operationId userId : String) (logical : LogicalAdmission) (amount now : ℤ) :
    ReservationRow :=
  ⟨logical.reservationId, operationId, userId, logical.gameId, amount, .reserved, now, none, none⟩

abbrev newSeat (userId : String) (logical : LogicalAdmission) (seatIndex : ℕ) (now : ℤ) :
    PlayerRow :=
  ⟨logical.gameId, logical.playerId, userId, seatIndex, logical.reservationId, true, now⟩

abbrev newIntent (userId : String) (logical : LogicalAdmission) (fresh : Fresh) (now : ℤ) :
    JoinIntentRow :=
  ⟨fresh.joinIntentId, logical.gameId, userId, logical.reservationId, .admitted, now, now⟩

variable {logical : LogicalAdmission} {seatIndex : ℕ} {amount : ℤ}

theorem reserveAndSeat_ok
    (h : reserveAndSeat operationId userId logical seatIndex amount fresh now s = .ok (u, s')) :
    ∃ m, Aside s m ∧ (do
      insertReservation (newReservation operationId userId logical amount now)
      insertPlayer (newSeat userId logical seatIndex now)
      insertJoinIntent (newIntent userId logical fresh now)) m = .ok (u, s') := by
  rw [reserveAndSeat] at h
  rcases ite_eq_ok.1 h with ⟨-, h⟩ | ⟨-, h⟩
  · obtain ⟨_, m, hmove, h⟩ := bind_eq_ok.1 h
    obtain ⟨_, m', henter, h⟩ := bind_eq_ok.1 h
    exact ⟨m', IsTrans.trans _ _ _ (moveCoin_aside _ _ _ _ _ _ _ _ hmove)
      (enterMove_aside _ _ _ _ _ _ _ _ henter), h⟩
  · exact ⟨s, Std.Refl.refl s, h⟩

theorem admissionResponse_ok {token : String} {expiresAt : ℤ} {response : AdmissionResponse}
    (h : admissionResponse logical token expiresAt s = .ok (response, s')) :
    s' = s ∧ response.logical = logical ∧ response.ticket = token := by
  simp only [admissionResponse, select_bind, checkSome_bind_eq_ok, pure_eq_ok] at h
  obtain ⟨session, -, rfl, rfl⟩ := h
  exact ⟨rfl, rfl, rfl⟩

/-- To reserve, seat, and give out the ticket, once the operation is entered. -/
theorem seatNew_ok {response : AdmissionResponse}
    (h : (do
      reserveAndSeat operationId userId logical seatIndex amount fresh now
      issueTicket digests settings userId logical fresh now
      commitOperation operationId (.admission logical)
      admissionResponse logical fresh.ticket (now + settings.ticketTtlMs) : ApiTx _) s =
        .ok (response, s')) :
    s'.db.realtime = s.db.realtime ∧ IsOpen s.db logical.gameId ∧
      Admissible digests fresh s.db.seating (newReservation operationId userId logical amount now)
        (newSeat userId logical seatIndex now) (newIntent userId logical fresh now)
        (newTicket digests settings userId logical fresh now) logical ∧
      s'.db.seating = {
        sessions := s.db.game.sessions
        players := s.db.game.players ++ [newSeat userId logical seatIndex now]
        reservations := s.db.economy.reservations ++
          [newReservation operationId userId logical amount now]
        joinIntents := s.db.game.joinIntents ++ [newIntent userId logical fresh now]
        tickets := s.db.game.tickets ++ [newTicket digests settings userId logical fresh now]
        operations := updateWhere (fun row => row.id = operationId)
          (·.commit (.admission logical)) s.db.economy.operations } := by
  obtain ⟨_, m₄, hreserve, h⟩ := bind_eq_ok.1 h
  obtain ⟨_, m₅, hticket, h⟩ := bind_eq_ok.1 h
  obtain ⟨_, m₆, hcommit, h⟩ := bind_eq_ok.1 h
  obtain ⟨rfl, -, -⟩ := admissionResponse_ok h
  obtain ⟨m, haside, h⟩ := reserveAndSeat_ok hreserve
  obtain ⟨_, m₁, hreservation, h⟩ := bind_eq_ok.1 h
  obtain ⟨_, m₂, hplayer, hintent⟩ := bind_eq_ok.1 h
  obtain ⟨hopen, hid, -, -, -, -, rfl⟩ := insertReservation_eq_ok.1 hreservation
  obtain ⟨-, hseat, huser, hindex, -, -, -, rfl⟩ := insertPlayer_eq_ok.1 hplayer
  obtain ⟨-, -, -, -, -, rfl⟩ := insertJoinIntent_eq_ok.1 hintent
  obtain ⟨htid, htoken, -, -, -, -, rfl⟩ := insertTicket_eq_ok.1 hticket
  obtain ⟨-, rfl⟩ := commitOperation_eq_ok.1 hcommit
  have hseating := haside.seating
  have hgame : m.db.game.sessions = s.db.game.sessions := congrArg Seating.sessions hseating
  have hplayers : m.db.game.players = s.db.game.players := congrArg Seating.players hseating
  have hreservations : m.db.economy.reservations = s.db.economy.reservations :=
    congrArg Seating.reservations hseating
  have htickets : m.db.game.tickets = s.db.game.tickets := congrArg Seating.tickets hseating
  refine ⟨haside.realtime, ?_, ?_, ?_⟩
  · obtain ⟨session, hmem, hsession⟩ := hopen
    exact ⟨session, hgame ▸ hmem, hsession⟩
  · exact {
      reservationId := fun other hother => hid other (hreservations ▸ hother)
      reserved := rfl
      gameId := rfl
      newSeat := fun other hother hgame =>
        ⟨fun h => hseat other (hplayers ▸ hother) ⟨hgame, h⟩,
          fun h => huser other (hplayers ▸ hother) ⟨hgame, h⟩,
          fun h => hindex other (hplayers ▸ hother) ⟨hgame, h⟩⟩
      active := rfl
      seatFor := ⟨rfl, rfl, rfl⟩
      intentFor := ⟨rfl, rfl, rfl⟩
      admitted := rfl
      ticketFor := ⟨rfl, rfl, rfl, rfl⟩
      ticketId := fun other hother => htid other (htickets ▸ hother)
      tokenHash := fun other hother => htoken other (htickets ▸ hother)
      token := rfl
      unused := rfl
      logical := ⟨rfl, rfl⟩ }
  · have hintents : m.db.game.joinIntents = s.db.game.joinIntents :=
      congrArg Seating.joinIntents hseating
    have hoperations : m.db.economy.operations = s.db.economy.operations :=
      congrArg Seating.operations hseating
    rw [← hgame, ← hplayers, ← hreservations, ← hintents, ← htickets, ← hoperations]
    rfl

theorem reissueAdmission_ok {response : AdmissionResponse}
    (h : reissueAdmission digests settings logical fresh now s = .ok (response, s')) :
    s'.db.realtime = s.db.realtime ∧ response.logical = logical ∧
      ∃ r ∈ s.db.economy.reservations, (r.id = logical.reservationId ∧
        r.gameSessionId = logical.gameId ∧ r.status = .reserved) ∧
        ∃ tickets, Reissues digests settings fresh now r.userId logical s.db.seating tickets ∧
          s'.db.seating = { s.db.seating with tickets := tickets } := by
  simp only [reissueAdmission, lockSession_bind_eq_ok, check_bind_eq_ok, select_bind, id_eq,
    checkSome_bind_eq_ok] at h
  obtain ⟨session, -, -, r, hr, h⟩ := h
  have hreservation : r ∈ s.db.economy.reservations ∧ r.id = logical.reservationId ∧
      r.gameSessionId = logical.gameId ∧ r.status = .reserved :=
    ⟨List.mem_of_find?_eq_some hr, by simpa using List.find?_some hr⟩
  cases hfind : s.db.game.tickets.find? fun row =>
      row.reservationId = logical.reservationId ∧ row.consumption = none with
  | some current =>
    simp only [hfind, bind_eq_ok] at h
    obtain ⟨_, m, hupdate, h⟩ := h
    obtain ⟨rfl, hlogical, -⟩ := admissionResponse_ok h
    obtain ⟨hall, -, -, htokens, rfl⟩ := updateTickets_eq_ok.1 hupdate
    obtain ⟨hid, hunused⟩ : current.reservationId = logical.reservationId ∧
        current.consumption = none := by simpa using List.find?_some hfind
    exact ⟨rfl, hlogical, r, hreservation.1, hreservation.2, _,
      .renewed (List.mem_of_find?_eq_some hfind) hid hunused hall htokens, rfl⟩
  | none =>
    simp only [hfind, bind_eq_ok] at h
    obtain ⟨_, m, hissue, h⟩ := h
    obtain ⟨rfl, hlogical, -⟩ := admissionResponse_ok h
    obtain ⟨hid, htoken, hone, -, -, -, rfl⟩ := insertTicket_eq_ok.1 hissue
    exact ⟨rfl, hlogical, r, hreservation.1, hreservation.2, _, .added hid htoken hone, rfl⟩

/-- To repeat an admission. -/
theorem reissueAdmission_reseats {response : AdmissionResponse} (hnames : Names s.db.seating logical)
    (h : reissueAdmission digests settings logical fresh now s = .ok (response, s')) :
    Reseats digests settings fresh now s s' := by
  obtain ⟨hrealtime, -, r, hr, ⟨hid, hgame, hopen⟩, tickets, hreissues, hs'⟩ :=
    reissueAdmission_ok h
  have hstep : SeatStep digests settings fresh now s.db.seating { s.db.seating with
      tickets := tickets, operations := s.db.seating.operations ++ [] } :=
    .reissued hnames ⟨r, hr, hid, rfl, hgame, hopen⟩ hreissues nofun
  rw [List.append_nil] at hstep
  exact ⟨hrealtime, hs' ▸ hstep⟩

/-- To repeat an admission that an operation has recorded. -/
theorem replayAdmission_reseats {prior : OperationRow} {hash : String} {status : OperationStatus}
    {response : AdmissionResponse} (hprior : prior ∈ s.db.economy.operations)
    (h : (do
      assertReplay prior hash status
      let logical ← parseAdmission prior.responseSnapshot
      reissueAdmission digests settings logical fresh now : ApiTx _) s = .ok (response, s')) :
    Reseats digests settings fresh now s s' := by
  simp only [assertReplay_bind_eq_ok, parseAdmission_bind_eq_ok] at h
  obtain ⟨-, -, logical, hsnapshot, h⟩ := h
  exact reissueAdmission_reseats (.inl ⟨prior, hprior, hsnapshot⟩) h

theorem createSession_reseats {gameDefinitionId : String} {response : AdmissionResponse}
    (h : createSession digests settings userId gameDefinitionId idempotencyKey fresh now s =
      .ok (response, s')) : Reseats digests settings fresh now s s' := by
  simp only [createSession, lockAccount_bind_eq_ok, findOperation_bind] at h
  obtain ⟨account, -, h⟩ := h
  cases hprior : priorOperation s.db userId .createSession idempotencyKey with
  | some prior =>
    simp only [hprior] at h
    exact replayAdmission_reseats (priorOperation_eq_some hprior).1 h
  | none =>
    simp only [hprior, select_bind, id_eq, checkSome_bind_eq_ok] at h
    obtain ⟨definition, -, h⟩ := h
    rw [admitPlayer, bind_eq_ok] at h
    obtain ⟨_, m, hoperation, h⟩ := h
    rw [bind_eq_ok] at h
    obtain ⟨_, m', hsession, h⟩ := h
    obtain ⟨hid, -, -, rfl⟩ := insertOperation_eq_ok.1 hoperation
    obtain ⟨hnew, -, -, -, hmaximum, -, -, rfl⟩ := insertSession_eq_ok.1 hsession
    obtain ⟨hrealtime, -, hadmissible, hs'⟩ := seatNew_ok h
    refine ⟨hrealtime, ?_⟩
    rw [hs'.trans (congrArg (Seating.mk _ _ _ _ _) (commit_entered rfl hid))]
    exact .admitted (@Opens.new _ _ (openSession definition userId fresh now) hnew rfl rfl rfl rfl
      hmaximum.1) { hadmissible with } rfl

theorem firstFreeSeat_eq_some {db : Database} {session : SessionRow}
    (h : firstFreeSeat db session = some seatIndex) : seatIndex < session.maximumPlayers :=
  List.mem_range.1 (List.mem_of_find?_eq_some h)

theorem joinSession_reseats {response : AdmissionResponse}
    (h : joinSession digests settings userId gameId idempotencyKey fresh now s =
      .ok (response, s')) : Reseats digests settings fresh now s s' := by
  simp only [joinSession, lockAccount_bind_eq_ok, lockSession_bind_eq_ok, findOperation_bind] at h
  obtain ⟨account, -, session, hsession, h⟩ := h
  cases hprior : priorOperation s.db userId .joinIntent idempotencyKey with
  | some prior =>
    simp only [hprior] at h
    exact replayAdmission_reseats (priorOperation_eq_some hprior).1 h
  | none =>
    simp only [hprior, select_bind, id_eq, check_bind_eq_ok, checkSome_bind_eq_ok] at h
    obtain ⟨hopen, -, seatIndex, hfree, h⟩ := h
    rw [admitPlayer, bind_eq_ok] at h
    obtain ⟨_, m, hoperation, h⟩ := h
    rw [bind_eq_ok] at h
    obtain ⟨_, m', hpure, h⟩ := h
    obtain ⟨-, rfl⟩ := pure_eq_ok.1 hpure
    obtain ⟨hid, -, -, rfl⟩ := insertOperation_eq_ok.1 hoperation
    obtain ⟨hrealtime, -, hadmissible, hs'⟩ := seatNew_ok h
    refine ⟨hrealtime, ?_⟩
    rw [hs'.trans (congrArg (Seating.mk _ _ _ _ _) (commit_entered rfl hid))]
    exact .admitted (.already (findSession_eq_some hsession).1 rfl hopen
      (firstFreeSeat_eq_some hfree)) { hadmissible with } rfl

theorem reconnectTicket_reseats {response : AdmissionResponse}
    (h : reconnectTicket digests settings userId gameId idempotencyKey fresh now s =
      .ok (response, s')) : Reseats digests settings fresh now s s' := by
  simp only [reconnectTicket, lockAccount_bind_eq_ok, lockSession_bind_eq_ok, findOperation_bind,
    check_bind_eq_ok] at h
  obtain ⟨account, -, session, -, -, h⟩ := h
  cases hprior : priorOperation s.db userId .reconnectTicket idempotencyKey with
  | some prior =>
    simp only [hprior] at h
    exact replayAdmission_reseats (priorOperation_eq_some hprior).1 h
  | none =>
    simp only [hprior, select_bind, id_eq, checkSome_bind_eq_ok] at h
    obtain ⟨player, hplayer, h⟩ := h
    simp only [bind_eq_ok] at h
    obtain ⟨_, m, hreissue, _, m', hoperation, h⟩ := h
    obtain ⟨-, rfl⟩ := pure_eq_ok.1 h
    generalize hrow : noOpOperation fresh.operationId userId .reconnectTicket idempotencyKey _ _ =
      row at hoperation
    obtain ⟨-, -, -, rfl⟩ := insertOperation_eq_ok.1 hoperation
    obtain ⟨hrealtime, -, r, hr, ⟨hid, hgame, hopen⟩, tickets, hreissues, hm⟩ :=
      reissueAdmission_ok hreissue
    obtain ⟨hplayerGame, -⟩ : player.gameSessionId = gameId ∧ _ := by
      simpa using List.find?_some hplayer
    have hnames : Names s.db.seating
        ⟨gameId, session.roomId, player.reservationId, player.playerId⟩ :=
      .inr ⟨player, List.mem_of_find?_eq_some hplayer, hplayerGame, rfl, rfl⟩
    have hrows : ∀ other ∈ [row], other.responseSnapshot =
        some (.admission ⟨gameId, session.roomId, player.reservationId, player.playerId⟩) := by
      intro other hother
      rw [List.mem_singleton.1 hother, ← hrow, noOpOperation]
    have hs' : (m.onEconomy fun e => { e with operations := e.operations ++ [row] }).db.seating =
        { m.db.seating with operations := m.db.seating.operations ++ [row] } := rfl
    rw [hm] at hs'
    exact ⟨hrealtime, hs' ▸ .reissued hnames ⟨r, hr, hid, rfl, hgame, hopen⟩ hreissues hrows⟩

/-! ### Leaving -/

theorem closes_updateWhere {status : ReservationStatus} {reservationId : String}
    {rs : List ReservationRow}
    (h : ∀ row ∈ rs, row.id = reservationId → row.status = .reserved ∧ status ≠ .reserved) :
    Closes [reservationId] status operationId now rs
        (updateWhere (fun row => row.id = reservationId) (·.close status operationId now) rs) ∧
      ∀ row ∈ updateWhere (fun row => row.id = reservationId) (·.close status operationId now) rs,
        row.id = reservationId → row.status ≠ .reserved := by
  constructor
  · rw [Closes, updateWhere, List.forall₂_map_right_iff]
    refine List.forall₂_same.2 fun row hrow => ?_
    split_ifs with hid
    · exact .inr ⟨List.mem_singleton.2 hid, (h row hrow hid).1, rfl⟩
    · exact .inl rfl
  · intro row hrow
    obtain ⟨old, hold, rfl⟩ := mem_updateWhere.1 hrow
    split_ifs with hid
    · exact fun _ => (h old hold hid).2
    · exact fun h => absurd h hid

theorem giveBack_ok {missing : String} {reservation : ReservationRow}
    (h : giveBack missing operationId reservation now s = .ok (u, s')) :
    ∃ m, Aside s m ∧
      closeReservation reservation.id .released operationId now m = .ok (u, s') := by
  rw [giveBack] at h
  rcases ite_eq_ok.1 h with ⟨-, h⟩ | ⟨-, h⟩
  · obtain ⟨_, m, hmove, h⟩ := bind_eq_ok.1 h
    obtain ⟨_, m', henter, h⟩ := bind_eq_ok.1 h
    exact ⟨m', IsTrans.trans _ _ _ (moveCoin_aside _ _ _ _ _ _ _ _ hmove)
      (enterMove_aside _ _ _ _ _ _ _ _ henter), h⟩
  · exact ⟨s, Std.Refl.refl s, h⟩

/-- To give one reservation back. -/
theorem giveBack_closes {missing : String} {reservation : ReservationRow}
    (h : giveBack missing operationId reservation now s = .ok (u, s')) :
    s'.db.realtime = s.db.realtime ∧ s.deferred ⊆ s'.deferred ∧ ∃ reservations,
      Closes [reservation.id] .released operationId now s.db.economy.reservations reservations ∧
      (∀ r ∈ reservations, r.id = reservation.id → r.status ≠ .reserved) ∧
      s'.db.seating = { s.db.seating with reservations := reservations } := by
  obtain ⟨m, haside, hclose⟩ := giveBack_ok h
  obtain ⟨hopen, -, -, rfl⟩ := closeReservation_eq_ok.1 hclose
  have hreservations : m.db.economy.reservations = s.db.economy.reservations :=
    congrArg Seating.reservations haside.seating
  obtain ⟨hcloses, hclosed⟩ : Closes [reservation.id] .released operationId now _ _ ∧ _ :=
    closes_updateWhere hopen
  rw [hreservations] at hcloses hclosed
  refine ⟨haside.realtime, haside.deferred, _, hcloses, hclosed, ?_⟩
  rw [← hreservations, ← haside.seating]
  rfl

theorem expireUnusedTickets_ok {p : TicketRow → Prop} [DecidablePred p]
    (h : expireUnusedTickets p now s = .ok (u, s')) :
    s' = s.onGame fun g => { g with tickets := expired now p g.tickets } :=
  (updateTickets_eq_ok.1 h).2.2.2.2

theorem leaveSeat_ok {reservation : ReservationRow}
    (h : leaveSeat operationId reservation now s = .ok (u, s')) :
    s'.db.realtime = s.db.realtime ∧ ∃ reservations,
      Closes [reservation.id] .released operationId now s.db.economy.reservations reservations ∧
      (∀ r ∈ reservations, r.id = reservation.id → r.status ≠ .reserved) ∧
      s'.db.seating = { s.db.seating with
        players := s.db.game.players.filter fun row => ¬ row.reservationId = reservation.id
        reservations := reservations
        joinIntents := intentsMoved now (fun row => row.reservationId = reservation.id)
          (fun _ => .released) s.db.game.joinIntents
        tickets := expired now (fun row => row.reservationId = reservation.id)
          s.db.game.tickets } := by
  rw [leaveSeat, bind_eq_ok] at h
  obtain ⟨_, m, hrelease, h⟩ := h
  rw [bind_eq_ok] at h
  obtain ⟨_, m₁, hintents, h⟩ := h
  rw [bind_eq_ok] at h
  obtain ⟨_, m₂, hplayers, h⟩ := h
  obtain rfl := expireUnusedTickets_ok h
  obtain rfl := deletePlayers_eq_ok.1 hplayers
  obtain ⟨-, -, rfl⟩ := updateJoinIntents_eq_ok.1 hintents
  obtain ⟨hrealtime, -, reservations, hcloses, hclosed, hm⟩ := giveBack_closes hrelease
  have hgame : m.db.game.players = s.db.game.players ∧ m.db.game.joinIntents =
      s.db.game.joinIntents ∧ m.db.game.tickets = s.db.game.tickets :=
    ⟨congrArg Seating.players hm, congrArg Seating.joinIntents hm, congrArg Seating.tickets hm⟩
  refine ⟨hrealtime, reservations, hcloses, hclosed, ?_⟩
  rw [← hgame.1, ← hgame.2.1, ← hgame.2.2]
  exact (congrArg (fun t : Seating => { t with
    players := m.db.game.players.filter fun row => ¬ row.reservationId = reservation.id
    joinIntents := intentsMoved now (fun row => row.reservationId = reservation.id)
      (fun _ => .released) m.db.game.joinIntents
    tickets := expired now (fun row => row.reservationId = reservation.id)
      m.db.game.tickets }) hm :)

section Conditions

variable {β : Type} {r : β × Working} {f : Unit → ApiTx β} {expected : Option RoomBinding}

open Classical in
theorem requireNoRoom_bind_eq_ok {message : String} :
    (requireNoRoom expected gameId message >>= f) s = .ok r ↔
      (expected = none → ¬ HasRealtimeMaterialization s.db gameId) ∧ f () s = .ok r := by
  cases expected with
  | none =>
    rw [requireNoRoom, bind_bind, select_bind, check_bind_eq_ok, id_eq]
    simp
  | some binding =>
    show f () s = .ok r ↔ _
    simp

theorem requireBinding_bind_eq_ok {session : SessionRow} {seat : PlayerRow → Prop}
    [DecidablePred seat] {roomMessage seatMessage : String} :
    (requireBinding expected gameId userId session seat roomMessage seatMessage >>= f) s = .ok r ↔
      (∀ binding ∈ expected, session.roomId = binding.roomId ∧
        BoundSeat s.db gameId userId binding seat) ∧ f () s = .ok r := by
  cases expected with
  | none =>
    show f () s = .ok r ↔ _
    simp
  | some binding =>
    simp only [requireBinding, bind_bind, check_bind_eq_ok, select_bind, id_eq, Option.mem_def,
      Option.some.injEq, forall_eq', and_assoc]

end Conditions

theorem commitWithResponse_ok {response : OperationResponse}
    (h : commitWithResponse operationId s = .ok (response, s')) :
    response = ⟨operationId⟩ ∧ commitOperation operationId (.operation operationId) s =
      .ok ((), s') := by
  rw [commitWithResponse, bind_eq_ok] at h
  obtain ⟨_, m, hcommit, h⟩ := h
  obtain ⟨rfl, rfl⟩ := pure_eq_ok.1 h
  exact ⟨rfl, hcommit⟩

theorem releaseJoinIntentForUser_reseats {hash : String} {expected : Option RoomBinding}
    {response : OperationResponse}
    (h : releaseJoinIntentForUser userId gameId idempotencyKey hash expected fresh now s =
      .ok (response, s')) : Reseats digests settings fresh now s s' := by
  simp only [releaseJoinIntentForUser, lockAccount_bind_eq_ok, lockSession_bind_eq_ok,
    findOperation_bind] at h
  obtain ⟨account, -, session, hsession, h⟩ := h
  cases hprior : priorOperation s.db userId .releaseJoinIntent idempotencyKey with
  | some prior =>
    simp only [hprior, assertReplay_bind_eq_ok] at h
    obtain ⟨-, -, h⟩ := h
    obtain ⟨rfl, -⟩ := parseOperation_ok h
    exact .refl
  | none =>
    simp only [hprior, requireNoRoom_bind_eq_ok, requireBinding_bind_eq_ok, check_bind_eq_ok,
      select_bind, id_eq, checkSome_bind_eq_ok] at h
    obtain ⟨-, hopen, hcreator, -, reservation, hreservation, -, h⟩ := h
    rw [bind_eq_ok] at h
    obtain ⟨_, m, hoperation, h⟩ := h
    rw [bind_eq_ok] at h
    obtain ⟨_, m', hleave, h⟩ := h
    obtain ⟨rfl, hcommit⟩ := commitWithResponse_ok h
    obtain ⟨hid, -, -, rfl⟩ := insertOperation_eq_ok.1 hoperation
    obtain ⟨hrealtime, reservations, hcloses, hclosed, hm⟩ := leaveSeat_ok hleave
    obtain ⟨hrealtime', hs'⟩ := commitOperation_seating hcommit
      (congrArg Seating.operations hm) rfl hid
    obtain ⟨hgame, huser, hstatus⟩ : reservation.gameSessionId = gameId ∧
        reservation.userId = userId ∧ reservation.status = .reserved := by
      simpa using List.find?_some hreservation
    obtain ⟨hmem, hsessionId⟩ := findSession_eq_some hsession
    refine ⟨hrealtime'.trans hrealtime, ?_⟩
    rw [hs', hm]
    refine .left ⟨session, hmem, hsessionId.trans hgame.symm, hopen, huser ▸ hcreator⟩
      (List.mem_of_find?_eq_some hreservation) hstatus hcloses hclosed fun row hrow => ?_
    rw [List.mem_singleton.1 hrow]
    exact plain_operation rfl

/-! ### Cancelling -/

/-- Of the seating, only reservations in `ids` are closed. -/
structure ClosesIn (ids : List String) (status : ReservationStatus) (operationId : String) (now : ℤ)
    (s s' : Working) : Prop where
  realtime : s'.db.realtime = s.db.realtime
  deferred : s.deferred ⊆ s'.deferred
  seating : ∃ reservations,
    Closes ids status operationId now s.db.economy.reservations reservations ∧
      s'.db.seating = { s.db.seating with reservations := reservations }

instance {ids : List String} {status : ReservationStatus} :
    Std.Refl (ClosesIn ids status operationId now) :=
  ⟨fun _ => ⟨rfl, List.Subset.refl _, _, .refl, rfl⟩⟩

theorem ClosesIn.isTrans {ids : List String} {status : ReservationStatus}
    (hstatus : status ≠ .reserved) : IsTrans Working (ClosesIn ids status operationId now) := by
  refine ⟨fun a b c h h' => ⟨h'.realtime.trans h.realtime,
    List.Subset.trans h.deferred h'.deferred, ?_⟩⟩
  obtain ⟨rs, hcloses, hb⟩ := h.seating
  obtain ⟨rs', hcloses', hc⟩ := h'.seating
  have hrs : b.db.economy.reservations = rs := congrArg Seating.reservations hb
  rw [hrs] at hcloses'
  rw [hb] at hc
  exact ⟨rs', hcloses.trans hstatus hcloses', hc⟩

/-- To give back all these reservations. -/
theorem releaseReservations_closes {reservations : List ReservationRow} :
    Within (ClosesIn (reservations.map ReservationRow.id) .released operationId now)
      (reservations.forM fun reservation => releaseReservation operationId reservation now) := by
  have : IsTrans Working
      (ClosesIn (reservations.map ReservationRow.id) .released operationId now) :=
    ClosesIn.isTrans (by decide)
  refine .forM fun reservation hmem s u s' h => ?_
  obtain ⟨hrealtime, hdeferred, rs, hcloses, -, hs'⟩ := giveBack_closes h
  exact ⟨hrealtime, hdeferred, rs,
    hcloses.mono (List.cons_subset.2 ⟨List.mem_map_of_mem hmem, List.nil_subset _⟩), hs'⟩

theorem closeWaitingSession_ok {reservations : List ReservationRow}
    (h : closeWaitingSession operationId gameId reservations now s = .ok (u, s')) :
    s'.db.realtime = s.db.realtime ∧
      .cancelledSessionClosed gameId .cancelled ∈ s'.deferred ∧
      ∃ f rs, MovesTo .cancelled f ∧ Closes (reservations.map ReservationRow.id) .released
        operationId now s.db.economy.reservations rs ∧
      s'.db.seating = { s.db.seating with
        sessions := updateWhere (fun row => row.id = gameId) f s.db.game.sessions
        players := s.db.game.players.filter fun row => ¬ row.gameSessionId = gameId
        reservations := rs
        joinIntents := intentsMoved now
          (fun row => row.gameSessionId = gameId ∧ (row.status = .pending ∨ row.status = .admitted))
          (fun _ => .released) s.db.game.joinIntents
        tickets := expired now (fun row => row.gameSessionId = gameId) s.db.game.tickets } := by
  rw [closeWaitingSession, bind_eq_ok] at h
  obtain ⟨_, m₁, hcancelling, h⟩ := h
  rw [bind_eq_ok] at h
  obtain ⟨_, m₂, hrelease, h⟩ := h
  rw [bind_eq_ok] at h
  obtain ⟨_, m₃, hintents, h⟩ := h
  rw [select_bind, bind_eq_ok] at h
  obtain ⟨_, m₄, hhistory, h⟩ := h
  rw [bind_eq_ok] at h
  obtain ⟨_, m₅, hplayers, h⟩ := h
  rw [bind_eq_ok] at h
  obtain ⟨_, m₆, htickets, hcancelled⟩ := h
  obtain ⟨-, -, rfl⟩ := updateSession_eq_ok.1 hcancelled
  obtain rfl := expireUnusedTickets_ok htickets
  obtain rfl := deletePlayers_eq_ok.1 hplayers
  have haside : Aside m₃ m₄ :=
    Within.forM (fun row _ => insertHistoryIfAbsent_aside _) _ _ _ hhistory
  obtain ⟨-, -, rfl⟩ := updateJoinIntents_eq_ok.1 hintents
  have hcloses := releaseReservations_closes _ _ _ hrelease
  obtain ⟨-, -, rfl⟩ := updateSession_eq_ok.1 hcancelling
  obtain ⟨rs, hrs, hm₂⟩ := hcloses.seating
  refine ⟨haside.realtime.trans hcloses.realtime, ?_,
    fun row => { row with lifecycle := .cancelled, cancelledAt := some now }, rs,
    ⟨fun _ => rfl, fun _ => rfl, fun _ => rfl, fun _ => rfl, fun _ => rfl⟩, hrs, ?_⟩
  · exact List.mem_append_left _ (List.mem_append_right _ (List.mem_singleton_self _))
  · show ({ m₄.db.seating with
      sessions := updateWhere (fun row => row.id = gameId) _ m₄.db.seating.sessions
      players := m₄.db.seating.players.filter fun row => ¬ row.gameSessionId = gameId
      tickets := expired now (fun row => row.gameSessionId = gameId) m₄.db.seating.tickets } :
        Seating) = _
    rw [haside.seating]
    show ({ m₂.db.seating with
      sessions := updateWhere (fun row => row.id = gameId) _ m₂.db.seating.sessions
      players := m₂.db.seating.players.filter fun row => ¬ row.gameSessionId = gameId
      joinIntents := intentsMoved now
        (fun row => row.gameSessionId = gameId ∧ (row.status = .pending ∨ row.status = .admitted))
        (fun _ => .released) m₂.db.seating.joinIntents
      tickets := expired now (fun row => row.gameSessionId = gameId) m₂.db.seating.tickets } :
        Seating) = _
    rw [hm₂]
    exact congrArg (fun sessions => Seating.mk sessions _ _ _ _ _)
      (updateWhere_updateWhere fun _ _ hid => hid)

/-- To enter a cancellation, close the session, and commit. -/
theorem cancel_reseats {actorUserId hash : String} {session : SessionRow}
    {response : OperationResponse} (hsession : findSession s.db gameId = some session)
    (hopen : session.lifecycle = .opened)
    {m m' : Working}
    (hoperation : insertOperation
      (pendingOperation fresh.operationId actorUserId .cancelSession idempotencyKey hash) s =
        .ok ((), m))
    (hclose : closeWaitingSession fresh.operationId gameId (reservedInSession s.db gameId) now m =
      .ok ((), m'))
    (h : commitWithResponse fresh.operationId m' = .ok (response, s'))
    (hdeferred : ∀ d ∈ s'.deferred, d.Holds s'.db) : Reseats digests settings fresh now s s' := by
  obtain ⟨-, hcommit⟩ := commitWithResponse_ok h
  obtain ⟨hid, -, -, rfl⟩ := insertOperation_eq_ok.1 hoperation
  obtain ⟨hrealtime, hmem, f, rs, hf, hcloses, hm⟩ := closeWaitingSession_ok hclose
  obtain ⟨hrealtime', hs'⟩ := commitOperation_seating hcommit
    (congrArg Seating.operations hm) rfl hid
  have htrigger : Deferred.Holds s'.db (.cancelledSessionClosed gameId .cancelled) := by
    obtain ⟨-, rfl⟩ := commitOperation_eq_ok.1 hcommit
    exact hdeferred _ (List.mem_append_left _ hmem)
  have hrs : s'.db.economy.reservations = rs :=
    (congrArg Seating.reservations hs').trans (congrArg Seating.reservations hm)
  have hids : OpenIn s.db.seating gameId
      ((reservedInSession s.db gameId).map ReservationRow.id) := by
    intro id hmem
    obtain ⟨r, hr, rfl⟩ := List.mem_map.1 hmem
    obtain ⟨hr, hfilter⟩ := List.mem_filter.1 (mem_orderBy.1 hr)
    exact ⟨r, hr, rfl, by simpa using hfilter⟩
  obtain ⟨hmemSession, hsessionId⟩ := findSession_eq_some hsession
  refine ⟨hrealtime'.trans hrealtime, ?_⟩
  rw [hs', hm]
  refine .cancelled ⟨session, hmemSession, hsessionId, hopen⟩ hf hids hcloses
    (hrs ▸ (htrigger rfl).1) fun row hrow => ?_
  rw [List.mem_singleton.1 hrow]
  exact plain_operation rfl

theorem cancelSessionForUser_reseats {hash : String} {expected : Option RoomBinding}
    {response : OperationResponse}
    (h : cancelSessionForUser userId gameId idempotencyKey hash expected fresh now s =
      .ok (response, s')) (hdeferred : ∀ d ∈ s'.deferred, d.Holds s'.db) :
    Reseats digests settings fresh now s s' := by
  simp only [cancelSessionForUser, select_bind, id_eq, checkSome_bind_eq_ok, check_bind_eq_ok,
    findOperation_bind] at h
  obtain ⟨creator, -, -, h⟩ := h
  cases hprior : priorOperation s.db userId .cancelSession idempotencyKey with
  | some prior =>
    simp only [hprior, assertReplay_bind_eq_ok] at h
    obtain ⟨-, -, h⟩ := h
    obtain ⟨rfl, -⟩ := parseOperation_ok h
    exact .refl
  | none =>
    simp only [hprior, select_bind, id_eq, lockAccounts_bind_eq_ok, lockSession_bind_eq_ok,
      check_bind_eq_ok, requireNoRoom_bind_eq_ok, requireBinding_bind_eq_ok] at h
    obtain ⟨-, session, hsession, hopen, -, -, h⟩ := h
    rw [bind_eq_ok] at h
    obtain ⟨_, m, hoperation, h⟩ := h
    rw [bind_eq_ok] at h
    obtain ⟨_, m', hclose, h⟩ := h
    exact cancel_reseats hsession hopen hoperation hclose h hdeferred

theorem finalizeRoomCommand_reseats {request : RoomSessionFinalizationRequest}
    {response : OperationResponse}
    (h : finalizeRoomCommand digests gameId request idempotencyKey fresh now s =
      .ok (response, s')) (hdeferred : ∀ d ∈ s'.deferred, d.Holds s'.db) :
    Reseats digests settings fresh now s s' := by
  rw [finalizeRoomCommand, select_bind] at h
  generalize (List.dedup _ : List String) = actors at h
  rcases actors with _ | ⟨userId, _ | _⟩
  case cons.nil =>
    cases haction : request.action with
    | leave =>
      simp only [haction] at h
      exact releaseJoinIntentForUser_reseats h
    | cancel =>
      simp only [haction] at h
      exact cancelSessionForUser_reseats h hdeferred
  all_goals cases h

theorem cancelExpiredWaitingSession_reseats {expiresBefore : ℤ} {cancelled : Bool}
    (h : cancelExpiredWaitingSession digests gameId expiresBefore fresh now s =
      .ok (cancelled, s')) (hdeferred : ∀ d ∈ s'.deferred, d.Holds s'.db) :
    Reseats digests settings fresh now s s' := by
  simp only [cancelExpiredWaitingSession, select_bind, id_eq] at h
  cases hfind : (findSession s.db gameId).filter fun row => row.createdAt ≤ expiresBefore with
  | none =>
    simp only [hfind] at h
    obtain ⟨-, rfl⟩ := pure_eq_ok.1 h
    exact .refl
  | some row =>
    simp only [hfind, findOperation_bind] at h
    cases hprior : priorOperation s.db row.creatorUserId .cancelSession (waitingKey gameId) with
    | some prior =>
      simp only [hprior, assertReplay_bind_eq_ok] at h
      obtain ⟨-, -, h⟩ := h
      obtain ⟨-, rfl⟩ := pure_eq_ok.1 h
      exact .refl
    | none =>
      simp only [hprior, lockAccounts_bind_eq_ok, lockSession_bind_eq_ok] at h
      obtain ⟨-, session, hsession, h⟩ := h
      rcases ite_eq_ok.1 h with ⟨hopen, h⟩ | ⟨-, h⟩
      · rw [bind_eq_ok] at h
        obtain ⟨_, m, hoperation, h⟩ := h
        rw [bind_eq_ok] at h
        obtain ⟨_, m', hclose, h⟩ := h
        rw [bind_eq_ok] at h
        obtain ⟨_, m'', hcommit, h⟩ := h
        obtain ⟨-, rfl⟩ := pure_eq_ok.1 h
        exact cancel_reseats hsession hopen.1 hoperation hclose hcommit hdeferred
      · obtain ⟨-, rfl⟩ := pure_eq_ok.1 h
        exact .refl

/-- An open reservation has a seat, so none is ever released for want of one. -/
theorem releaseExpiredAdmission_eq {reservationId : String} {expiredBefore : ℤ} {released : Bool}
    (hs : Seated s.db.seating)
    (h : releaseExpiredAdmission digests reservationId expiredBefore fresh now s =
      .ok (released, s')) : released = false ∧ s' = s := by
  simp only [releaseExpiredAdmission, select_bind, id_eq] at h
  cases hfind : s.db.economy.reservations.find? fun row => row.id = reservationId with
  | none =>
    simp only [hfind] at h
    obtain ⟨rfl, rfl⟩ := pure_eq_ok.1 h
    exact ⟨rfl, rfl⟩
  | some row =>
    simp only [hfind, lockAccount_bind_eq_ok, lockSession_bind_eq_ok] at h
    obtain ⟨account, -, session, -, h⟩ := h
    rcases ite_eq_ok.1 h with ⟨-, h⟩ | ⟨-, h⟩
    · obtain ⟨rfl, rfl⟩ := pure_eq_ok.1 h
      exact ⟨rfl, rfl⟩
    · rw [findOperation_bind] at h
      cases hprior : priorOperation s.db row.userId .releaseJoinIntent (ticketKey reservationId) with
      | some prior =>
        simp only [hprior, assertReplay_bind_eq_ok] at h
        obtain ⟨-, -, h⟩ := h
        obtain ⟨rfl, rfl⟩ := pure_eq_ok.1 h
        exact ⟨rfl, rfl⟩
      | none =>
        simp only [hprior] at h
        cases hexpired : s.db.economy.reservations.find? fun row =>
            row.id = reservationId ∧ ExpiredAdmission s.db expiredBefore row with
        | none =>
          simp only [hexpired] at h
          obtain ⟨rfl, rfl⟩ := pure_eq_ok.1 h
          exact ⟨rfl, rfl⟩
        | some reservation =>
          have hfound := List.find?_some hexpired
          rw [decide_eq_true_iff] at hfound
          obtain ⟨-, hopen, -, hnone⟩ := hfound
          obtain ⟨seat, hseat, hactive, hid, -⟩ :=
            hs.seat reservation (List.mem_of_find?_eq_some hexpired) hopen
          exact absurd ⟨hid, hactive⟩ (hnone seat hseat)

end Pootown.Api
