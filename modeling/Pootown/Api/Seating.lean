import Mathlib.Tactic
import Pootown.Api.InternalSessions
import Pootown.Api.StatementRules

/-!
# Seating

The tables that say who is admitted to which session, and how they change: a player is admitted
with a reservation, a seat, an intent and a ticket, may be given another ticket, uses a ticket,
leaves, or is let go when the session is cancelled or has an outcome.

* `Seating`, `Database.seating`: these tables of the database;
* `SeatStep`: the changes, with what each asks for;
* `Seated`: seats, open reservations and admitted intents belong together, session by session;
* what the parts of a change keep: closing reservations, adding operations, rewriting tickets.
-/

namespace Pootown.Api

open Tables

/-! ### The tables -/

structure Seating where
  sessions : List SessionRow
  players : List PlayerRow
  reservations : List ReservationRow
  joinIntents : List JoinIntentRow
  tickets : List TicketRow
  operations : List OperationRow

def Database.seating (db : Database) : Seating :=
  ⟨db.game.sessions, db.game.players, db.economy.reservations, db.game.joinIntents,
    db.game.tickets, db.economy.operations⟩

/-- An operation that answers with neither an admission nor a ticket. -/
def OperationRow.Plain (row : OperationRow) : Prop :=
  (∀ logical, row.responseSnapshot ≠ some (.admission logical)) ∧
    ∀ response, row.responseSnapshot ≠ some (.ticket response)

/-- `f` moves a session to `lifecycle`, and leaves alone what its seats depend on. -/
structure MovesTo (lifecycle : SessionLifecycle) (f : SessionRow → SessionRow) : Prop where
  id : ∀ row, (f row).id = row.id
  roomId : ∀ row, (f row).roomId = row.roomId
  creatorUserId : ∀ row, (f row).creatorUserId = row.creatorUserId
  maximumPlayers : ∀ row, (f row).maximumPlayers = row.maximumPlayers
  lifecycle : ∀ row, (f row).lifecycle = lifecycle

/-- `r'` is `r`, or what becomes of `r` when it is closed with those in `ids`. -/
def ClosedAs (ids : List String) (status : ReservationStatus) (operationId : String) (now : ℤ)
    (r r' : ReservationRow) : Prop :=
  r' = r ∨ (r.id ∈ ids ∧ r.status = .reserved ∧ r' = r.close status operationId now)

/-- The reservations after those in `ids` have been closed. -/
def Closes (ids : List String) (status : ReservationStatus) (operationId : String) (now : ℤ)
    (rs rs' : List ReservationRow) : Prop :=
  rs.Forall₂ (ClosedAs ids status operationId now) rs'

/-- The reservations in `ids` are open, and all in the session. -/
def OpenIn (s : Seating) (gameId : String) (ids : List String) : Prop :=
  ∀ id ∈ ids, ∃ r ∈ s.reservations, r.id = id ∧ r.gameSessionId = gameId ∧ r.status = .reserved

def SessionIs (s : Seating) (gameId : String) (p : SessionRow → Prop) : Prop :=
  ∃ session ∈ s.sessions, session.id = gameId ∧ p session

/-- The seat that an admission names: as its operation has recorded it, or as it stands. -/
def Names (s : Seating) (logical : LogicalAdmission) : Prop :=
  (∃ operation ∈ s.operations, operation.responseSnapshot = some (.admission logical)) ∨
    ∃ player ∈ s.players, player.gameSessionId = logical.gameId ∧
      player.playerId = logical.playerId ∧ player.reservationId = logical.reservationId

/-! ### Changes -/

section Steps

variable (digests : Digests) (settings : Settings) (fresh : Fresh) (now : ℤ)

/-- One more ticket for a reservation, or its unused ticket renewed. -/
inductive Reissues (userId : String) (logical : LogicalAdmission) (s : Seating) :
    List TicketRow → Prop
  | renewed {current : TicketRow} :
      current ∈ s.tickets → current.reservationId = logical.reservationId →
      current.consumption = none →
      (∀ row ∈ s.tickets, row.id = current.id → row.consumption = none) →
      ((updateWhere (fun row => row.id = current.id) (fun row => { row with
        tokenHash := digests.tokenHash fresh.ticket
        expiresAt := now + settings.ticketTtlMs }) s.tickets).map TicketRow.tokenHash).Nodup →
      Reissues userId logical s (updateWhere (fun row => row.id = current.id) (fun row => { row with
        tokenHash := digests.tokenHash fresh.ticket
        expiresAt := now + settings.ticketTtlMs }) s.tickets)
  | added :
      (∀ other ∈ s.tickets, other.id ≠ fresh.ticketId) →
      (∀ other ∈ s.tickets, other.tokenHash ≠ digests.tokenHash fresh.ticket) →
      (∀ other ∈ s.tickets,
        ¬ (other.consumption = none ∧ other.reservationId = logical.reservationId)) →
      Reissues userId logical s (s.tickets ++ [newTicket digests settings userId logical fresh now])

/-- The ticket is that of an open reservation, and was not used before. -/
structure Usable (request : TicketConsumeRequest) (ticket : TicketRow) (s : Seating) : Prop where
  mem : ticket ∈ s.tickets
  tokenHash : ticket.tokenHash = digests.tokenHash request.ticket
  gameId : ticket.gameSessionId = request.gameId
  roomId : ticket.roomId = request.roomId
  reserved : ∃ r ∈ s.reservations, r.id = ticket.reservationId ∧ r.userId = ticket.userId ∧
    r.gameSessionId = ticket.gameSessionId ∧ r.status = .reserved

/-- The seat that a ticket admits to. -/
def SeatOf (s : Seating) (ticket : TicketRow) (seat : PlayerRow) : Prop :=
  seat ∈ s.players ∧ seat.active = true ∧ seat.gameSessionId = ticket.gameSessionId ∧
    seat.userId = ticket.userId ∧ seat.playerId = ticket.playerId ∧
    seat.reservationId = ticket.reservationId

/-- The operation that records the use of a ticket. -/
def useOperation (request : TicketConsumeRequest) (idempotencyKey : String) (ticket : TicketRow)
    (seatIndex : ℕ) (reused : Bool) : OperationRow :=
  noOpOperation fresh.operationId ticket.userId .consumeTicket idempotencyKey
    (digests.requestHash (.consumeTicket request)) (.ticket (ticketResponse ticket seatIndex reused))

/-- The unused ticket with this hash is used. -/
def used (consumption : TicketConsumption) (tokenHash : String) (tickets : List TicketRow) :
    List TicketRow :=
  updateWhere (fun row => row.tokenHash = tokenHash ∧ row.consumption = none)
    (fun row => { row with consumption := some consumption }) tickets

/-- Expire those tickets that satisfy `p` and are unused. -/
def expired (p : TicketRow → Prop) [DecidablePred p] (tickets : List TicketRow) : List TicketRow :=
  updateWhere (fun row => p row ∧ row.consumption = none)
    (fun row => { row with expiresAt := max (row.createdAt + 1) now }) tickets

/-- Move on the intents that satisfy `p`. -/
def intentsMoved (p : JoinIntentRow → Prop) [DecidablePred p]
    (status : JoinIntentStatus → JoinIntentStatus) (intents : List JoinIntentRow) :
    List JoinIntentRow :=
  updateWhere p (fun row => { row with status := status row.status, updatedAt := now }) intents

/-- The sessions when a player is admitted: as they were, or with a session that is opened. -/
inductive Opens (s : Seating) (seat : PlayerRow) : List SessionRow → Prop
  | already {session : SessionRow} :
      session ∈ s.sessions → session.id = seat.gameSessionId → session.lifecycle = .opened →
      seat.seatIndex < session.maximumPlayers → Opens s seat s.sessions
  | new {session : SessionRow} :
      (∀ other ∈ s.sessions, other.id ≠ session.id) → session.id = seat.gameSessionId →
      session.lifecycle = .opened → session.creatorUserId = seat.userId →
      seat.seatIndex = 0 → 2 ≤ session.maximumPlayers → Opens s seat (s.sessions ++ [session])

/-- What the tables ask of a player who is admitted. -/
structure Admissible (s : Seating) (reservation : ReservationRow) (seat : PlayerRow)
    (intent : JoinIntentRow) (ticket : TicketRow) (logical : LogicalAdmission) : Prop where
  reservationId : ∀ other ∈ s.reservations, other.id ≠ reservation.id
  reserved : reservation.status = .reserved
  gameId : reservation.gameSessionId = logical.gameId
  newSeat : ∀ other ∈ s.players, other.gameSessionId = seat.gameSessionId →
    other.playerId ≠ seat.playerId ∧ other.userId ≠ seat.userId ∧ other.seatIndex ≠ seat.seatIndex
  active : seat.active = true
  seatFor : seat.reservationId = reservation.id ∧ seat.userId = reservation.userId ∧
    seat.gameSessionId = reservation.gameSessionId
  intentFor : intent.reservationId = reservation.id ∧ intent.userId = reservation.userId ∧
    intent.gameSessionId = reservation.gameSessionId
  admitted : intent.status = .admitted
  ticketFor : ticket.reservationId = reservation.id ∧ ticket.userId = reservation.userId ∧
    ticket.gameSessionId = reservation.gameSessionId ∧ ticket.playerId = seat.playerId
  ticketId : ∀ other ∈ s.tickets, other.id ≠ ticket.id
  tokenHash : ∀ other ∈ s.tickets, other.tokenHash ≠ ticket.tokenHash
  token : ticket.tokenHash = digests.tokenHash fresh.ticket
  unused : ticket.consumption = none
  logical : logical.reservationId = reservation.id ∧ logical.playerId = seat.playerId

inductive SeatStep : Seating → Seating → Prop
  /-- An operation that admits nobody. -/
  | entered {s : Seating} {rows : List OperationRow} :
      (∀ row ∈ rows, row.Plain) → SeatStep s { s with operations := s.operations ++ rows }
  /-- A session starts, or waits for its room to recover. -/
  | moved {s : Seating} {gameId : String} {lifecycle : SessionLifecycle}
      {f : SessionRow → SessionRow} {rows : List OperationRow} :
      lifecycle = .active ∨ lifecycle = .recoveryRequired → MovesTo lifecycle f →
      (∀ row ∈ s.sessions, row.id = gameId → row.lifecycle ≠ lifecycle →
        lifecycleTransition row.lifecycle lifecycle = true) →
      (∀ row ∈ rows, row.Plain) →
      SeatStep s { s with
        sessions := updateWhere (fun row => row.id = gameId) f s.sessions
        operations := s.operations ++ rows }
  | admitted {s : Seating} {sessions : List SessionRow} {reservation : ReservationRow}
      {seat : PlayerRow} {intent : JoinIntentRow} {ticket : TicketRow} {operation : OperationRow}
      {logical : LogicalAdmission} :
      Opens s seat sessions → Admissible digests fresh s reservation seat intent ticket logical →
      operation.responseSnapshot = some (.admission logical) →
      SeatStep s {
        sessions := sessions
        players := s.players ++ [seat]
        reservations := s.reservations ++ [reservation]
        joinIntents := s.joinIntents ++ [intent]
        tickets := s.tickets ++ [ticket]
        operations := s.operations ++ [operation] }
  | reissued {s : Seating} {userId : String} {logical : LogicalAdmission}
      {tickets : List TicketRow} {rows : List OperationRow} :
      Names s logical →
      (∃ r ∈ s.reservations, r.id = logical.reservationId ∧ r.userId = userId ∧
        r.gameSessionId = logical.gameId ∧ r.status = .reserved) →
      Reissues digests settings fresh now userId logical s tickets →
      (∀ row ∈ rows, row.responseSnapshot = some (.admission logical)) →
      SeatStep s { s with tickets := tickets, operations := s.operations ++ rows }
  /-- A ticket is used for the first time. -/
  | used {s : Seating} {request : TicketConsumeRequest} {idempotencyKey : String}
      {ticket : TicketRow} {seat : PlayerRow} {usedAt : ℤ} :
      Usable digests request ticket s → ticket.consumption = none → SeatOf s ticket seat →
      SeatStep s { s with
        tickets := used ⟨usedAt, request.roomInstanceId⟩ ticket.tokenHash s.tickets
        operations := s.operations ++
          [useOperation digests fresh request idempotencyKey ticket seat.seatIndex false] }
  /-- A ticket is used again. -/
  | reused {s : Seating} {request : TicketConsumeRequest} {idempotencyKey : String}
      {ticket : TicketRow} {seat : PlayerRow} :
      Usable digests request ticket s → ticket.consumption ≠ none → SeatOf s ticket seat →
      SeatStep s { s with operations := s.operations ++
        [useOperation digests fresh request idempotencyKey ticket seat.seatIndex true] }
  | left {s : Seating} {reservation : ReservationRow} {reservations : List ReservationRow}
      {operationId : String} {rows : List OperationRow} :
      SessionIs s reservation.gameSessionId
        (fun session => session.lifecycle = .opened ∧ session.creatorUserId ≠ reservation.userId) →
      reservation ∈ s.reservations → reservation.status = .reserved →
      Closes [reservation.id] .released operationId now s.reservations reservations →
      (∀ r ∈ reservations, r.id = reservation.id → r.status ≠ .reserved) →
      (∀ row ∈ rows, row.Plain) →
      SeatStep s { s with
        players := s.players.filter fun row => ¬ row.reservationId = reservation.id
        reservations := reservations
        joinIntents := intentsMoved now (fun row => row.reservationId = reservation.id)
          (fun _ => .released) s.joinIntents
        tickets := expired now (fun row => row.reservationId = reservation.id) s.tickets
        operations := s.operations ++ rows }
  | cancelled {s : Seating} {gameId : String} {f : SessionRow → SessionRow} {ids : List String}
      {reservations : List ReservationRow} {operationId : String} {rows : List OperationRow} :
      SessionIs s gameId (·.lifecycle = .opened) → MovesTo .cancelled f → OpenIn s gameId ids →
      Closes ids .released operationId now s.reservations reservations →
      (∀ r ∈ reservations, r.gameSessionId = gameId → r.status ≠ .reserved) →
      (∀ row ∈ rows, row.Plain) →
      SeatStep s {
        sessions := updateWhere (fun row => row.id = gameId) f s.sessions
        players := s.players.filter fun row => ¬ row.gameSessionId = gameId
        reservations := reservations
        joinIntents := intentsMoved now
          (fun row => row.gameSessionId = gameId ∧ (row.status = .pending ∨ row.status = .admitted))
          (fun _ => .released) s.joinIntents
        tickets := expired now (fun row => row.gameSessionId = gameId) s.tickets
        operations := s.operations ++ rows }
  /-- A session is settled or aborted. -/
  | finished {s : Seating} {gameId : String} {f : SessionRow → SessionRow} {ids : List String}
      {status : ReservationStatus} {reservations : List ReservationRow} {operationId : String}
      {rows : List OperationRow} :
      SessionIs s gameId (fun session => session.lifecycle = .active ∨
        session.lifecycle = .settling ∨ session.lifecycle = .recoveryRequired) →
      MovesTo .settled f → OpenIn s gameId ids → status ≠ .reserved →
      Closes ids status operationId now s.reservations reservations →
      (∀ r ∈ reservations, r.gameSessionId = gameId → r.status ≠ .reserved) →
      (∀ row ∈ rows, row.Plain) →
      SeatStep s { s with
        sessions := updateWhere (fun row => row.id = gameId) f s.sessions
        reservations := reservations
        operations := s.operations ++ rows }

end Steps

/-! ### What belongs together -/

/-- No two rows of a session share `key`. -/
def DistinctIn {κ : Type} (key : PlayerRow → κ) (players : List PlayerRow) : Prop :=
  players.Pairwise fun a b => a.gameSessionId = b.gameSessionId → key a ≠ key b

structure Keys (s : Seating) : Prop where
  sessions : (s.sessions.map SessionRow.id).Nodup
  reservations : (s.reservations.map ReservationRow.id).Nodup
  seats : (s.players.map PlayerRow.reservationId).Nodup
  intents : (s.joinIntents.map JoinIntentRow.reservationId).Nodup
  tickets : (s.tickets.map TicketRow.id).Nodup
  tokens : (s.tickets.map TicketRow.tokenHash).Nodup
  users : DistinctIn PlayerRow.userId s.players
  seatIndexes : DistinctIn PlayerRow.seatIndex s.players

/-- A reservation is open, or its session is settled. -/
def Held (s : Seating) (r : ReservationRow) : Prop :=
  r.status = .reserved ∨ SessionIs s r.gameSessionId (·.lifecycle = .settled)

def SeatFor (r : ReservationRow) (seat : PlayerRow) : Prop :=
  seat.reservationId = r.id ∧ seat.userId = r.userId ∧ seat.gameSessionId = r.gameSessionId

def IntentFor (r : ReservationRow) (intent : JoinIntentRow) : Prop :=
  intent.reservationId = r.id ∧ intent.userId = r.userId ∧ intent.gameSessionId = r.gameSessionId

def TicketFor (r : ReservationRow) (ticket : TicketRow) : Prop :=
  ticket.reservationId = r.id ∧ ticket.userId = r.userId ∧ ticket.gameSessionId = r.gameSessionId

structure Seated (s : Seating) : Prop where
  keys : Keys s
  /-- Sessions are at rest between the transactions. -/
  lifecycle : ∀ session ∈ s.sessions,
    session.lifecycle ≠ .cancelling ∧ session.lifecycle ≠ .settling
  seat : ∀ r ∈ s.reservations, r.status = .reserved →
    ∃ seat ∈ s.players, seat.active = true ∧ SeatFor r seat
  intent : ∀ r ∈ s.reservations, r.status = .reserved →
    ∃ intent ∈ s.joinIntents, intent.status = .admitted ∧ IntentFor r intent
  ofSeat : ∀ seat ∈ s.players, seat.active = true ∧ ∃ r ∈ s.reservations, SeatFor r seat ∧ Held s r
  ofIntent : ∀ intent ∈ s.joinIntents, intent.status ≠ .pending ∧
    ∃ r ∈ s.reservations, IntentFor r intent ∧ (intent.status = .admitted → Held s r)
  ofTicket : ∀ ticket ∈ s.tickets, ∃ r ∈ s.reservations, TicketFor r ticket
  ofReservation : ∀ r ∈ s.reservations, SessionIs s r.gameSessionId fun _ => True
  capacity : ∀ seat ∈ s.players,
    SessionIs s seat.gameSessionId (seat.seatIndex < ·.maximumPlayers)
  creator : ∀ session ∈ s.sessions, session.lifecycle ≠ .cancelled → ∃ seat ∈ s.players,
    seat.gameSessionId = session.id ∧ seat.userId = session.creatorUserId ∧ seat.seatIndex = 0
  closed : ∀ session ∈ s.sessions, session.lifecycle = .cancelled ∨ session.lifecycle = .settled →
    ∀ r ∈ s.reservations, r.gameSessionId = session.id → r.status ≠ .reserved
  ticketSeat : ∀ ticket ∈ s.tickets, ∀ seat ∈ s.players,
    seat.reservationId = ticket.reservationId → seat.playerId = ticket.playerId
  oneUnused : ∀ ticket ∈ s.tickets, ∀ other ∈ s.tickets, ticket.consumption = none →
    other.consumption = none → other.reservationId = ticket.reservationId → other = ticket
  named : ∀ operation ∈ s.operations, ∀ logical,
    operation.responseSnapshot = some (.admission logical) →
    (∃ r ∈ s.reservations, r.id = logical.reservationId ∧ r.gameSessionId = logical.gameId) ∧
      ∀ seat ∈ s.players, seat.reservationId = logical.reservationId →
        seat.playerId = logical.playerId

section Kept

variable {s : Seating} {gameId : String} {rows : List OperationRow}

/-! ### Sessions and reservations -/

theorem SessionIs.mono {p q : SessionRow → Prop} (h : SessionIs s gameId p)
    (hpq : ∀ session, p session → q session) : SessionIs s gameId q := by
  obtain ⟨session, hmem, hid, hp⟩ := h
  exact ⟨session, hmem, hid, hpq session hp⟩

/-- What holds of a session holds of the one that is found. -/
theorem SessionIs.of_mem {p : SessionRow → Prop} (hs : Seated s) (h : SessionIs s gameId p)
    {session : SessionRow} (hmem : session ∈ s.sessions) (hid : session.id = gameId) :
    p session := by
  obtain ⟨other, hother, hotherId, hp⟩ := h
  rwa [eq_of_key_eq hs.keys.sessions hother hmem (hid.trans hotherId.symm)]

section Closing

variable {ids : List String} {status : ReservationStatus} {operationId : String} {now : ℤ}
  {rs rs' : List ReservationRow} {r r' : ReservationRow}

theorem ClosedAs.same (h : ClosedAs ids status operationId now r r') :
    r'.id = r.id ∧ r'.userId = r.userId ∧ r'.gameSessionId = r.gameSessionId := by
  obtain rfl | ⟨-, -, rfl⟩ := h
  · exact ⟨rfl, rfl, rfl⟩
  · exact ⟨rfl, rfl, rfl⟩

theorem ClosedAs.eq_of_reserved (hstatus : status ≠ .reserved)
    (h : ClosedAs ids status operationId now r r') (hr' : r'.status = .reserved) : r' = r := by
  obtain rfl | ⟨-, -, rfl⟩ := h
  · rfl
  · exact absurd hr' hstatus

theorem ClosedAs.eq_of_notMem (h : ClosedAs ids status operationId now r r') (hr : r.id ∉ ids) :
    r' = r :=
  h.resolve_right fun h => hr h.1

theorem Closes.mono {ids' : List String} (hids : ids ⊆ ids')
    (h : Closes ids status operationId now rs rs') : Closes ids' status operationId now rs rs' :=
  h.imp fun _ _ hclosed => hclosed.imp_right fun ⟨hid, hopen⟩ => ⟨hids hid, hopen⟩

theorem Closes.refl : Closes ids status operationId now rs rs :=
  List.forall₂_same.2 fun _ _ => .inl rfl

theorem Closes.trans (hstatus : status ≠ .reserved) {rs'' : List ReservationRow}
    (h : Closes ids status operationId now rs rs') (h' : Closes ids status operationId now rs' rs'') :
    Closes ids status operationId now rs rs'' := by
  induction h generalizing rs'' with
  | nil => exact h'
  | cons hfirst _ ih =>
    cases h' with
    | cons hthen hrest =>
      refine .cons ?_ (ih hrest)
      obtain rfl | ⟨hid, hopen, rfl⟩ := hfirst
      · exact hthen
      · obtain rfl | ⟨-, hreserved, -⟩ := hthen
        · exact .inr ⟨hid, hopen, rfl⟩
        · exact absurd hreserved hstatus

theorem Closes.map_id (h : Closes ids status operationId now rs rs') :
    rs'.map ReservationRow.id = rs.map ReservationRow.id := by
  induction h with
  | nil => rfl
  | cons hfirst _ ih => rw [List.map_cons, List.map_cons, hfirst.same.1, ih]

theorem Closes.before (h : Closes ids status operationId now rs rs') (hr' : r' ∈ rs') :
    ∃ r ∈ rs, ClosedAs ids status operationId now r r' := by
  induction h with
  | nil => cases hr'
  | cons hfirst _ ih =>
    rcases List.mem_cons.1 hr' with rfl | hr'
    · exact ⟨_, List.mem_cons_self .., hfirst⟩
    · obtain ⟨r, hr, hclosed⟩ := ih hr'
      exact ⟨r, List.mem_cons_of_mem _ hr, hclosed⟩

theorem Closes.after (h : Closes ids status operationId now rs rs') (hr : r ∈ rs) :
    ∃ r' ∈ rs', ClosedAs ids status operationId now r r' := by
  induction h with
  | nil => cases hr
  | cons hfirst _ ih =>
    rcases List.mem_cons.1 hr with rfl | hr
    · exact ⟨_, List.mem_cons_self .., hfirst⟩
    · obtain ⟨r', hr', hclosed⟩ := ih hr
      exact ⟨r', List.mem_cons_of_mem _ hr', hclosed⟩

/-- An open reservation was open before. -/
theorem Closes.of_reserved (hstatus : status ≠ .reserved)
    (h : Closes ids status operationId now rs rs') (hr' : r' ∈ rs') (hopen : r'.status = .reserved) :
    r' ∈ rs := by
  obtain ⟨r, hr, hclosed⟩ := h.before hr'
  rwa [hclosed.eq_of_reserved hstatus hopen]

/-- A reservation that is not among those closed stays. -/
theorem Closes.mem_of_notMem (h : Closes ids status operationId now rs rs') (hr : r ∈ rs)
    (hid : r.id ∉ ids) : r ∈ rs' := by
  obtain ⟨r', hr', hclosed⟩ := h.after hr
  rwa [← hclosed.eq_of_notMem hid]

theorem SeatFor.closed {seat : PlayerRow} (h : SeatFor r seat)
    (hclosed : ClosedAs ids status operationId now r r') : SeatFor r' seat := by
  obtain ⟨hid, huser, hgame⟩ := hclosed.same
  exact ⟨h.1.trans hid.symm, h.2.1.trans huser.symm, h.2.2.trans hgame.symm⟩

theorem IntentFor.closed {intent : JoinIntentRow} (h : IntentFor r intent)
    (hclosed : ClosedAs ids status operationId now r r') : IntentFor r' intent := by
  obtain ⟨hid, huser, hgame⟩ := hclosed.same
  exact ⟨h.1.trans hid.symm, h.2.1.trans huser.symm, h.2.2.trans hgame.symm⟩

theorem TicketFor.closed {ticket : TicketRow} (h : TicketFor r ticket)
    (hclosed : ClosedAs ids status operationId now r r') : TicketFor r' ticket := by
  obtain ⟨hid, huser, hgame⟩ := hclosed.same
  exact ⟨h.1.trans hid.symm, h.2.1.trans huser.symm, h.2.2.trans hgame.symm⟩

/-- The reservations to be closed are those of the session. -/
theorem OpenIn.session_eq (hs : Seated s) (h : OpenIn s gameId ids) (hr : r ∈ s.reservations)
    (hid : r.id ∈ ids) : r.gameSessionId = gameId := by
  obtain ⟨other, hother, hotherId, hgame, -⟩ := h r.id hid
  rwa [← eq_of_key_eq hs.keys.reservations hr hother hotherId]

end Closing

/-! ### Operations and tickets -/

theorem Seated.withOperations (hs : Seated s)
    (hrows : ∀ row ∈ rows, ∀ logical, row.responseSnapshot = some (.admission logical) →
      (∃ r ∈ s.reservations, r.id = logical.reservationId ∧ r.gameSessionId = logical.gameId) ∧
        ∀ seat ∈ s.players, seat.reservationId = logical.reservationId →
          seat.playerId = logical.playerId) :
    Seated { s with operations := s.operations ++ rows } :=
  { hs with
    keys := { hs.keys with }
    named := fun operation hmem =>
      (List.mem_append.1 hmem).elim (hs.named operation) (hrows operation) }

theorem Seated.withPlain (hs : Seated s) (hrows : ∀ row ∈ rows, row.Plain) :
    Seated { s with operations := s.operations ++ rows } :=
  hs.withOperations fun row hmem logical hlogical => absurd hlogical ((hrows row hmem).1 logical)

/-- `f` leaves alone to whom and what a ticket admits. -/
structure KeepsBinding (f : TicketRow → TicketRow) : Prop where
  id : ∀ row, (f row).id = row.id
  holder : ∀ row, (f row).userId = row.userId ∧ (f row).playerId = row.playerId ∧
    (f row).reservationId = row.reservationId
  room : ∀ row, (f row).gameSessionId = row.gameSessionId ∧ (f row).roomId = row.roomId

/-- Rewriting tickets, none of which becomes unused. -/
theorem Seated.updateTickets (hs : Seated s) {p : TicketRow → Prop} [DecidablePred p]
    {f : TicketRow → TicketRow} (hf : KeepsBinding f)
    (hunused : ∀ row ∈ s.tickets, p row → (f row).consumption = none → row.consumption = none)
    (htokens : ((updateWhere p f s.tickets).map TicketRow.tokenHash).Nodup) :
    Seated { s with tickets := updateWhere p f s.tickets } := by
  have hrow : ∀ row ∈ updateWhere p f s.tickets, ∃ old ∈ s.tickets,
      row = (if p old then f old else old) ∧ row.id = old.id ∧ row.userId = old.userId ∧
        row.playerId = old.playerId ∧ row.reservationId = old.reservationId ∧
        row.gameSessionId = old.gameSessionId ∧
        (row.consumption = none → old.consumption = none) := by
    intro row hmem
    obtain ⟨old, hold, rfl⟩ := mem_updateWhere.1 hmem
    refine ⟨old, hold, rfl, ?_⟩
    split_ifs with hp
    · obtain ⟨huser, hplayer, hreservation⟩ := hf.holder old
      exact ⟨hf.id old, huser, hplayer, hreservation, (hf.room old).1, hunused old hold hp⟩
    · exact ⟨rfl, rfl, rfl, rfl, rfl, id⟩
  refine { hs with
    keys := { hs.keys with
      tickets := by
        rw [map_updateWhere fun row _ _ => hf.id row]
        exact hs.keys.tickets
      tokens := htokens }
    ofTicket := ?_
    ticketSeat := ?_
    oneUnused := ?_ }
  · intro row hmem
    obtain ⟨old, hold, -, -, huser, -, hreservation, hgame, -⟩ := hrow row hmem
    obtain ⟨r, hr, hid, huserR, hgameR⟩ := hs.ofTicket old hold
    exact ⟨r, hr, hreservation.trans hid, huser.trans huserR, hgame.trans hgameR⟩
  · intro row hmem seat hseat hreservation
    obtain ⟨old, hold, -, -, -, hplayer, hsame, -, -⟩ := hrow row hmem
    exact (hs.ticketSeat old hold seat hseat (hreservation.trans hsame)).trans hplayer.symm
  · intro row hmem other hother hnone hotherNone hreservation
    obtain ⟨old, hold, rfl, -, -, -, hsame, -, hwas⟩ := hrow row hmem
    obtain ⟨old', hold', rfl, -, -, -, hsame', -, hwas'⟩ := hrow other hother
    rw [hs.oneUnused old hold old' hold' (hwas hnone) (hwas' hotherNone)
      (hsame'.symm.trans (hreservation.trans hsame))]

theorem Seated.expired (hs : Seated s) (p : TicketRow → Prop) [DecidablePred p] (now : ℤ) :
    Seated { s with tickets := expired now p s.tickets } := by
  refine hs.updateTickets ⟨fun _ => rfl, fun _ => ⟨rfl, rfl, rfl⟩, fun _ => ⟨rfl, rfl⟩⟩
    (fun row _ h _ => h.2) ?_
  have hkept : (Api.expired now p s.tickets).map TicketRow.tokenHash =
      s.tickets.map TicketRow.tokenHash := map_updateWhere fun _ _ _ => rfl
  show ((Api.expired now p s.tickets).map TicketRow.tokenHash).Nodup
  rw [hkept]
  exact hs.keys.tokens

theorem Seated.used (hs : Seated s) (consumption : TicketConsumption) (tokenHash : String) :
    Seated { s with tickets := used consumption tokenHash s.tickets } := by
  refine hs.updateTickets ⟨fun _ => rfl, fun _ => ⟨rfl, rfl, rfl⟩, fun _ => ⟨rfl, rfl⟩⟩
    (fun row _ h _ => h.2) ?_
  have hkept : (Api.used consumption tokenHash s.tickets).map TicketRow.tokenHash =
      s.tickets.map TicketRow.tokenHash := map_updateWhere fun _ _ _ => rfl
  show ((Api.used consumption tokenHash s.tickets).map TicketRow.tokenHash).Nodup
  rw [hkept]
  exact hs.keys.tokens

/-- One more ticket for a reservation that is open. -/
theorem Seated.addTicket (hs : Seated s) {ticket : TicketRow}
    (hid : ∀ other ∈ s.tickets, other.id ≠ ticket.id)
    (htoken : ∀ other ∈ s.tickets, other.tokenHash ≠ ticket.tokenHash)
    (hfor : ∃ r ∈ s.reservations, TicketFor r ticket)
    (hseat : ∀ seat ∈ s.players, seat.reservationId = ticket.reservationId →
      seat.playerId = ticket.playerId)
    (hone : ∀ other ∈ s.tickets,
      ¬ (other.consumption = none ∧ other.reservationId = ticket.reservationId)) :
    Seated { s with tickets := s.tickets ++ [ticket] } := by
  refine { hs with
    keys := { hs.keys with
      tickets := nodup_append_key hs.keys.tickets hid
      tokens := nodup_append_key hs.keys.tokens htoken }
    ofTicket := ?_
    ticketSeat := ?_
    oneUnused := ?_ }
  · intro row hmem
    rcases List.mem_append.1 hmem with hold | hnew
    · exact hs.ofTicket row hold
    · rwa [List.mem_singleton.1 hnew]
  · intro row hmem seat hmemSeat
    rcases List.mem_append.1 hmem with hold | hnew
    · exact hs.ticketSeat row hold seat hmemSeat
    · rw [List.mem_singleton.1 hnew]
      exact hseat seat hmemSeat
  · intro row hmem other hother hnone hotherNone hreservation
    rcases List.mem_append.1 hmem with hold | hnew <;>
      rcases List.mem_append.1 hother with hold' | hnew'
    · exact hs.oneUnused row hold other hold' hnone hotherNone hreservation
    · rw [List.mem_singleton.1 hnew'] at hreservation
      exact absurd ⟨hnone, hreservation.symm⟩ (hone row hold)
    · rw [List.mem_singleton.1 hnew] at hreservation
      exact absurd ⟨hotherNone, hreservation⟩ (hone other hold')
    · rw [List.mem_singleton.1 hnew, List.mem_singleton.1 hnew']

end Kept

end Pootown.Api
