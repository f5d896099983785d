import Mathlib.Tactic
import Pootown.Api.Calls
import Pootown.Api.SeatEffects

/-!
# What the calls do to the seating, by rooms and for accounts

The calls by which a room uses tickets, starts and settles, the grants, and with those all calls:
along every run the seating stays as `Seated` says.

* `Consumes`: the ways to consume a ticket;
* `complete_reseats`, `abort_reseats`: a session that ends closes all its reservations;
* `SystemStep.seated`, `seated_of_run`.
-/

namespace Pootown.Api

open Tables Transactions Runs

variable {digests : Digests} {settings : Settings} {fresh : Fresh} {now : ℤ}
  {s s' : Working} {u : Unit} {userId gameId operationId idempotencyKey : String}

/-! ### Using a ticket -/

theorem activeSeat_eq_some {db : Database} {seat : PlayerRow}
    (h : activeSeat db gameId userId = some seat) :
    seat ∈ db.game.players ∧ seat.gameSessionId = gameId ∧ seat.userId = userId ∧
      seat.active = true :=
  ⟨List.mem_of_find?_eq_some h, by simpa using List.find?_some h⟩

theorem requireBoundSeat_ok {ticket : TicketRow} {seatIndex : ℕ}
    (h : requireBoundSeat ticket s = .ok (seatIndex, s')) :
    s' = s ∧ ∃ seat, SeatOf s.db.seating ticket seat ∧ seat.seatIndex = seatIndex := by
  simp only [requireBoundSeat, select_bind, id_eq, checkSome_bind_eq_ok, pure_eq_ok,
    Option.filter_eq_some_iff, decide_eq_true_eq] at h
  obtain ⟨seat, ⟨hseat, hplayer, hreservation⟩, rfl, rfl⟩ := h
  obtain ⟨hmem, hgame, huser, hactive⟩ := activeSeat_eq_some hseat
  exact ⟨rfl, seat, ⟨hmem, hactive, hgame, huser, hplayer, hreservation⟩, rfl⟩

/-- An open reservation has its seat. -/
theorem Usable.activeSeat_ne_none {request : TicketConsumeRequest} {ticket : TicketRow}
    (hs : Seated s.db.seating) (h : Usable digests request ticket s.db.seating) :
    activeSeat s.db ticket.gameSessionId ticket.userId ≠ none := by
  intro hfind
  obtain ⟨r, hr, hid, huser, hgame, hopen⟩ := h.reserved
  obtain ⟨seat, hseat, hactive, hfor⟩ := hs.seat r hr hopen
  have hnot := List.find?_eq_none.1 hfind seat hseat
  simp [hfor.2.1, hfor.2.2, huser, hgame, hactive] at hnot

theorem ensureBoundSeat_ok {session : SessionRow} {ticket : TicketRow} {at_ : ℤ} {seatIndex : ℕ}
    (hseat : activeSeat s.db ticket.gameSessionId ticket.userId ≠ none)
    (h : ensureBoundSeat session ticket at_ s = .ok (seatIndex, s')) :
    s' = s ∧ ∃ seat, SeatOf s.db.seating ticket seat ∧ seat.seatIndex = seatIndex := by
  simp only [ensureBoundSeat, select_bind, id_eq] at h
  cases hfind : activeSeat s.db ticket.gameSessionId ticket.userId with
  | none => exact absurd hfind hseat
  | some seat =>
    simp only [hfind, check_bind_eq_ok, pure_eq_ok] at h
    obtain ⟨⟨hplayer, hreservation⟩, rfl, rfl⟩ := h
    obtain ⟨hmem, hgame, huser, hactive⟩ := activeSeat_eq_some hfind
    exact ⟨rfl, seat, ⟨hmem, hactive, hgame, huser, hplayer, hreservation⟩, rfl⟩

theorem parseTicket_ok {snapshot : Option ResponseSnapshot} {response : TicketConsumeResponse}
    (h : parseTicket snapshot s = .ok (response, s')) :
    s' = s ∧ snapshot = some (.ticket response) := by
  rcases snapshot with _ | ⟨_ | _ | _ | _⟩
  case some.ticket other =>
    obtain ⟨rfl, rfl⟩ := pure_eq_ok.1 h
    exact ⟨rfl, rfl⟩
  all_goals cases h

/-- How a ticket is consumed: for the first time, again, or by a request that is repeated. -/
inductive Consumes (digests : Digests) (request : TicketConsumeRequest) (idempotencyKey : String)
    (fresh : Fresh) (now : ℤ) (ticket : TicketRow) (seat : PlayerRow) (s : Seating) :
    TicketConsumeResponse → Seating → Prop
  | first {usedAt : ℤ} : ticket.consumption = none → now < ticket.expiresAt →
      Consumes digests request idempotencyKey fresh now ticket seat s
        (ticketResponse ticket seat.seatIndex false)
        { s with
          tickets := used ⟨usedAt, request.roomInstanceId⟩ ticket.tokenHash s.tickets
          operations := s.operations ++
            [useOperation digests fresh request idempotencyKey ticket seat.seatIndex false] }
  | again {consumption : TicketConsumption} : ticket.consumption = some consumption →
      consumption.roomInstance = request.roomInstanceId →
      Consumes digests request idempotencyKey fresh now ticket seat s
        (ticketResponse ticket seat.seatIndex true)
        { s with operations := s.operations ++
          [useOperation digests fresh request idempotencyKey ticket seat.seatIndex true] }
  | repeated {consumption : TicketConsumption} {prior : OperationRow}
      {response : TicketConsumeResponse} : ticket.consumption = some consumption →
      consumption.roomInstance = request.roomInstanceId → prior ∈ s.operations →
      prior.requestHash = digests.requestHash (.consumeTicket request) →
      prior.responseSnapshot = some (.ticket response) →
      Consumes digests request idempotencyKey fresh now ticket seat s response s

/-- The ticket that a request uses, and an operation under its key is one for the same request. -/
theorem consumeTicket_uses {request : TicketConsumeRequest} {response : TicketConsumeResponse}
    (h : consumeTicket digests request idempotencyKey fresh now s = .ok (response, s')) :
    ∃ session ticket, s.db.game.tickets.find? (fun row =>
        row.tokenHash = digests.tokenHash request.ticket) = some ticket ∧
      ticket.gameSessionId = request.gameId ∧ ticket.roomId = request.roomId ∧
      (∃ row ∈ s.db.economy.reservations, row.id = ticket.reservationId ∧
        row.userId = ticket.userId ∧ row.gameSessionId = ticket.gameSessionId ∧
        row.status = .reserved) ∧
      (∀ row ∈ priorOperation s.db ticket.userId .consumeTicket idempotencyKey,
        row.requestHash = digests.requestHash (.consumeTicket request)) ∧
      useTicket digests session ticket request idempotencyKey
        (priorOperation s.db ticket.userId .consumeTicket idempotencyKey) fresh now s =
          .ok (response, s') := by
  simp only [consumeTicket, lockSession_bind_eq_ok, select_bind, id_eq, checkSome_bind_eq_ok,
    check_bind_eq_ok, findOperation_bind, Option.filter_eq_some_iff, decide_eq_true_eq] at h
  obtain ⟨session, -, ticket, ⟨hfind, hgame, hroom, -⟩, -, hreserved, h⟩ := h
  refine ⟨session, ticket, hfind, hgame, hroom, hreserved, ?_⟩
  generalize priorOperation s.db ticket.userId .consumeTicket idempotencyKey = prior at h ⊢
  cases prior with
  | none => exact ⟨fun row hrow => absurd hrow (Option.not_mem_none row), h⟩
  | some row =>
    simp only [assertNoOpReplay, bind_bind, check_bind_eq_ok] at h
    obtain ⟨hhash, -, h⟩ := h
    exact ⟨fun _ hrow => Option.some.inj hrow ▸ hhash, h⟩

theorem consumeTicket_ok {request : TicketConsumeRequest} {response : TicketConsumeResponse}
    (hs : Seated s.db.seating)
    (h : consumeTicket digests request idempotencyKey fresh now s = .ok (response, s')) :
    s'.db.realtime = s.db.realtime ∧ ∃ ticket seat, Usable digests request ticket s.db.seating ∧
      SeatOf s.db.seating ticket seat ∧
      Consumes digests request idempotencyKey fresh now ticket seat s.db.seating response
        s'.db.seating := by
  obtain ⟨session, ticket, hfind, hgame, hroom, hreserved, hhash, h⟩ := consumeTicket_uses h
  have husable : Usable digests request ticket s.db.seating :=
    ⟨(find?_key_eq_some hfind).1, (find?_key_eq_some hfind).2, hgame, hroom, hreserved⟩
  generalize hprior : priorOperation s.db ticket.userId .consumeTicket idempotencyKey = prior
    at h hhash
  unfold useTicket at h
  cases hconsumption : ticket.consumption with
  | none =>
    simp only [hconsumption, check_bind_eq_ok] at h
    obtain ⟨hunexpired, -, h⟩ := h
    simp only [consumeUnusedTicket, bind_eq_ok] at h
    obtain ⟨seatIndex, m, hbound, _, m', htickets, _, m'', hoperation, h⟩ := h
    obtain ⟨rfl, rfl⟩ := pure_eq_ok.1 h
    obtain ⟨-, -, -, rfl⟩ := insertOperation_eq_ok.1 hoperation
    obtain ⟨-, -, -, -, rfl⟩ := updateTickets_eq_ok.1 htickets
    obtain ⟨rfl, seat, hseat, rfl⟩ := ensureBoundSeat_ok (husable.activeSeat_ne_none hs) hbound
    exact ⟨rfl, ticket, seat, husable, hseat, .first hconsumption hunexpired⟩
  | some consumption =>
    simp only [hconsumption, reuseTicket, check_bind_eq_ok] at h
    obtain ⟨hinstance, h⟩ := h
    rw [bind_eq_ok] at h
    obtain ⟨seatIndex, m, hbound, h⟩ := h
    obtain ⟨rfl, seat, hseat, rfl⟩ := requireBoundSeat_ok hbound
    cases prior with
    | some row =>
      obtain ⟨rfl, hsnapshot⟩ := parseTicket_ok h
      exact ⟨rfl, ticket, seat, husable, hseat, .repeated hconsumption hinstance
        (priorOperation_eq_some hprior).1 (hhash row rfl) hsnapshot⟩
    | none =>
      simp only [bind_eq_ok] at h
      obtain ⟨_, m', hoperation, h⟩ := h
      obtain ⟨rfl, rfl⟩ := pure_eq_ok.1 h
      obtain ⟨-, -, -, rfl⟩ := insertOperation_eq_ok.1 hoperation
      exact ⟨rfl, ticket, seat, husable, hseat, .again hconsumption hinstance⟩

theorem consumeTicket_reseats {request : TicketConsumeRequest} {response : TicketConsumeResponse}
    (hs : Seated s.db.seating)
    (h : consumeTicket digests request idempotencyKey fresh now s = .ok (response, s')) :
    Reseats digests settings fresh now s s' := by
  obtain ⟨hrealtime, ticket, seat, husable, hseat, hconsumes⟩ := consumeTicket_ok hs h
  refine ⟨hrealtime, ?_⟩
  generalize s'.db.seating = t at hconsumes
  cases hconsumes with
  | first hunused => exact .used husable hunused hseat
  | again hused => exact .reused husable (hused ▸ Option.some_ne_none _) hseat
  | repeated => exact .refl _

/-! ### Starting and recovering -/

/-- To move a session on, and enter operations that admit nobody. -/
theorem updateSession_reseats {lifecycle : SessionLifecycle} {f : SessionRow → SessionRow}
    {m : Working} {rows : List OperationRow}
    (h : updateSession gameId lifecycle f s = .ok (u, m))
    (hlifecycle : lifecycle = .active ∨ lifecycle = .recoveryRequired)
    (hf : MovesTo lifecycle fun row => { f row with lifecycle := lifecycle }) (hrows : ∀ row ∈ rows, row.Plain)
    (hrealtime : s'.db.realtime = m.db.realtime)
    (hs' : s'.db.seating = { m.db.seating with operations := m.db.seating.operations ++ rows }) :
    Reseats digests settings fresh now s s' := by
  obtain ⟨hvalid, -, rfl⟩ := updateSession_eq_ok.1 h
  refine ⟨hrealtime, ?_⟩
  rw [hs']
  exact .moved hlifecycle hf (fun row hrow hid => (hvalid row hrow hid).1) hrows

theorem markStarted_reseats {roomId : String} {stateVersion : ℤ} {response : OperationResponse}
    (h : markStarted digests gameId roomId stateVersion idempotencyKey fresh now s =
      .ok (response, s')) : Reseats digests settings fresh now s s' := by
  simp only [markStarted, lockSession_bind_eq_ok, findOperation_bind] at h
  obtain ⟨session, -, h⟩ := h
  cases hprior : priorOperation s.db session.creatorUserId .markStarted idempotencyKey with
  | some prior =>
    simp only [hprior, assertNoOpReplay, bind_bind, check_bind_eq_ok] at h
    obtain ⟨-, -, h⟩ := h
    obtain ⟨rfl, -⟩ := parseOperation_ok h
    exact .refl
  | none =>
    simp only [hprior, check_bind_eq_ok, select_bind, id_eq] at h
    obtain ⟨-, -, -, -, h⟩ := h
    simp only [bind_eq_ok] at h
    obtain ⟨_, m, hupdate, _, m', hoperation, h⟩ := h
    obtain ⟨-, rfl⟩ := pure_eq_ok.1 h
    obtain ⟨-, -, -, rfl⟩ := insertOperation_eq_ok.1 hoperation
    refine updateSession_reseats hupdate (.inl rfl)
      ⟨fun _ => rfl, fun _ => rfl, fun _ => rfl, fun _ => rfl, fun _ => rfl⟩
      (fun row hrow => ?_) rfl rfl
    rw [List.mem_singleton.1 hrow]
    exact plain_operation rfl

theorem requireRecovery_reseats {requiredAt : ℤ}
    (h : requireRecovery gameId requiredAt s = .ok (u, s')) :
    Reseats digests settings fresh now s s' := by
  rw [requireRecovery] at h
  refine updateSession_reseats h (.inr rfl)
    ⟨fun _ => rfl, fun _ => rfl, fun _ => rfl, fun _ => rfl, fun _ => rfl⟩
    (List.forall_mem_nil OperationRow.Plain) rfl ?_
  rw [List.append_nil]

theorem markRecoveryRequired_reseats {inactiveBefore : ℤ} {marked : Bool}
    (h : markRecoveryRequired settings gameId inactiveBefore s = .ok (marked, s')) :
    Reseats digests settings fresh now s s' := by
  simp only [markRecoveryRequired, select_bind, id_eq] at h
  cases hfind : (findSession s.db gameId).filter fun session =>
      Unrecoverable s.db session inactiveBefore with
  | none =>
    simp only [hfind] at h
    obtain ⟨-, rfl⟩ := pure_eq_ok.1 h
    exact .refl
  | some session =>
    simp only [hfind, bind_eq_ok] at h
    obtain ⟨_, m, hrequire, h⟩ := h
    obtain ⟨-, rfl⟩ := pure_eq_ok.1 h
    exact requireRecovery_reseats hrequire

theorem markProofRecoveryRequired_reseats {marked : Bool} {requiredAt : ℤ}
    (h : markProofRecoveryRequired gameId requiredAt s = .ok (marked, s')) :
    Reseats digests settings fresh now s s' := by
  simp only [markProofRecoveryRequired, select_bind, id_eq] at h
  cases hfind : (findSession s.db gameId).filter fun session =>
      (session.lifecycle = .active ∨ session.lifecycle = .settling) ∧
        HasTerminalProof s.db gameId ∧
        ∀ row ∈ s.db.economy.settlements, row.gameSessionId ≠ gameId with
  | none =>
    simp only [hfind] at h
    obtain ⟨-, rfl⟩ := pure_eq_ok.1 h
    exact .refl
  | some session =>
    simp only [hfind, bind_eq_ok] at h
    obtain ⟨_, m, hrequire, h⟩ := h
    obtain ⟨-, rfl⟩ := pure_eq_ok.1 h
    exact requireRecovery_reseats hrequire

/-! ### Settling -/

theorem mem_participants {db : Database} {p : Participant} (h : p ∈ participants db gameId) :
    p.reservation ∈ db.economy.reservations ∧ p.reservation.gameSessionId = gameId ∧
      p.reservation.status = .reserved := by
  obtain ⟨r, hr, hp⟩ := List.mem_flatMap.1 (mem_orderBy.1 h)
  obtain ⟨player, -, rfl⟩ := List.mem_map.1 hp
  obtain ⟨hr, hfilter⟩ := List.mem_filter.1 hr
  exact ⟨hr, by simpa using hfilter⟩

theorem captureReservation_closes {reservation : ReservationRow}
    (h : captureReservation operationId reservation now s = .ok (u, s')) :
    ClosesIn [reservation.id] .captured operationId now s s' := by
  have hclose : ∃ m, Aside s m ∧
      closeReservation reservation.id .captured operationId now m = .ok (u, s') := by
    rw [captureReservation] at h
    rcases ite_eq_ok.1 h with ⟨-, h⟩ | ⟨-, h⟩
    · simp only [bind_eq_ok] at h
      obtain ⟨_, m, hmove, _, m', hledger, _, m'', hentry, h⟩ := h
      exact ⟨m'', IsTrans.trans _ _ _ (moveCoin_aside _ _ _ _ _ _ _ _ hmove)
        (IsTrans.trans _ _ _ (ledgerAccount_aside _ _ _ _ _ _ hledger)
          (insertEntry_aside _ _ _ _ hentry)), h⟩
    · exact ⟨s, Std.Refl.refl s, h⟩
  obtain ⟨m, haside, hclose⟩ := hclose
  obtain ⟨hopen, -, -, rfl⟩ := closeReservation_eq_ok.1 hclose
  have hreservations : m.db.economy.reservations = s.db.economy.reservations :=
    congrArg Seating.reservations haside.seating
  obtain ⟨hcloses, -⟩ : Closes [reservation.id] .captured operationId now _ _ ∧ _ :=
    closes_updateWhere hopen
  rw [hreservations] at hcloses
  refine ⟨haside.realtime, haside.deferred, _, hcloses, ?_⟩
  rw [← hreservations, ← haside.seating]
  rfl

theorem finishSession_ok {f : SessionRow → SessionRow} (hf : ∀ row, (f row).id = row.id)
    (h : finishSession gameId f now s = .ok (u, s')) :
    s'.db.realtime = s.db.realtime ∧ s'.db.economy = s.db.economy ∧ s.deferred ⊆ s'.deferred ∧
      s'.db.seating = { s.db.seating with
        sessions := updateWhere (fun row => row.id = gameId)
          (fun row => { f row with lifecycle := .settled, finishedAt := some now })
          s.db.game.sessions } := by
  rw [finishSession, bind_eq_ok] at h
  obtain ⟨_, m, hsettling, hsettled⟩ := h
  obtain ⟨-, -, rfl⟩ := updateSession_eq_ok.1 hsettled
  obtain ⟨-, -, rfl⟩ := updateSession_eq_ok.1 hsettling
  refine ⟨rfl, rfl, fun d hd => ?_, ?_⟩
  · exact List.mem_append_left _ (List.mem_append_left _ (List.mem_append_left _
      (List.mem_append_left _ hd)))
  · exact congrArg (fun sessions => Seating.mk sessions _ _ _ _ _)
      (updateWhere_updateWhere fun row _ hid => (hf row).trans hid)

/-- To close the reservations of a session that has ended, and settle it. -/
theorem finish_reseats {m m₁ m₂ m₃ : Working} {row : OperationRow} {ids : List String}
    {status : ReservationStatus} {f : SessionRow → SessionRow} {response : OperationResponse}
    (hsession : SessionIs s.db.seating gameId fun session => session.lifecycle = .active ∨
      session.lifecycle = .settling ∨ session.lifecycle = .recoveryRequired)
    (hids : OpenIn s.db.seating gameId ids) (hstatus : status ≠ .reserved)
    (hoperation : insertOperation row s = .ok ((), m)) (hrow : row.id = fresh.operationId)
    (hcloses : ClosesIn ids status operationId now m m₁) (haside : Aside m₁ m₂)
    (hf : MovesTo .settled fun row => { f row with lifecycle := .settled, finishedAt := some now })
    (hfinish : finishSession gameId f now m₂ = .ok ((), m₃))
    (hcommit : commitWithResponse fresh.operationId m₃ = .ok (response, s'))
    (hclosed : ∀ r ∈ s'.db.economy.reservations, r.gameSessionId = gameId →
      r.status ≠ .reserved) : Reseats digests settings fresh now s s' := by
  obtain ⟨-, hcommit⟩ := commitWithResponse_ok hcommit
  obtain ⟨hid, -, -, rfl⟩ := insertOperation_eq_ok.1 hoperation
  obtain ⟨rs, hrs, hm₁⟩ := hcloses.seating
  obtain ⟨hrealtime, -, -, hm₃⟩ := finishSession_ok (f := f) hf.id hfinish
  have hm₂ : m₂.db.seating = { s.db.seating with
      reservations := rs, operations := s.db.seating.operations ++ [row] } :=
    haside.seating.trans hm₁
  have hm₃ : m₃.db.seating = { s.db.seating with
      sessions := updateWhere (fun row => row.id = gameId)
        (fun row => { f row with lifecycle := .settled, finishedAt := some now }) s.db.game.sessions
      reservations := rs
      operations := s.db.seating.operations ++ [row] } := by
    have hsessions : m₂.db.game.sessions = s.db.game.sessions := congrArg Seating.sessions hm₂
    rw [hm₃, hm₂, hsessions]
  obtain ⟨hrealtime', hs'⟩ := commitOperation_seating hcommit (congrArg Seating.operations hm₃) hrow hid
  refine ⟨hrealtime'.trans (hrealtime.trans (haside.realtime.trans hcloses.realtime)), ?_⟩
  have hreservations : s'.db.economy.reservations = rs :=
    (congrArg Seating.reservations hs').trans (congrArg Seating.reservations hm₃)
  rw [hs', hm₃]
  refine .finished hsession hf hids hstatus hrs (hreservations ▸ hclosed) fun other hother => ?_
  rw [List.mem_singleton.1 hother]
  exact plain_operation rfl

theorem participants_openIn : OpenIn s.db.seating gameId
    ((participants s.db gameId).map fun p => p.reservation.id) := by
  intro id hmem
  obtain ⟨p, hp, rfl⟩ := List.mem_map.1 hmem
  obtain ⟨hr, hgame, hopen⟩ := mem_participants hp
  exact ⟨p.reservation, hr, rfl, hgame, hopen⟩

/-- What the trigger on settlements asks leaves no reservation of the session open. -/
theorem TerminalSettlement.closed {db : Database} {settlement : SettlementRow}
    (h : TerminalSettlement db settlement) : ∀ r ∈ db.economy.reservations,
      r.gameSessionId = settlement.gameSessionId → r.status ≠ .reserved := by
  intro r hr hgame
  have hkind := h.2.2.2
  unfold KindSettlement at hkind
  split at hkind
  · exact hkind.2.1 r hr hgame
  · rw [hkind.1 r hr hgame]
    decide

/-- The trigger that a settlement has put off still stands at the commit. -/
theorem settlement_deferred {m m₁ m₂ m₃ : Working} {row : SettlementRow} {f : SessionRow → SessionRow}
    {response : OperationResponse} (hinsert : insertSettlement row m = .ok ((), m₁))
    (haside : Aside m₁ m₂) (hf : ∀ row, (f row).id = row.id)
    (hfinish : finishSession gameId f now m₂ = .ok ((), m₃))
    (hcommit : commitWithResponse operationId m₃ = .ok (response, s')) :
    .terminalSettlementComplete row ∈ s'.deferred := by
  obtain ⟨-, hcommit⟩ := commitWithResponse_ok hcommit
  obtain ⟨-, rfl⟩ := commitOperation_eq_ok.1 hcommit
  obtain ⟨-, -, -, rfl⟩ := insertSettlement_eq_ok.1 hinsert
  exact List.mem_append_left _ ((finishSession_ok hf hfinish).2.2.1 (haside.deferred
    (List.mem_append_right _ (List.mem_singleton_self _))))

theorem creditWinner_aside (operationId userId : String) (amount : ℤ) :
    Within Aside (creditWinner operationId userId amount) :=
  .bind (updateAccount_aside _ _ _) fun _ => .bind (ledgerAccount_aside _ _ _) fun _ =>
    insertEntry_aside _

theorem writeCompletedHistory_aside (gameId winnerUserId : String) (prize now : ℤ)
    (p : Participant) : Within Aside (writeCompletedHistory gameId winnerUserId prize now p) :=
  .bind (insertHistory_aside _) fun _ => upsertLeaderboard_aside _

/-- To close the reservations of all participants. -/
theorem forM_closes {seated : List Participant} {status : ReservationStatus}
    (hstatus : status ≠ .reserved) {close : Participant → ApiTx PUnit}
    (h : ∀ p ∈ seated, Within (ClosesIn [p.reservation.id] status operationId now) (close p)) :
    Within (ClosesIn (seated.map fun p => p.reservation.id) status operationId now)
      (seated.forM close) := by
  have : IsTrans Working (ClosesIn (seated.map fun p => p.reservation.id) status operationId now) :=
    ClosesIn.isTrans hstatus
  refine .forM fun p hp => (h p hp).mono fun s s' hcloses => ?_
  obtain ⟨rs, hrs, hs'⟩ := hcloses.seating
  exact ⟨hcloses.realtime, hcloses.deferred, rs,
    hrs.mono (List.cons_subset.2 ⟨List.mem_map_of_mem hp, List.nil_subset _⟩), hs'⟩

/-- To record the outcome of a session once its reservations are closed. -/
theorem settled_reseats {m m₁ m₂ : Working} {row : OperationRow} {ids : List String}
    {status : ReservationStatus} {f : SessionRow → SessionRow} {settlement : SettlementRow}
    {seated : List Participant} {history : Participant → ApiTx PUnit} {response : OperationResponse}
    (hsession : SessionIs s.db.seating settlement.gameSessionId fun session =>
      session.lifecycle = .active ∨ session.lifecycle = .settling ∨
        session.lifecycle = .recoveryRequired)
    (hids : OpenIn s.db.seating settlement.gameSessionId ids) (hstatus : status ≠ .reserved)
    (hoperation : insertOperation row s = .ok ((), m)) (hrow : row.id = fresh.operationId)
    (hcloses : ClosesIn ids status operationId now m m₁) (haside : Aside m₁ m₂)
    (hhistory : ∀ p, Within Aside (history p))
    (h : (do
      insertSettlement settlement
      seated.forM history
      finishSession settlement.gameSessionId f now
      commitWithResponse fresh.operationId : ApiTx _) m₂ = .ok (response, s'))
    (hf : MovesTo .settled fun row => { f row with lifecycle := .settled, finishedAt := some now })
    (hdeferred : ∀ d ∈ s'.deferred, d.Holds s'.db) : Reseats digests settings fresh now s s' := by
  simp only [bind_eq_ok] at h
  obtain ⟨_, m₃, hsettlement, _, m₄, hloop, _, m₅, hfinish, hcommit⟩ := h
  have hkept : Aside m₃ m₄ := Within.forM (fun p _ => hhistory p) _ _ _ hloop
  have htrigger := hdeferred _
    (settlement_deferred (f := f) hsettlement hkept hf.id hfinish hcommit)
  exact finish_reseats hsession hids hstatus hoperation hrow hcloses
    (IsTrans.trans _ _ _ haside (IsTrans.trans _ _ _ (insertSettlement_aside _ _ _ _ hsettlement)
      hkept)) hf hfinish hcommit (TerminalSettlement.closed htrigger)

theorem complete_reseats {actorUserId hash : String} {request : SettlementRequest}
    {winner : Participant} {response : OperationResponse}
    (hsession : SessionIs s.db.seating gameId fun session => session.lifecycle = .active ∨
      session.lifecycle = .settling ∨ session.lifecycle = .recoveryRequired)
    (h : complete gameId actorUserId request idempotencyKey hash (participants s.db gameId) winner
      fresh now s = .ok (response, s')) (hdeferred : ∀ d ∈ s'.deferred, d.Holds s'.db) :
    Reseats digests settings fresh now s s' := by
  simp only [complete, assertPayoutFits, bind_bind, check_bind_eq_ok, select_bind] at h
  obtain ⟨-, -, h⟩ := h
  rw [bind_eq_ok] at h
  obtain ⟨_, m, hoperation, h⟩ := h
  rw [bind_eq_ok] at h
  obtain ⟨_, m₁, hcapture, h⟩ := h
  have hcloses := forM_closes (by decide : ReservationStatus.captured ≠ .reserved)
    (fun p _ s u s' h => captureReservation_closes h) _ _ _ hcapture
  have hf : MovesTo .settled fun row : SessionRow => { row with
      stateVersion := request.terminalStateVersion
      lifecycle := .settled
      finishedAt := some now } :=
    ⟨fun _ => rfl, fun _ => rfl, fun _ => rfl, fun _ => rfl, fun _ => rfl⟩
  rcases ite_eq_ok.1 h with ⟨-, h⟩ | ⟨-, h⟩
  · rw [bind_eq_ok] at h
    obtain ⟨_, m₂, hcredit, h⟩ := h
    exact settled_reseats hsession participants_openIn (by decide) hoperation rfl hcloses
      (creditWinner_aside _ _ _ _ _ _ hcredit) (writeCompletedHistory_aside _ _ _ _) h hf hdeferred
  · exact settled_reseats hsession participants_openIn (by decide) hoperation rfl hcloses
      (Std.Refl.refl _) (writeCompletedHistory_aside _ _ _ _) h hf hdeferred

theorem replay_ok {operation : OperationRow} {hash : String} {response : OperationResponse}
    (h : replay operation hash s = .ok (response, s')) :
    s' = s ∧ operation.requestHash = hash ∧ operation.status = .committed ∧
      operation.responseSnapshot = some (.operation response.operationId) := by
  simp only [replay, check_bind_eq_ok] at h
  obtain ⟨hhash, hstatus, h⟩ := h
  obtain ⟨rfl, hsnapshot⟩ := parseOperation_ok h
  exact ⟨rfl, hhash, hstatus, hsnapshot⟩

theorem settle_reseats {request : SettlementRequest} {response : OperationResponse}
    (h : settle digests gameId request idempotencyKey fresh now s = .ok (response, s'))
    (hdeferred : ∀ d ∈ s'.deferred, d.Holds s'.db) : Reseats digests settings fresh now s s' := by
  simp only [settle, select_bind, id_eq, lockAccounts_bind_eq_ok, lockSession_bind_eq_ok,
    findOperation_bind] at h
  obtain ⟨-, session, hsession, h⟩ := h
  cases hprior : priorOperation s.db session.creatorUserId .settleSession idempotencyKey with
  | some prior =>
    simp only [hprior] at h
    obtain ⟨rfl, -⟩ := replay_ok h
    exact .refl
  | none =>
    simp only [hprior, requireNoSettlement, bind_bind, select_bind, check_bind_eq_ok, id_eq,
      checkSome_bind_eq_ok] at h
    obtain ⟨-, -, hlifecycle, proof, -, -, winner, -, h⟩ := h
    obtain ⟨hmem, hid⟩ := findSession_eq_some hsession
    exact complete_reseats ⟨session, hmem, hid, hlifecycle⟩ h hdeferred

theorem abort_reseats {reason : AbortReason} {response : OperationResponse}
    (h : abort digests gameId reason idempotencyKey fresh now s = .ok (response, s'))
    (hdeferred : ∀ d ∈ s'.deferred, d.Holds s'.db) : Reseats digests settings fresh now s s' := by
  simp only [abort, select_bind, id_eq, lockAccounts_bind_eq_ok, lockSession_bind_eq_ok,
    findOperation_bind] at h
  obtain ⟨-, session, hsession, h⟩ := h
  cases hprior : priorOperation s.db session.creatorUserId .abortSession idempotencyKey with
  | some prior =>
    simp only [hprior] at h
    obtain ⟨rfl, -⟩ := replay_ok h
    exact .refl
  | none =>
    simp only [hprior, requireNoSettlement, bind_bind, select_bind, check_bind_eq_ok, payBack] at h
    obtain ⟨-, hlifecycle, h⟩ := h
    rw [bind_eq_ok] at h
    obtain ⟨_, m, hoperation, h⟩ := h
    rw [bind_eq_ok] at h
    obtain ⟨_, m₁, hrelease, h⟩ := h
    obtain ⟨hmem, hid⟩ := findSession_eq_some hsession
    have hcloses := forM_closes (by decide : ReservationStatus.released ≠ .reserved)
      (fun p _ s u s' h => by
        obtain ⟨hrealtime, hdeferred, rs, hrs, -, hs'⟩ := giveBack_closes h
        exact ⟨hrealtime, hdeferred, rs, hrs, hs'⟩) _ _ _ hrelease
    exact settled_reseats (f := id) ⟨session, hmem, hid, hlifecycle.imp_right .inr⟩
      participants_openIn (by decide) hoperation rfl hcloses (Std.Refl.refl _)
      (fun p => insertHistory_aside _) h
      ⟨fun _ => rfl, fun _ => rfl, fun _ => rfl, fun _ => rfl, fun _ => rfl⟩ hdeferred

/-! ### Accounts -/

theorem ensureAccountInfrastructure_aside (userId : String) :
    Within Aside (ensureAccountInfrastructure digests userId) :=
  .bind (insertAccountIfAbsent_aside _) fun _ =>
    .bind (insertLedgerAccountIfAbsent_aside _ _) fun _ =>
      .bind (insertLedgerAccountIfAbsent_aside _ _) fun _ => insertLedgerAccountIfAbsent_aside _ _

theorem applyGrant_ok {rescue : Bool} {account : AccountRow}
    (h : applyGrant digests userId operationId amount now rescue s = .ok (account, s')) :
    ∃ m, Aside s m ∧
      ((rescue = false ∧ commitOperation operationId (.operation operationId) m = .ok ((), s')) ∨
        (rescue = true ∧ s' = m)) := by
  rw [applyGrant, bind_eq_ok] at h
  obtain ⟨updated, m₁, hupdate, h⟩ := h
  rw [bind_eq_ok] at h
  obtain ⟨_, m₂, hentry, h⟩ := h
  rw [bind_eq_ok] at h
  obtain ⟨_, m₃, hissue, h⟩ := h
  rw [checkSome_bind_eq_ok] at h
  obtain ⟨_, -, h⟩ := h
  have haside : Aside s m₃ := IsTrans.trans _ _ _ (updateAccount_aside _ _ _ _ _ _ hupdate)
    (IsTrans.trans _ _ _ (insertEntry_aside _ _ _ _ hentry) (insertEntry_aside _ _ _ _ hissue))
  rcases ite_eq_ok.1 h with ⟨hrescue, h⟩ | ⟨hrescue, h⟩
  · rw [bind_eq_ok] at h
    obtain ⟨_, m₄, hcommit, h⟩ := h
    obtain ⟨-, rfl⟩ := pure_eq_ok.1 h
    exact ⟨m₃, haside, .inl ⟨hrescue, hcommit⟩⟩
  · obtain ⟨-, rfl⟩ := pure_eq_ok.1 h
    exact ⟨m₃, haside, .inr ⟨Bool.eq_true_of_not_eq_false hrescue, rfl⟩⟩

/-- To enter an operation, do what leaves the seating alone, and commit it. -/
theorem entered_reseats {m m' : Working} {row : OperationRow} {response : ResponseSnapshot}
    (hoperation : insertOperation row s = .ok ((), m)) (haside : Aside m m')
    (hcommit : commitOperation row.id response m' = .ok (u, s'))
    (hplain : (row.commit response).Plain) : Reseats digests settings fresh now s s' := by
  obtain ⟨hid, -, -, rfl⟩ := insertOperation_eq_ok.1 hoperation
  obtain ⟨hrealtime, hs'⟩ := commitOperation_seating hcommit
    (congrArg Seating.operations haside.seating) rfl hid
  refine .of_rows (hrealtime.trans haside.realtime) (fun other hother => ?_)
    (hs'.trans (congrArg (fun t : Seating => { t with
      operations := s.db.seating.operations ++ [row.commit response] }) haside.seating))
  rwa [List.mem_singleton.1 hother]

theorem lockAccountRow_bind_eq_ok {β : Type} {r : β × Working} {f : AccountRow → ApiTx β} :
    (lockAccountRow userId >>= f) s = .ok r ↔ ∃ account,
      s.db.economy.accounts.find? (fun account => account.userId = userId) = some account ∧
        f account s = .ok r := by
  rw [lockAccountRow, bind_bind, select_bind, checkSome_bind_eq_ok]

theorem Reseats.of_aside {m : Working} (haside : Aside s m)
    (h : Reseats digests settings fresh now m s') : Reseats digests settings fresh now s s' :=
  ⟨h.1.trans haside.realtime, haside.seating ▸ h.2⟩

theorem provisionUser_reseats {balance : CoinBalance}
    (h : provisionUser digests settings userId fresh now s = .ok (balance, s')) :
    Reseats digests settings fresh now s s' := by
  rw [provisionUser, bind_eq_ok] at h
  obtain ⟨_, m, hensure, h⟩ := h
  refine .of_aside (ensureAccountInfrastructure_aside userId _ _ _ hensure) ?_
  rw [lockAccountRow_bind_eq_ok] at h
  obtain ⟨account, -, h⟩ := h
  rw [bind_eq_ok] at h
  obtain ⟨inserted, m₁, hinsert, h⟩ := h
  obtain ⟨rfl, rfl⟩ | ⟨rfl, hoperation⟩ := insertOperationIfAbsent_ok hinsert
  · obtain ⟨-, rfl⟩ := pure_eq_ok.1 h
    exact .refl
  · rw [if_pos rfl, bind_eq_ok] at h
    obtain ⟨granted, m₂, hgrant, h⟩ := h
    obtain ⟨-, rfl⟩ := pure_eq_ok.1 h
    obtain ⟨m₃, haside, ⟨-, hcommit⟩ | ⟨hfalse, -⟩⟩ := applyGrant_ok hgrant
    · exact entered_reseats hoperation haside hcommit (plain_operation rfl)
    · cases hfalse

theorem registerUser_reseats {balance : CoinBalance}
    (h : registerUser digests settings userId fresh now s = .ok (balance, s')) :
    Reseats digests settings fresh now s s' := by
  simp only [registerUser, select_bind, check_bind_eq_ok, modify_bind] at h
  refine .of_aside ?_ (provisionUser_reseats h.2)
  exact ⟨rfl, rfl, List.Subset.refl _⟩

theorem provisionPrincipal_reseats {balance : CoinBalance}
    (h : provisionPrincipal digests settings userId fresh now s = .ok (balance, s')) :
    Reseats digests settings fresh now s s' := by
  simp only [provisionPrincipal, select_bind, check_bind_eq_ok] at h
  exact provisionUser_reseats h.2

theorem rescue_reseats {response : ResponseSnapshot}
    (h : rescue digests settings userId idempotencyKey fresh now s = .ok (response, s')) :
    Reseats digests settings fresh now s s' := by
  simp only [rescue, lockAccountRow_bind_eq_ok, findOperation_bind] at h
  obtain ⟨account, -, h⟩ := h
  cases hprior : priorOperation s.db userId .rescueGrant idempotencyKey with
  | some prior =>
    simp only [hprior, check_bind_eq_ok] at h
    obtain ⟨-, -, h⟩ := h
    obtain ⟨-, rfl⟩ := checkSome_eq_ok.1 h
    exact .refl
  | none =>
    simp only [hprior] at h
    rcases ite_eq_ok.1 h with ⟨-, h⟩ | ⟨-, h⟩
    · simp only [bind_eq_ok] at h
      obtain ⟨_, m, hoperation, granted, m₁, hgrant, _, m₂, hcommit, h⟩ := h
      obtain ⟨-, rfl⟩ := pure_eq_ok.1 h
      obtain ⟨m₃, haside, ⟨hfalse, -⟩ | ⟨-, rfl⟩⟩ := applyGrant_ok hgrant
      · cases hfalse
      · exact entered_reseats hoperation haside hcommit (plain_rescueGrant rfl)
    · rw [bind_eq_ok] at h
      obtain ⟨_, m, hoperation, h⟩ := h
      obtain ⟨-, rfl⟩ := pure_eq_ok.1 h
      obtain ⟨-, -, -, rfl⟩ := insertOperation_eq_ok.1 hoperation
      refine .of_rows rfl (fun other hother => ?_) rfl
      rw [List.mem_singleton.1 hother]
      exact plain_rescueGrant rfl

theorem bootstrap_ok {response : SessionBootstrap} (h : bootstrap gameId s = .ok (response, s')) :
    s' = s := by
  simp only [bootstrap, select_bind, id_eq, checkSome_bind_eq_ok, check_bind_eq_ok, pure_eq_ok] at h
  obtain ⟨session, -, -, -, creator, -, -, rfl⟩ := h
  rfl

/-! ### Every call -/

/-- A transaction that commits changes the seating by a step. -/
theorem runCall_reseats {call : ApiCall} (hs : Seated s.db.seating)
    (h : runCall digests settings fresh now call s = .ok (u, s'))
    (hdeferred : ∀ d ∈ s'.deferred, d.Holds s'.db) : Reseats digests settings fresh now s s' := by
  cases call <;> simp only [runCall, bind_eq_ok] at h <;> obtain ⟨_, m, hcall, h⟩ := h <;>
    obtain ⟨-, rfl⟩ := pure_eq_ok.1 h
  case registerUser => exact registerUser_reseats hcall
  case provisionPrincipal => exact provisionPrincipal_reseats hcall
  case rescue => exact rescue_reseats hcall
  case createSession => exact createSession_reseats hcall
  case joinSession => exact joinSession_reseats hcall
  case reconnectTicket => exact reconnectTicket_reseats hcall
  case releaseJoinIntent => exact releaseJoinIntentForUser_reseats hcall
  case cancelSession => exact cancelSessionForUser_reseats hcall hdeferred
  case finalizeRoomCommand => exact finalizeRoomCommand_reseats hcall hdeferred
  case cancelExpiredWaitingSession => exact cancelExpiredWaitingSession_reseats hcall hdeferred
  case releaseExpiredAdmission =>
    obtain ⟨-, rfl⟩ := releaseExpiredAdmission_eq hs hcall
    exact .refl
  case bootstrap =>
    obtain rfl := bootstrap_ok hcall
    exact .refl
  case consumeTicket => exact consumeTicket_reseats hs hcall
  case markStarted => exact markStarted_reseats hcall
  case settle => exact settle_reseats hcall hdeferred
  case abort => exact abort_reseats hcall hdeferred
  case markRecoveryRequired => exact markRecoveryRequired_reseats hcall
  case markProofRecoveryRequired => exact markProofRecoveryRequired_reseats hcall

/-! ### Runs -/

variable {codec : Server.Codec} {db db' : Database}

/-- What a step of the system does to the seating. -/
theorem SystemStep.seating {label : SystemLabel} (h : SystemStep digests settings codec db label db')
    (hs : Seated db.seating) : db'.seating = db.seating ∨ ∃ call fresh now,
      label = .call call fresh now ∧ SeatStep digests settings fresh now db.seating db'.seating := by
  cases h with
  | committed hcommit =>
    obtain ⟨t, hrun, hdeferred, rfl⟩ := withTransaction_eq_ok.1 hcommit
    exact .inr ⟨_, _, _, rfl, (runCall_reseats hs hrun hdeferred).2⟩
  | rolledBack => exact .inl rfl
  | room => exact .inl rfl

theorem SystemStep.seated {label : SystemLabel} (hs : Seated db.seating)
    (h : SystemStep digests settings codec db label db') : Seated db'.seating := by
  obtain heq | ⟨-, fresh, now, -, hstep⟩ := h.seating hs
  · rwa [heq]
  · exact hstep.seated hs

theorem Initial.seated (h : Initial db) : Seated db.seating := by
  have heq : db.seating = ⟨[], [], [], [], [], []⟩ := by
    rw [Database.seating, h.sessions, h.players, h.economy, h.joinIntents, h.tickets]
  rw [heq]
  exact {
    keys := ⟨.nil, .nil, .nil, .nil, .nil, .nil, .nil, .nil⟩
    lifecycle := List.forall_mem_nil _
    seat := List.forall_mem_nil _
    intent := List.forall_mem_nil _
    ofSeat := List.forall_mem_nil _
    ofIntent := List.forall_mem_nil _
    ofTicket := List.forall_mem_nil _
    ofReservation := List.forall_mem_nil _
    capacity := List.forall_mem_nil _
    creator := List.forall_mem_nil _
    closed := List.forall_mem_nil _
    ticketSeat := List.forall_mem_nil _
    oneUnused := List.forall_mem_nil _
    named := List.forall_mem_nil _ }

theorem seated_of_run {labels : List SystemLabel} (hinitial : Initial db)
    (hrun : Run (SystemStep digests settings codec) db labels db') : Seated db'.seating :=
  hrun.invariant (I := fun db => Seated db.seating) (fun _ _ _ hs h => h.seated hs) hinitial.seated

end Pootown.Api
