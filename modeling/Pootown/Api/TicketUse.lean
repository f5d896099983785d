import Mathlib.Tactic
import Pootown.Api.SeatedReservations

/-!
# The use of tickets

`tickets_admit_once`: a ticket that is consumed stays with the room instance that consumed it; a
call that succeeds names the user, the reservation, the player and the seat that the ticket was
issued for, while the reservation is open; an expired ticket that is not consumed, and a token that
another has replaced, let nobody in; and a call that fails changes nothing.

* `Continues`: what no change of the seating takes back;
* `Recorded`: the responses that are kept for tickets are those of the tickets.
-/

namespace Pootown.Api

open Tables Transactions Runs

variable {digests : Digests} {settings : Settings} {codec : Server.Codec} {fresh : Fresh} {now : ℤ}
  {s s' : Seating} {ticket : TicketRow}

/-! ### What is not taken back -/

/-- `t'` admits to what `t` admits to, and is `t` if `t` is consumed. -/
structure TicketRow.Kept (t t' : TicketRow) : Prop where
  id : t'.id = t.id
  holder : t'.userId = t.userId ∧ t'.playerId = t.playerId ∧ t'.reservationId = t.reservationId
  room : t'.gameSessionId = t.gameSessionId ∧ t'.roomId = t.roomId
  consumed : t.consumption ≠ none → t' = t

theorem TicketRow.Kept.refl (t : TicketRow) : t.Kept t :=
  ⟨rfl, ⟨rfl, rfl, rfl⟩, ⟨rfl, rfl⟩, fun _ => rfl⟩

theorem TicketRow.Kept.trans {t t' t'' : TicketRow} (h : t.Kept t') (h' : t'.Kept t'') :
    t.Kept t'' where
  id := h'.id.trans h.id
  holder := ⟨h'.holder.1.trans h.holder.1, h'.holder.2.1.trans h.holder.2.1,
    h'.holder.2.2.trans h.holder.2.2⟩
  room := ⟨h'.room.1.trans h.room.1, h'.room.2.trans h.room.2⟩
  consumed hused := by
    have heq := h.consumed hused
    rw [h'.consumed (heq ▸ hused), heq]

/-- Tickets stay, a seat is given with a new reservation only, and none is opened again. -/
structure Continues (s s' : Seating) : Prop where
  ticket : ∀ t ∈ s.tickets, ∃ t' ∈ s'.tickets, t.Kept t'
  seat : ∀ seat ∈ s'.players, seat ∈ s.players ∨ ∀ r ∈ s.reservations, r.id ≠ seat.reservationId
  reservation : ∀ r' ∈ s'.reservations, r'.status = .reserved →
    r' ∈ s.reservations ∨ ∀ r ∈ s.reservations, r.id ≠ r'.id
  stays : ∀ r ∈ s.reservations, ∃ r' ∈ s'.reservations, r'.id = r.id

instance : Std.Refl Continues :=
  ⟨fun _ => ⟨fun t ht => ⟨t, ht, .refl t⟩, fun _ => .inl, fun _ hr _ => .inl hr,
    fun r hr => ⟨r, hr, rfl⟩⟩⟩

instance : IsTrans Seating Continues := by
  refine ⟨fun a b c h h' => ⟨fun t ht => ?_, fun seat hseat => ?_, fun r'' hr'' hopen => ?_,
    fun r hr => ?_⟩⟩
  · obtain ⟨t', ht', hkept⟩ := h.ticket t ht
    obtain ⟨t'', ht'', hkept'⟩ := h'.ticket t' ht'
    exact ⟨t'', ht'', hkept.trans hkept'⟩
  · refine (h'.seat seat hseat).elim (h.seat seat) fun hnew => .inr fun r hr hid => ?_
    obtain ⟨r', hr', hid'⟩ := h.stays r hr
    exact hnew r' hr' (hid'.trans hid)
  · refine (h'.reservation r'' hr'' hopen).elim (h.reservation r'' · hopen) fun hnew =>
      .inr fun r hr hid => ?_
    obtain ⟨r', hr', hid'⟩ := h.stays r hr
    exact hnew r' hr' (hid'.trans hid)
  · obtain ⟨r', hr', hid⟩ := h.stays r hr
    obtain ⟨r'', hr'', hid'⟩ := h'.stays r' hr'
    exact ⟨r'', hr'', hid'.trans hid⟩

/-- Rewriting tickets that are not consumed. -/
theorem kept_updateWhere {p : TicketRow → Prop} [DecidablePred p] {f : TicketRow → TicketRow}
    {tickets : List TicketRow} (hf : KeepsBinding f)
    (hunused : ∀ t ∈ tickets, p t → t.consumption = none) :
    ∀ t ∈ tickets, ∃ t' ∈ updateWhere p f tickets, t.Kept t' := by
  intro t ht
  by_cases hp : p t
  · exact ⟨f t, mem_updateWhere_of ht hp, hf.id t, hf.holder t, hf.room t,
      fun hused => absurd (hunused t ht hp) hused⟩
  · exact ⟨t, mem_updateWhere_of_not ht hp, .refl t⟩

theorem Reissues.kept {userId : String} {logical : LogicalAdmission} {tickets : List TicketRow}
    (h : Reissues digests settings fresh now userId logical s tickets) :
    ∀ t ∈ s.tickets, ∃ t' ∈ tickets, t.Kept t' := by
  cases h with
  | renewed hcurrent hid hunused hall htokens =>
    exact kept_updateWhere ⟨fun _ => rfl, fun _ => ⟨rfl, rfl, rfl⟩, fun _ => ⟨rfl, rfl⟩⟩ hall
  | added => exact fun t ht => ⟨t, List.mem_append_left _ ht, .refl t⟩

theorem kept_expired {p : TicketRow → Prop} [DecidablePred p] {tickets : List TicketRow} :
    ∀ t ∈ tickets, ∃ t' ∈ expired now p tickets, t.Kept t' :=
  kept_updateWhere ⟨fun _ => rfl, fun _ => ⟨rfl, rfl, rfl⟩, fun _ => ⟨rfl, rfl⟩⟩ fun _ _ h => h.2

theorem Closes.continues {ids : List String} {status : ReservationStatus} {operationId : String}
    {rs rs' : List ReservationRow} (hstatus : status ≠ .reserved)
    (h : Closes ids status operationId now rs rs') :
    (∀ r' ∈ rs', r'.status = .reserved → r' ∈ rs ∨ ∀ r ∈ rs, r.id ≠ r'.id) ∧
      ∀ r ∈ rs, ∃ r' ∈ rs', r'.id = r.id := by
  refine ⟨fun r' hr' hopen => .inl (h.of_reserved hstatus hr' hopen), fun r hr => ?_⟩
  obtain ⟨r', hr', hrow⟩ := h.after hr
  exact ⟨r', hr', hrow.same.1⟩

theorem SeatStep.continues (h : SeatStep digests settings fresh now s s') : Continues s s' := by
  cases h with
  | entered => exact { Std.Refl.refl (r := Continues) s with }
  | moved => exact { Std.Refl.refl (r := Continues) s with }
  | @admitted sessions reservation seat intent ticket operation logical hopens h =>
    refine ⟨fun t ht => ⟨t, List.mem_append_left _ ht, .refl t⟩, fun other hother => ?_,
      fun r' hr' hopen => ?_, fun r hr => ⟨r, List.mem_append_left _ hr, rfl⟩⟩
    · refine (List.mem_append.1 hother).imp_right fun hnew r hr => ?_
      rw [List.mem_singleton.1 hnew, h.seatFor.1]
      exact h.reservationId r hr
    · refine (List.mem_append.1 hr').imp_right fun hnew r hr => ?_
      rw [List.mem_singleton.1 hnew]
      exact h.reservationId r hr
  | reissued hnames hreservation hreissues =>
    exact { Std.Refl.refl (r := Continues) s with ticket := hreissues.kept }
  | used =>
    exact { Std.Refl.refl (r := Continues) s with
      ticket := kept_updateWhere ⟨fun _ => rfl, fun _ => ⟨rfl, rfl, rfl⟩, fun _ => ⟨rfl, rfl⟩⟩
        fun _ _ h => h.2 }
  | reused => exact { Std.Refl.refl (r := Continues) s with }
  | left hsession hmem hopen hcloses =>
    obtain ⟨hreservation, hstays⟩ := hcloses.continues (by decide)
    exact ⟨kept_expired, fun seat hseat => .inl (List.mem_of_mem_filter hseat), hreservation, hstays⟩
  | cancelled hsession hf hids hcloses =>
    obtain ⟨hreservation, hstays⟩ := hcloses.continues (by decide)
    exact ⟨kept_expired, fun seat hseat => .inl (List.mem_of_mem_filter hseat), hreservation, hstays⟩
  | finished hsession hf hids hstatus hcloses =>
    obtain ⟨hreservation, hstays⟩ := hcloses.continues hstatus
    exact ⟨fun t ht => ⟨t, ht, .refl t⟩, fun _ => .inl, hreservation, hstays⟩

/-- A consumed ticket stays as it is. -/
theorem Continues.consumed (h : Continues s s') (hmem : ticket ∈ s.tickets)
    (hused : ticket.consumption ≠ none) : ticket ∈ s'.tickets := by
  obtain ⟨t', ht', hkept⟩ := h.ticket ticket hmem
  rwa [← hkept.consumed hused]

/-- The seat for a ticket is the one that it was issued for. -/
theorem Continues.seat_before (h : Continues s s') (hs : Seated s) (hmem : ticket ∈ s.tickets)
    {seat : PlayerRow} (hseat : seat ∈ s'.players)
    (hid : seat.reservationId = ticket.reservationId) : seat ∈ s.players := by
  obtain ⟨r, hr, hfor⟩ := hs.ofTicket ticket hmem
  exact (h.seat seat hseat).resolve_right fun hnew => hnew r hr (hfor.1.symm.trans hid.symm)

/-! ### Tokens -/

/-- Every token that is not drawn in the step belongs to the ticket it belonged to. -/
theorem SeatStep.token (h : SeatStep digests settings fresh now s s') {row : TicketRow}
    (hrow : row ∈ s'.tickets) : (∃ old ∈ s.tickets, old.id = row.id ∧ old.tokenHash = row.tokenHash) ∨
      row.tokenHash = digests.tokenHash fresh.ticket := by
  have hsame : ∀ {p : TicketRow → Prop} [DecidablePred p] {f : TicketRow → TicketRow},
      row ∈ updateWhere p f s.tickets → (∀ t, (f t).id = t.id) →
      (∀ t, (f t).tokenHash = t.tokenHash) → ∃ old ∈ s.tickets, old.id = row.id ∧
        old.tokenHash = row.tokenHash := by
    intro p _ f hmem hid htoken
    obtain ⟨old, hold, rfl⟩ := mem_updateWhere.1 hmem
    refine ⟨old, hold, ?_⟩
    split_ifs
    · exact ⟨(hid old).symm, (htoken old).symm⟩
    · exact ⟨rfl, rfl⟩
  cases h with
  | entered | moved | reused | finished => exact .inl ⟨row, hrow, rfl, rfl⟩
  | admitted hopens h =>
    rcases List.mem_append.1 hrow with hold | hnew
    · exact .inl ⟨row, hold, rfl, rfl⟩
    · rw [List.mem_singleton.1 hnew]
      exact .inr h.token
  | reissued hnames hreservation hreissues =>
    cases hreissues with
    | renewed =>
      obtain ⟨old, hold, rfl⟩ := mem_updateWhere.1 hrow
      split_ifs
      · exact .inr rfl
      · exact .inl ⟨old, hold, rfl, rfl⟩
    | added =>
      rcases List.mem_append.1 hrow with hold | hnew
      · exact .inl ⟨row, hold, rfl, rfl⟩
      · rw [List.mem_singleton.1 hnew]
        exact .inr rfl
  | used | left | cancelled => exact .inl (hsame hrow (fun _ => rfl) fun _ => rfl)

/-! ### Responses that are kept -/

/-- The response of an operation is that of a consumed ticket, with the token of its request. -/
structure RecordedFor (digests : Digests) (s : Seating) (operation : OperationRow)
    (response : TicketConsumeResponse) (request : TicketConsumeRequest) (ticket : TicketRow) :
    Prop where
  requestHash : operation.requestHash = digests.requestHash (.consumeTicket request)
  mem : ticket ∈ s.tickets
  tokenHash : ticket.tokenHash = digests.tokenHash request.ticket
  consumed : ticket.consumption ≠ none
  response : ∃ seatIndex reused, response = ticketResponse ticket seatIndex reused ∧
    ∀ seat ∈ s.players, seat.reservationId = ticket.reservationId → seat.seatIndex = seatIndex

def Recorded (digests : Digests) (s : Seating) : Prop :=
  ∀ operation ∈ s.operations, ∀ response, operation.responseSnapshot = some (.ticket response) →
    ∃ request ticket, RecordedFor digests s operation response request ticket

theorem RecordedFor.continues {operation : OperationRow} {response : TicketConsumeResponse}
    {request : TicketConsumeRequest} (h : RecordedFor digests s operation response request ticket)
    (hs : Seated s) (hcontinues : Continues s s') :
    RecordedFor digests s' operation response request ticket := by
  obtain ⟨seatIndex, reused, hresponse, hseats⟩ := h.response
  exact { h with
    mem := hcontinues.consumed h.mem h.consumed
    response := ⟨seatIndex, reused, hresponse, fun seat hseat hid =>
      hseats seat (hcontinues.seat_before hs h.mem hseat hid) hid⟩ }

theorem Recorded.append (h : Recorded digests s) (hs : Seated s) (hcontinues : Continues s s')
    {rows : List OperationRow} (hoperations : s'.operations = s.operations ++ rows)
    (hrows : ∀ row ∈ rows, ∀ response, row.responseSnapshot = some (.ticket response) →
      ∃ request ticket, RecordedFor digests s' row response request ticket) :
    Recorded digests s' := by
  intro operation hmem response hresponse
  rw [hoperations] at hmem
  rcases List.mem_append.1 hmem with hold | hnew
  · obtain ⟨request, ticket, hrecorded⟩ := h operation hold response hresponse
    exact ⟨request, ticket, hrecorded.continues hs hcontinues⟩
  · exact hrows operation hnew response hresponse

theorem SeatStep.recorded (h : SeatStep digests settings fresh now s s') (hs : Seated s)
    (hrecorded : Recorded digests s) : Recorded digests s' := by
  have hcontinues := h.continues
  cases h with
  | entered hrows =>
    exact hrecorded.append hs hcontinues rfl fun row hrow response hresponse =>
      absurd hresponse ((hrows row hrow).2 response)
  | moved hlifecycle hf hfrom hrows =>
    exact hrecorded.append hs hcontinues rfl fun row hrow response hresponse =>
      absurd hresponse ((hrows row hrow).2 response)
  | admitted hopens h hoperation =>
    refine hrecorded.append hs hcontinues rfl fun row hrow response hresponse => ?_
    rw [List.mem_singleton.1 hrow, hoperation] at hresponse
    cases hresponse
  | reissued hnames hreservation hreissues hrows =>
    refine hrecorded.append hs hcontinues rfl fun row hrow response hresponse => ?_
    rw [hrows row hrow] at hresponse
    cases hresponse
  | @used request idempotencyKey ticket seat usedAt husable hunused hseat =>
    refine hrecorded.append hs hcontinues rfl fun row hrow response hresponse => ?_
    rw [List.mem_singleton.1 hrow] at hresponse ⊢
    obtain rfl := ResponseSnapshot.ticket.inj (Option.some.inj hresponse)
    refine ⟨request, { ticket with consumption := some ⟨usedAt, request.roomInstanceId⟩ }, rfl,
      mem_updateWhere_of husable.mem ⟨rfl, hunused⟩, husable.tokenHash, Option.some_ne_none _,
      seat.seatIndex, false, rfl, fun other hother hid => ?_⟩
    rw [eq_of_key_eq hs.keys.seats hseat.1 hother (hid.trans hseat.2.2.2.2.2.symm)]
  | @reused request idempotencyKey ticket seat husable hused hseat =>
    refine hrecorded.append hs hcontinues rfl fun row hrow response hresponse => ?_
    rw [List.mem_singleton.1 hrow] at hresponse ⊢
    obtain rfl := ResponseSnapshot.ticket.inj (Option.some.inj hresponse)
    refine ⟨request, ticket, rfl, husable.mem, husable.tokenHash, hused, seat.seatIndex, true, rfl,
      fun other hother hid => ?_⟩
    rw [eq_of_key_eq hs.keys.seats hseat.1 hother (hid.trans hseat.2.2.2.2.2.symm)]
  | left hsession hmem hopen hcloses hclosed hrows =>
    exact hrecorded.append hs hcontinues rfl fun row hrow response hresponse =>
      absurd hresponse ((hrows row hrow).2 response)
  | cancelled hsession hf hids hcloses hclosed hrows =>
    exact hrecorded.append hs hcontinues rfl fun row hrow response hresponse =>
      absurd hresponse ((hrows row hrow).2 response)
  | finished hsession hf hids hstatus hcloses hclosed hrows =>
    exact hrecorded.append hs hcontinues rfl fun row hrow response hresponse =>
      absurd hresponse ((hrows row hrow).2 response)

/-! ### Runs -/

variable {labels : List SystemLabel} {start mid db db' : Database}

theorem recorded_of_run (hinitial : Initial start)
    (hrun : Run (SystemStep digests settings codec) start labels db) :
    Seated db.seating ∧ Recorded digests db.seating := by
  have hstart : Recorded digests start.seating := by
    have hnone : start.seating.operations = [] := by rw [Database.seating, hinitial.economy]
    intro operation hmem
    rw [hnone] at hmem
    cases hmem
  refine hrun.invariant (I := fun db => Seated db.seating ∧ Recorded digests db.seating) ?_
    ⟨hinitial.seated, hstart⟩
  rintro db label db' ⟨hs, hrecorded⟩ h
  refine ⟨h.seated hs, ?_⟩
  obtain heq | ⟨call, fresh, now, -, hstep⟩ := h.seating hs
  · rwa [heq]
  · exact hstep.recorded hs hrecorded

theorem continues_of_run (hs : Seated mid.seating)
    (hrun : Run (SystemStep digests settings codec) mid labels db) :
    Continues mid.seating db.seating := by
  refine (hrun.invariant (I := fun db => Seated db.seating ∧ Continues mid.seating db.seating) ?_
    ⟨hs, Std.Refl.refl _⟩).2
  rintro db label db' ⟨hs, hcontinues⟩ h
  refine ⟨h.seated hs, ?_⟩
  obtain heq | ⟨call, fresh, now, -, hstep⟩ := h.seating hs
  · rwa [heq]
  · exact IsTrans.trans _ _ _ hcontinues hstep.continues

/-- No call draws a ticket with this digest. -/
def DrawsOthers (digests : Digests) (tokenHash : String) (labels : List SystemLabel) : Prop :=
  ∀ call fresh now, .call call fresh now ∈ labels → digests.tokenHash fresh.ticket ≠ tokenHash

/-- A token that is not drawn again belongs to the ticket it belonged to. -/
theorem token_of_run {tokenHash : String} (hs : Seated mid.seating)
    (hrun : Run (SystemStep digests settings codec) mid labels db)
    (hdraws : DrawsOthers digests tokenHash labels) {row : TicketRow}
    (hrow : row ∈ db.game.tickets) (htoken : row.tokenHash = tokenHash) :
    ∃ old ∈ mid.game.tickets, old.id = row.id ∧ old.tokenHash = tokenHash := by
  induction hrun generalizing row with
  | nil => exact ⟨row, hrow, rfl, htoken⟩
  | cons hfirst _ ih =>
    obtain ⟨old, hold, hid, hhash⟩ := ih (hfirst.seated hs)
      (fun call fresh now hmem => hdraws call fresh now (List.mem_cons_of_mem _ hmem)) hrow htoken
    obtain heq | ⟨call, fresh, now, rfl, hstep⟩ := hfirst.seating hs
    · refine ⟨old, ?_, hid, hhash⟩
      show old ∈ Seating.tickets (Database.seating _)
      rwa [← heq]
    · obtain ⟨older, holder, holderId, holderHash⟩ | hdrawn := hstep.token hold
      · exact ⟨older, holder, holderId.trans hid, holderHash.trans hhash⟩
      · exact absurd (hdrawn.symm.trans hhash)
          (hdraws call fresh now (List.mem_cons_self ..))

/-! ### A call that succeeds -/

/-- What is true of a ticket, and of the response of a call that consumes it. -/
structure ConsumedBy (request : TicketConsumeRequest) (now : ℤ) (ticket : TicketRow)
    (seat : PlayerRow) (response : TicketConsumeResponse) (s s' : Seating) : Prop where
  usable : ∃ r ∈ s.reservations, r.id = ticket.reservationId ∧ r.userId = ticket.userId ∧
    r.gameSessionId = ticket.gameSessionId ∧ r.status = .reserved
  unexpired : ticket.consumption = none → now < ticket.expiresAt
  seated : SeatOf s ticket seat
  response : ∃ reused, response = ticketResponse ticket seat.seatIndex reused
  bound : ∀ c, ticket.consumption = some c → c.roomInstance = request.roomInstanceId
  after : ∃ used ∈ s'.tickets, ticket.Kept used ∧ ∃ c, used.consumption = some c ∧
    c.roomInstance = request.roomInstanceId

/-- Requests with the same digest are the same. -/
def SeparatesRequests (digests : Digests) : Prop :=
  ∀ request request', digests.requestHash (.consumeTicket request) =
    digests.requestHash (.consumeTicket request') → request = request'

theorem Consumes.consumedBy {request : TicketConsumeRequest} {idempotencyKey : String}
    {seat : PlayerRow} {response : TicketConsumeResponse} (hrequests : SeparatesRequests digests)
    (hs : Seated s) (hrecorded : Recorded digests s) (husable : Usable digests request ticket s)
    (hseat : SeatOf s ticket seat)
    (h : Consumes digests request idempotencyKey fresh now ticket seat s response s') :
    ConsumedBy request now ticket seat response s s' := by
  cases h with
  | @first usedAt hunused hunexpired =>
    exact {
      usable := husable.reserved
      unexpired := fun _ => hunexpired
      seated := hseat
      response := ⟨false, rfl⟩
      bound := fun c hc => absurd (hunused.symm.trans hc) (by simp)
      after := ⟨{ ticket with consumption := some ⟨usedAt, request.roomInstanceId⟩ },
        mem_updateWhere_of husable.mem ⟨rfl, hunused⟩,
        ⟨rfl, ⟨rfl, rfl, rfl⟩, ⟨rfl, rfl⟩, fun hused => absurd hunused hused⟩, _, rfl, rfl⟩ }
  | again hused hinstance =>
    exact {
      usable := husable.reserved
      unexpired := fun hnone => absurd (hnone.symm.trans hused) (by simp)
      seated := hseat
      response := ⟨true, rfl⟩
      bound := fun c hc => Option.some.inj (hused.symm.trans hc) ▸ hinstance
      after := ⟨ticket, husable.mem, .refl ticket, _, hused, hinstance⟩ }
  | repeated hused hinstance hprior hhash hsnapshot =>
    refine {
      usable := husable.reserved
      unexpired := fun hnone => absurd (hnone.symm.trans hused) (by simp)
      seated := hseat
      response := ?_
      bound := fun c hc => Option.some.inj (hused.symm.trans hc) ▸ hinstance
      after := ⟨ticket, husable.mem, .refl ticket, _, hused, hinstance⟩ }
    -- the response that is kept is for the same token, so for the same ticket
    obtain ⟨request', ticket', hfor⟩ := hrecorded _ hprior _ hsnapshot
    obtain rfl := hrequests _ _ (hhash.symm.trans hfor.requestHash)
    obtain rfl := eq_of_key_eq hs.keys.tokens hfor.mem husable.mem
      (husable.tokenHash.trans hfor.tokenHash.symm)
    obtain ⟨seatIndex, reused, hresponse, hseats⟩ := hfor.response
    exact ⟨reused, by rw [hresponse, hseats seat hseat.1 hseat.2.2.2.2.2]⟩

/-- A call that succeeds, in a state that the API reaches. -/
theorem consumedBy_of_run {request : TicketConsumeRequest} {idempotencyKey : String}
    {response : TicketConsumeResponse} (hrequests : SeparatesRequests digests)
    (hinitial : Initial start) (hrun : Run (SystemStep digests settings codec) start labels db)
    (h : withTransaction (consumeTicket digests request idempotencyKey fresh now) db =
      .ok (response, db')) :
    ∃ ticket seat, Usable digests request ticket db.seating ∧
      ConsumedBy request now ticket seat response db.seating db'.seating := by
  obtain ⟨hs, hrecorded⟩ := recorded_of_run hinitial hrun
  obtain ⟨t, hconsume, -, rfl⟩ := withTransaction_eq_ok.1 h
  obtain ⟨-, ticket, seat, husable, hseat, hconsumes⟩ := consumeTicket_ok hs hconsume
  exact ⟨ticket, seat, husable, hconsumes.consumedBy hrequests hs hrecorded husable hseat⟩

/-- Along every run, from any state `mid` in it to any later one. -/
theorem tickets_admit_once (digests : Digests) (settings : Settings) (codec : Server.Codec)
    (hrequests : SeparatesRequests digests) {before after : List SystemLabel}
    {start mid db : Database} (hinitial : Initial start)
    (hbefore : Run (SystemStep digests settings codec) start before mid)
    (hafter : Run (SystemStep digests settings codec) mid after db) :
    (∀ request idempotencyKey fresh now response db',
      withTransaction (consumeTicket digests request idempotencyKey fresh now) db =
        .ok (response, db') →
      ∃ ticket ∈ db.game.tickets, ticket.tokenHash = digests.tokenHash request.ticket ∧
        ∃ seat, ConsumedBy request now ticket seat response db.seating db'.seating ∧
          ∀ issued ∈ mid.game.tickets, issued.id = ticket.id →
            response = ticketResponse issued seat.seatIndex response.reused ∧
            SeatOf mid.seating issued seat ∧
            ∀ c, issued.consumption = some c → c.roomInstance = request.roomInstanceId) ∧
    (∀ ticket ∈ mid.game.tickets, ticket.consumption ≠ none →
      ∀ other ∈ db.game.tickets, other.id = ticket.id → other = ticket) ∧
    (∀ ticket ∈ mid.game.tickets, DrawsOthers digests ticket.tokenHash after →
      (∃ row ∈ db.game.tickets, row.id = ticket.id ∧ row.tokenHash ≠ ticket.tokenHash) →
      ∀ request idempotencyKey fresh now result,
        digests.tokenHash request.ticket = ticket.tokenHash →
        withTransaction (consumeTicket digests request idempotencyKey fresh now) db ≠
          .ok result) ∧
    ∀ request idempotencyKey fresh now failure db',
      withTransaction (consumeTicket digests request idempotencyKey fresh now) db =
        .error failure →
      SystemStep digests settings codec db (.call (.consumeTicket request idempotencyKey) fresh now)
        db' → db' = db := by
  have hmid := seated_of_run hinitial hbefore
  have hrun := hbefore.append hafter
  have hs := seated_of_run hinitial hrun
  have hcontinues := continues_of_run hmid hafter
  refine ⟨fun request idempotencyKey fresh now response db' h => ?_, fun ticket hticket hused other
    hother hid => ?_, fun ticket hticket hdraws ⟨row, hrow, hid, hreplaced⟩ request idempotencyKey
    fresh now result htoken h => ?_, fun request idempotencyKey fresh now failure db' h hstep => ?_⟩
  · obtain ⟨ticket, seat, husable, hconsumed⟩ := consumedBy_of_run hrequests hinitial hrun h
    refine ⟨ticket, husable.mem, husable.tokenHash, seat, hconsumed, fun issued hissued hid => ?_⟩
    obtain ⟨later, hlater, hkept⟩ := hcontinues.ticket issued hissued
    obtain rfl := eq_of_key_eq hs.keys.tickets hlater husable.mem (hid.symm.trans hkept.id.symm)
    obtain ⟨reused, hresponse⟩ := hconsumed.response
    obtain ⟨hseat, hactive, hgame, huser, hplayer, hreservation⟩ := hconsumed.seated
    refine ⟨?_, ⟨?_, hactive, hgame.trans hkept.room.1, huser.trans hkept.holder.1,
      hplayer.trans hkept.holder.2.1, hreservation.trans hkept.holder.2.2⟩, fun c hc => ?_⟩
    · rw [hresponse, ticketResponse, ticketResponse, hkept.holder.1, hkept.holder.2.1,
        hkept.holder.2.2, hkept.room.1, hkept.room.2]
    · exact hcontinues.seat_before hmid hissued hseat (hreservation.trans hkept.holder.2.2)
    · have heq := hkept.consumed (hc ▸ Option.some_ne_none c)
      exact hconsumed.bound c (heq ▸ hc)
  · exact eq_of_key_eq hs.keys.tickets (hcontinues.consumed hticket hused) hother hid
  · obtain ⟨response, db'⟩ := result
    obtain ⟨used, seat, husable, -⟩ := consumedBy_of_run hrequests hinitial hrun h
    obtain ⟨old, hold, holdId, holdHash⟩ :=
      token_of_run hmid hafter hdraws husable.mem (husable.tokenHash.trans htoken)
    have hold := eq_of_key_eq hmid.keys.tokens hticket hold holdHash
    rw [hold] at holdId
    obtain rfl := eq_of_key_eq hs.keys.tickets husable.mem hrow (hid.trans holdId)
    exact hreplaced (husable.tokenHash.trans htoken)
  · cases hstep with
    | committed hcommit =>
      obtain ⟨response, hok⟩ := withTransaction_discard.1 hcommit
      rw [h] at hok
      cases hok
    | rolledBack => rfl

theorem plainDigests_separatesRequests : SeparatesRequests plainDigests := by
  rintro ⟨ticket, gameId, roomId, roomInstanceId⟩ ⟨ticket', gameId', roomId', roomInstanceId'⟩ h
  simpa using CanonicalJson.render_injective (String.ofList_injective h)

/-- Bob enters with his ticket, for a room instance. -/
def bobEnters (roomInstanceId : String) (now : ℤ) : List (ApiCall × String × ℤ) :=
  [(.consumeTicket ⟨"bob's ticket", "game", "room", roomInstanceId⟩ roomInstanceId,
    roomInstanceId, now)]

/-- The first instance admits bob to his seat, and his ticket stays with it. -/
theorem tickets_admit_once_bob :
    (∃ ticket ∈ seatedDatabase.game.tickets, ticket.tokenHash = "bob's ticket" ∧
      ∃ seat, SeatOf seatedDatabase.seating ticket seat) ∧
    ∀ other ∈ (afterCalls (bobEnters "two" 1005)
        (afterCalls (bobEnters "one" 1004) seatedDatabase)).game.tickets,
      other.id = "bob's ticket row" → other.consumption = some ⟨1004, "one"⟩ := by
  have hbefore := run_afterCalls plainCodec aliceAndBob emptyDatabase
  have hduring := run_afterCalls plainCodec (bobEnters "one" 1004) seatedDatabase
  obtain ⟨hadmits, -⟩ := tickets_admit_once plainDigests shortSettings plainCodec
    plainDigests_separatesRequests emptyDatabase_initial hbefore (.nil seatedDatabase)
  obtain ⟨-, hstays, -⟩ := tickets_admit_once plainDigests shortSettings plainCodec
    plainDigests_separatesRequests emptyDatabase_initial (hbefore.append hduring)
    (run_afterCalls plainCodec (bobEnters "two" 1005) _)
  refine ⟨?_, fun other hother hid => ?_⟩
  · obtain ⟨ticket, hmem, htoken, seat, hconsumed, -⟩ :=
      hadmits ⟨"bob's ticket", "game", "room", "one"⟩ "one" (freshNamed "one") 1004 _ _ rfl
    exact ⟨ticket, hmem, htoken, seat, hconsumed.seated⟩
  · have hused : other = _ := hstays _ (List.mem_cons_of_mem _ (List.mem_singleton_self _))
      (Option.some_ne_none (⟨1004, "one"⟩ : TicketConsumption)) other hother hid
    exact congrArg TicketRow.consumption hused

end Pootown.Api
