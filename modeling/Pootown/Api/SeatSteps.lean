import Mathlib.Tactic
import Pootown.Api.Seating

/-!
# Changes of the seating

Every change of the seating leaves a state in which seats, open reservations and admitted intents
belong together: `SeatStep.seated`, from one lemma for each kind of change.
-/

namespace Pootown.Api

open Tables

variable {s : Seating} {gameId : String} {rows : List OperationRow}

/-! ### Leaving -/

/-- The intents when some are released. -/
theorem mem_intentsMoved_released {p : JoinIntentRow → Prop} [DecidablePred p] {now : ℤ}
    {intents : List JoinIntentRow} {intent : JoinIntentRow}
    (h : intent ∈ intentsMoved now p (fun _ => .released) intents) :
    ∃ old ∈ intents, intent.reservationId = old.reservationId ∧ intent.userId = old.userId ∧
      intent.gameSessionId = old.gameSessionId ∧
      ((p old ∧ intent.status = .released) ∨ (¬ p old ∧ intent = old)) := by
  obtain ⟨old, hold, rfl⟩ := mem_updateWhere.1 h
  refine ⟨old, hold, ?_⟩
  split_ifs with hp
  · exact ⟨rfl, rfl, rfl, .inl ⟨hp, rfl⟩⟩
  · exact ⟨rfl, rfl, rfl, .inr ⟨hp, rfl⟩⟩

theorem map_intentsMoved {p : JoinIntentRow → Prop} [DecidablePred p]
    {status : JoinIntentStatus → JoinIntentStatus} {now : ℤ} {intents : List JoinIntentRow} :
    (intentsMoved now p status intents).map JoinIntentRow.reservationId =
      intents.map JoinIntentRow.reservationId :=
  map_updateWhere fun _ _ _ => rfl

theorem Seated.leave (hs : Seated s) {reservation : ReservationRow}
    {reservations : List ReservationRow} {operationId : String} {now : ℤ}
    (hsession : SessionIs s reservation.gameSessionId fun session =>
      session.lifecycle = .opened ∧ session.creatorUserId ≠ reservation.userId)
    (hmem : reservation ∈ s.reservations)
    (hcloses : Closes [reservation.id] .released operationId now s.reservations reservations)
    (hclosed : ∀ r ∈ reservations, r.id = reservation.id → r.status ≠ .reserved) :
    Seated { s with
      players := s.players.filter fun row => ¬ row.reservationId = reservation.id
      reservations := reservations
      joinIntents := intentsMoved now (fun row => row.reservationId = reservation.id)
        (fun _ => .released) s.joinIntents } := by
  have hstay : ∀ seat, seat ∈ s.players.filter (fun row => ¬ row.reservationId = reservation.id) ↔
      seat ∈ s.players ∧ seat.reservationId ≠ reservation.id := by
    intro seat
    simp
  have hother : ∀ r ∈ reservations, r.status = .reserved →
      r ∈ s.reservations ∧ r.id ≠ reservation.id := fun r hr hopen =>
    ⟨hcloses.of_reserved (by decide) hr hopen, fun hid => hclosed r hr hid hopen⟩
  have hkeep : ∀ r ∈ s.reservations, r.id ≠ reservation.id → r ∈ reservations := fun r hr hid =>
    hcloses.mem_of_notMem hr fun hids => hid (List.mem_singleton.1 hids)
  refine {
    keys := { hs.keys with
      reservations := hcloses.map_id ▸ hs.keys.reservations
      seats := hs.keys.seats.sublist (List.filter_sublist.map _)
      intents := by
        rw [map_intentsMoved]
        exact hs.keys.intents
      users := hs.keys.users.filter _
      seatIndexes := hs.keys.seatIndexes.filter _ }
    lifecycle := hs.lifecycle
    seat := ?_
    intent := ?_
    ofSeat := ?_
    ofIntent := ?_
    ofTicket := ?_
    ofReservation := ?_
    capacity := fun seat hseat => hs.capacity seat ((hstay seat).1 hseat).1
    creator := ?_
    closed := ?_
    ticketSeat := fun ticket hticket seat hseat =>
      hs.ticketSeat ticket hticket seat ((hstay seat).1 hseat).1
    oneUnused := hs.oneUnused
    named := ?_ }
  · intro r hr hopen
    obtain ⟨hold, hid⟩ := hother r hr hopen
    obtain ⟨seat, hseat, hactive, hfor⟩ := hs.seat r hold hopen
    exact ⟨seat, (hstay seat).2 ⟨hseat, hfor.1 ▸ hid⟩, hactive, hfor⟩
  · intro r hr hopen
    obtain ⟨hold, hid⟩ := hother r hr hopen
    obtain ⟨intent, hintent, hadmitted, hfor⟩ := hs.intent r hold hopen
    exact ⟨intent, mem_updateWhere_of_not hintent (hfor.1 ▸ hid), hadmitted, hfor⟩
  · intro seat hseat
    obtain ⟨hold, hid⟩ := (hstay seat).1 hseat
    obtain ⟨hactive, r, hr, hfor, hheld⟩ := hs.ofSeat seat hold
    exact ⟨hactive, r, hkeep r hr (hfor.1 ▸ hid), hfor, hheld⟩
  · intro intent hintent
    obtain ⟨old, hold, hreservation, huser, hgame, hcase⟩ := mem_intentsMoved_released hintent
    obtain ⟨hpending, r, hr, hfor, hheld⟩ := hs.ofIntent old hold
    obtain ⟨-, hreleased⟩ | ⟨hid, rfl⟩ := hcase
    · obtain ⟨r', hr', hrow⟩ := hcloses.after hr
      have hfor' : IntentFor r intent :=
        ⟨hreservation.trans hfor.1, huser.trans hfor.2.1, hgame.trans hfor.2.2⟩
      refine ⟨fun h => ?_, r', hr', hfor'.closed hrow, fun h => ?_⟩ <;>
        exact absurd (hreleased.symm.trans h) (by decide)
    · exact ⟨hpending, r, hkeep r hr (hfor.1 ▸ hid), hfor, hheld⟩
  · intro ticket hticket
    obtain ⟨r, hr, hfor⟩ := hs.ofTicket ticket hticket
    obtain ⟨r', hr', hrow⟩ := hcloses.after hr
    exact ⟨r', hr', hfor.closed hrow⟩
  · intro r' hr'
    obtain ⟨r, hr, hrow⟩ := hcloses.before hr'
    rw [hrow.same.2.2]
    exact hs.ofReservation r hr
  · intro session hmemSession hlifecycle
    obtain ⟨seat, hseat, hgame, huser, hindex⟩ := hs.creator session hmemSession hlifecycle
    refine ⟨seat, (hstay seat).2 ⟨hseat, fun hid => ?_⟩, hgame, huser, hindex⟩
    -- the seat of the creator is not the one that is given up
    obtain ⟨-, r, hr, hfor, -⟩ := hs.ofSeat seat hseat
    have hreservation := eq_of_key_eq hs.keys.reservations hmem hr (hfor.1.symm.trans hid)
    rw [hreservation] at hfor
    exact (hsession.of_mem hs hmemSession (hgame.symm.trans hfor.2.2)).2
      (huser.symm.trans hfor.2.1)
  · intro session hmemSession hlifecycle r hr hgame hopen
    exact hs.closed session hmemSession hlifecycle r (hother r hr hopen).1 hgame hopen
  · intro operation hoperation logical hlogical
    obtain ⟨⟨r, hr, hid, hgame⟩, hseats⟩ := hs.named operation hoperation logical hlogical
    obtain ⟨r', hr', hrow⟩ := hcloses.after hr
    exact ⟨⟨r', hr', hrow.same.1.trans hid, hrow.same.2.2.trans hgame⟩,
      fun seat hseat => hseats seat ((hstay seat).1 hseat).1⟩

/-! ### Sessions that move on -/

section Moving

variable {lifecycle : SessionLifecycle} {f : SessionRow → SessionRow} {sessions : List SessionRow}
  {row : SessionRow}

theorem MovesTo.before (hf : MovesTo lifecycle f)
    (h : row ∈ updateWhere (fun row => row.id = gameId) f sessions) :
    ∃ old ∈ sessions, row.id = old.id ∧ row.creatorUserId = old.creatorUserId ∧
      row.maximumPlayers = old.maximumPlayers ∧
      ((old.id = gameId ∧ row.lifecycle = lifecycle) ∨ (old.id ≠ gameId ∧ row = old)) := by
  obtain ⟨old, hold, rfl⟩ := mem_updateWhere.1 h
  refine ⟨old, hold, ?_⟩
  split_ifs with hid
  · exact ⟨hf.id old, hf.creatorUserId old, hf.maximumPlayers old, .inl ⟨hid, hf.lifecycle old⟩⟩
  · exact ⟨rfl, rfl, rfl, .inr ⟨hid, rfl⟩⟩

theorem MovesTo.map_id (hf : MovesTo lifecycle f) :
    (updateWhere (fun row => row.id = gameId) f sessions).map SessionRow.id =
      sessions.map SessionRow.id :=
  map_updateWhere fun row _ _ => hf.id row

/-- A session is found where it was, and if it is not the one that moves, as it was. -/
theorem MovesTo.after (hf : MovesTo lifecycle f) (h : row ∈ sessions) :
    ∃ new ∈ updateWhere (fun row => row.id = gameId) f sessions, new.id = row.id ∧
      new.maximumPlayers = row.maximumPlayers ∧
      ((row.id = gameId ∧ new.lifecycle = lifecycle) ∨ (row.id ≠ gameId ∧ new = row)) := by
  by_cases hid : row.id = gameId
  · exact ⟨f row, mem_updateWhere_of h hid, hf.id row, hf.maximumPlayers row,
      .inl ⟨hid, hf.lifecycle row⟩⟩
  · exact ⟨row, mem_updateWhere_of_not h hid, rfl, rfl, .inr ⟨hid, rfl⟩⟩

/-- The other sessions stay. -/
theorem MovesTo.sessionIs (hf : MovesTo lifecycle f) {p : SessionRow → Prop} {otherId : String}
    (hne : otherId ≠ gameId) (h : SessionIs s otherId p) {s' : Seating}
    (hs' : s'.sessions = updateWhere (fun row => row.id = gameId) f s.sessions := by rfl) :
    SessionIs s' otherId p := by
  obtain ⟨session, hmem, hid, hp⟩ := h
  obtain ⟨new, hnew, -, -, ⟨hgame, -⟩ | ⟨-, rfl⟩⟩ := @MovesTo.after gameId _ f _ _ hf hmem
  · exact absurd (hid.symm.trans hgame) hne
  · exact ⟨new, hs' ▸ hnew, hid, hp⟩

end Moving

/-- A session moves on while its seats stay, and its reservations are closed if it is settled. -/
theorem Seated.move (hs : Seated s) {lifecycle : SessionLifecycle} {f : SessionRow → SessionRow}
    {ids : List String} {status : ReservationStatus} {reservations : List ReservationRow}
    {operationId : String} {now : ℤ} (hf : MovesTo lifecycle f)
    (hrest : lifecycle = .active ∨ lifecycle = .recoveryRequired ∨ lifecycle = .settled)
    (hfrom : ∀ row ∈ s.sessions, row.id = gameId → row.lifecycle ≠ .cancelled)
    (hsettled : lifecycle ≠ .settled → ids = [] ∧
      ∀ row ∈ s.sessions, row.id = gameId → row.lifecycle ≠ .settled)
    (hids : ∀ r ∈ s.reservations, r.id ∈ ids → r.gameSessionId = gameId)
    (hstatus : status ≠ .reserved)
    (hcloses : Closes ids status operationId now s.reservations reservations)
    (hclosed : lifecycle = .settled →
      ∀ r ∈ reservations, r.gameSessionId = gameId → r.status ≠ .reserved) :
    Seated { s with
      sessions := updateWhere (fun row => row.id = gameId) f s.sessions
      reservations := reservations } := by
  set s' : Seating := { s with
    sessions := updateWhere (fun row => row.id = gameId) f s.sessions
    reservations := reservations }
  have hheld : ∀ r ∈ s.reservations, Held s r → ∃ r' ∈ reservations,
      ClosedAs ids status operationId now r r' ∧ Held s' r' := by
    intro r hr hheld
    obtain ⟨r', hr', hrow⟩ := hcloses.after hr
    refine ⟨r', hr', hrow, ?_⟩
    have hsame := hrow.same.2.2
    have hstill : SessionIs s r.gameSessionId (·.lifecycle = .settled) → Held s' r' := by
      rintro ⟨session, hmem, hid, hlifecycle⟩
      obtain ⟨new, hnew, hnewId, -, hcase⟩ := @MovesTo.after gameId _ f _ _ hf hmem
      refine .inr ⟨new, hnew, hnewId.trans (hid.trans hsame.symm), ?_⟩
      obtain ⟨hgame, hmoved⟩ | ⟨-, rfl⟩ := hcase
      · by_contra hne
        exact (hsettled (hmoved ▸ hne)).2 session hmem hgame hlifecycle
      · exact hlifecycle
    obtain rfl | ⟨hid, -, rfl⟩ := hrow
    · exact hheld.elim .inl hstill
    · -- what is closed belongs to the session, which is then settled
      have hlifecycle : lifecycle = .settled := by
        by_contra hne
        rw [(hsettled hne).1] at hid
        cases hid
      obtain ⟨session, hmem, hsession, -⟩ := hs.ofReservation r hr
      obtain ⟨new, hnew, hnewId, -, hcase⟩ := @MovesTo.after gameId _ f _ _ hf hmem
      obtain ⟨-, hmoved⟩ | ⟨hne, -⟩ := hcase
      · exact .inr ⟨new, hnew, hnewId.trans (hsession.trans hsame.symm), hmoved.trans hlifecycle⟩
      · exact absurd (hsession.trans (hids r hr hid)) hne
  refine {
    keys := { hs.keys with
      sessions := by
        rw [hf.map_id]
        exact hs.keys.sessions
      reservations := hcloses.map_id ▸ hs.keys.reservations }
    lifecycle := ?_
    seat := fun r hr hopen => hs.seat r (hcloses.of_reserved hstatus hr hopen) hopen
    intent := fun r hr hopen => hs.intent r (hcloses.of_reserved hstatus hr hopen) hopen
    ofSeat := ?_
    ofIntent := ?_
    ofTicket := ?_
    ofReservation := ?_
    capacity := ?_
    creator := ?_
    closed := ?_
    ticketSeat := hs.ticketSeat
    oneUnused := hs.oneUnused
    named := ?_ }
  · intro session hmem
    obtain ⟨old, hold, -, -, -, ⟨-, hmoved⟩ | ⟨-, rfl⟩⟩ := hf.before hmem
    · rw [hmoved]
      rcases hrest with rfl | rfl | rfl <;> decide
    · exact hs.lifecycle session hold
  · intro seat hseat
    obtain ⟨hactive, r, hr, hfor, hh⟩ := hs.ofSeat seat hseat
    obtain ⟨r', hr', hrow, hh'⟩ := hheld r hr hh
    exact ⟨hactive, r', hr', hfor.closed hrow, hh'⟩
  · intro intent hintent
    obtain ⟨hpending, r, hr, hfor, hh⟩ := hs.ofIntent intent hintent
    by_cases hadmitted : intent.status = .admitted
    · obtain ⟨r', hr', hrow, hh'⟩ := hheld r hr (hh hadmitted)
      exact ⟨hpending, r', hr', hfor.closed hrow, fun _ => hh'⟩
    · obtain ⟨r', hr', hrow⟩ := hcloses.after hr
      exact ⟨hpending, r', hr', hfor.closed hrow, fun h => absurd h hadmitted⟩
  · intro ticket hticket
    obtain ⟨r, hr, hfor⟩ := hs.ofTicket ticket hticket
    obtain ⟨r', hr', hrow⟩ := hcloses.after hr
    exact ⟨r', hr', hfor.closed hrow⟩
  · intro r' hr'
    obtain ⟨r, hr, hrow⟩ := hcloses.before hr'
    obtain ⟨session, hmem, hid, -⟩ := hs.ofReservation r hr
    obtain ⟨new, hnew, hnewId, -, -⟩ := @MovesTo.after gameId _ f _ _ hf hmem
    exact ⟨new, hnew, hnewId.trans (hid.trans hrow.same.2.2.symm), trivial⟩
  · intro seat hseat
    obtain ⟨session, hmem, hid, hindex⟩ := hs.capacity seat hseat
    obtain ⟨new, hnew, hnewId, hmaximum, -⟩ := @MovesTo.after gameId _ f _ _ hf hmem
    exact ⟨new, hnew, hnewId.trans hid, lt_of_lt_of_eq hindex hmaximum.symm⟩
  · intro session hmem hlifecycle
    obtain ⟨old, hold, hid, hcreator, -, hcase⟩ := hf.before hmem
    rw [hid, hcreator]
    refine hs.creator old hold ?_
    obtain ⟨hgame, -⟩ | ⟨-, rfl⟩ := hcase
    · exact hfrom old hold hgame
    · exact hlifecycle
  · intro session hmem hlifecycle r hr hgame hopen
    obtain ⟨old, hold, hid, -, -, ⟨hgameId, hmoved⟩ | ⟨-, rfl⟩⟩ := hf.before hmem
    · refine hclosed ?_ r hr (hgame.trans (hid.trans hgameId)) hopen
      rw [hmoved] at hlifecycle
      rcases hrest with rfl | rfl | rfl
      · exact absurd hlifecycle (by decide)
      · exact absurd hlifecycle (by decide)
      · rfl
    · exact hs.closed session hold hlifecycle r (hcloses.of_reserved hstatus hr hopen) hgame hopen
  · intro operation hoperation logical hlogical
    obtain ⟨⟨r, hr, hid, hgame⟩, hseats⟩ := hs.named operation hoperation logical hlogical
    obtain ⟨r', hr', hrow⟩ := hcloses.after hr
    exact ⟨⟨r', hr', hrow.same.1.trans hid, hrow.same.2.2.trans hgame⟩, hseats⟩

/-! ### Cancelling -/

theorem Seated.cancel (hs : Seated s) {f : SessionRow → SessionRow} {ids : List String}
    {reservations : List ReservationRow} {operationId : String} {now : ℤ}
    (hf : MovesTo .cancelled f) (hids : OpenIn s gameId ids)
    (hcloses : Closes ids .released operationId now s.reservations reservations)
    (hclosed : ∀ r ∈ reservations, r.gameSessionId = gameId → r.status ≠ .reserved) :
    Seated { s with
      sessions := updateWhere (fun row => row.id = gameId) f s.sessions
      players := s.players.filter fun row => ¬ row.gameSessionId = gameId
      reservations := reservations
      joinIntents := intentsMoved now
        (fun row => row.gameSessionId = gameId ∧ (row.status = .pending ∨ row.status = .admitted))
        (fun _ => .released) s.joinIntents } := by
  have hstay : ∀ seat, seat ∈ s.players.filter (fun row => ¬ row.gameSessionId = gameId) ↔
      seat ∈ s.players ∧ seat.gameSessionId ≠ gameId := by
    intro seat
    simp
  have hother : ∀ r ∈ reservations, r.status = .reserved →
      r ∈ s.reservations ∧ r.gameSessionId ≠ gameId := fun r hr hopen =>
    ⟨hcloses.of_reserved (by decide) hr hopen, fun hid => hclosed r hr hid hopen⟩
  have hkeep : ∀ r ∈ s.reservations, r.gameSessionId ≠ gameId → r ∈ reservations :=
    fun r hr hgame => hcloses.mem_of_notMem hr fun hid => hgame (hids.session_eq hs hr hid)
  refine {
    keys := { hs.keys with
      sessions := by
        rw [hf.map_id]
        exact hs.keys.sessions
      reservations := hcloses.map_id ▸ hs.keys.reservations
      seats := hs.keys.seats.sublist (List.filter_sublist.map _)
      intents := by
        rw [map_intentsMoved]
        exact hs.keys.intents
      users := hs.keys.users.filter _
      seatIndexes := hs.keys.seatIndexes.filter _ }
    lifecycle := ?_
    seat := ?_
    intent := ?_
    ofSeat := ?_
    ofIntent := ?_
    ofTicket := ?_
    ofReservation := ?_
    capacity := ?_
    creator := ?_
    closed := ?_
    ticketSeat := fun ticket hticket seat hseat =>
      hs.ticketSeat ticket hticket seat ((hstay seat).1 hseat).1
    oneUnused := hs.oneUnused
    named := ?_ }
  · intro session hmem
    obtain ⟨old, hold, -, -, -, ⟨-, hmoved⟩ | ⟨-, rfl⟩⟩ := hf.before hmem
    · rw [hmoved]
      decide
    · exact hs.lifecycle session hold
  · intro r hr hopen
    obtain ⟨hold, hgame⟩ := hother r hr hopen
    obtain ⟨seat, hseat, hactive, hfor⟩ := hs.seat r hold hopen
    exact ⟨seat, (hstay seat).2 ⟨hseat, hfor.2.2 ▸ hgame⟩, hactive, hfor⟩
  · intro r hr hopen
    obtain ⟨hold, hgame⟩ := hother r hr hopen
    obtain ⟨intent, hintent, hadmitted, hfor⟩ := hs.intent r hold hopen
    exact ⟨intent, mem_updateWhere_of_not hintent fun h => hgame (hfor.2.2.symm.trans h.1),
      hadmitted, hfor⟩
  · intro seat hseat
    obtain ⟨hold, hgame⟩ := (hstay seat).1 hseat
    obtain ⟨hactive, r, hr, hfor, hheld⟩ := hs.ofSeat seat hold
    rw [hfor.2.2] at hgame
    exact ⟨hactive, r, hkeep r hr hgame, hfor, hheld.imp_right (hf.sessionIs hgame)⟩
  · intro intent hintent
    obtain ⟨old, hold, hreservation, huser, hgame, hcase⟩ := mem_intentsMoved_released hintent
    obtain ⟨hpending, r, hr, hfor, hheld⟩ := hs.ofIntent old hold
    obtain ⟨r', hr', hrow⟩ := hcloses.after hr
    obtain ⟨-, hreleased⟩ | ⟨hnot, rfl⟩ := hcase
    · have hfor' : IntentFor r intent :=
        ⟨hreservation.trans hfor.1, huser.trans hfor.2.1, hgame.trans hfor.2.2⟩
      refine ⟨fun h => ?_, r', hr', hfor'.closed hrow, fun h => ?_⟩ <;>
        exact absurd (hreleased.symm.trans h) (by decide)
    · refine ⟨hpending, r', hr', hfor.closed hrow, fun hadmitted => ?_⟩
      have hne : r.gameSessionId ≠ gameId := fun h =>
        hnot ⟨hfor.2.2.trans h, .inr hadmitted⟩
      rw [hrow.eq_of_notMem fun hid => hne (hids.session_eq hs hr hid)]
      exact (hheld hadmitted).imp_right (hf.sessionIs hne)
  · intro ticket hticket
    obtain ⟨r, hr, hfor⟩ := hs.ofTicket ticket hticket
    obtain ⟨r', hr', hrow⟩ := hcloses.after hr
    exact ⟨r', hr', hfor.closed hrow⟩
  · intro r' hr'
    obtain ⟨r, hr, hrow⟩ := hcloses.before hr'
    obtain ⟨session, hmem, hid, -⟩ := hs.ofReservation r hr
    obtain ⟨new, hnew, hnewId, -, -⟩ := @MovesTo.after gameId _ f _ _ hf hmem
    exact ⟨new, hnew, hnewId.trans (hid.trans hrow.same.2.2.symm), trivial⟩
  · intro seat hseat
    obtain ⟨hold, hgame⟩ := (hstay seat).1 hseat
    exact hf.sessionIs hgame (hs.capacity seat hold)
  · intro session hmem hlifecycle
    obtain ⟨old, hold, -, -, -, ⟨-, hmoved⟩ | ⟨hgame, rfl⟩⟩ := hf.before hmem
    · exact absurd hmoved hlifecycle
    · obtain ⟨seat, hseat, hsession, huser, hindex⟩ := hs.creator session hold hlifecycle
      exact ⟨seat, (hstay seat).2 ⟨hseat, hsession ▸ hgame⟩, hsession, huser, hindex⟩
  · intro session hmem hlifecycle r hr hgame hopen
    obtain ⟨old, hold, hid, -, -, ⟨hgameId, -⟩ | ⟨-, rfl⟩⟩ := hf.before hmem
    · exact hclosed r hr (hgame.trans (hid.trans hgameId)) hopen
    · exact hs.closed session hold hlifecycle r (hother r hr hopen).1 hgame hopen
  · intro operation hoperation logical hlogical
    obtain ⟨⟨r, hr, hid, hgame⟩, hseats⟩ := hs.named operation hoperation logical hlogical
    obtain ⟨r', hr', hrow⟩ := hcloses.after hr
    exact ⟨⟨r', hr', hrow.same.1.trans hid, hrow.same.2.2.trans hgame⟩,
      fun seat hseat => hseats seat ((hstay seat).1 hseat).1⟩

/-! ### Being admitted -/

section Admitting

variable {digests : Digests} {fresh : Fresh} {sessions : List SessionRow}
  {reservation : ReservationRow} {seat : PlayerRow} {intent : JoinIntentRow} {ticket : TicketRow}
  {operation : OperationRow} {logical : LogicalAdmission}

theorem Opens.subset (h : Opens s seat sessions) : s.sessions ⊆ sessions := by
  cases h with
  | already => exact List.Subset.refl _
  | new => exact List.subset_append_left _ _

theorem Opens.nodup (h : Opens s seat sessions) (hs : (s.sessions.map SessionRow.id).Nodup) :
    (sessions.map SessionRow.id).Nodup := by
  cases h with
  | already => exact hs
  | new hid => exact nodup_append_key hs hid

/-- The session of the seat is open, and has room for it. -/
theorem Opens.session (h : Opens s seat sessions) : ∃ session ∈ sessions,
    session.id = seat.gameSessionId ∧ session.lifecycle = .opened ∧
      seat.seatIndex < session.maximumPlayers := by
  cases h with
  | already hmem hid hopen hindex => exact ⟨_, hmem, hid, hopen, hindex⟩
  | @new session hnew hid hopen hcreator hindex htwo =>
    exact ⟨session, List.mem_append_right _ (List.mem_singleton_self _), hid, hopen, by omega⟩

/-- A session is as it was, or it is opened with the seat as that of its creator. -/
theorem Opens.before (h : Opens s seat sessions) {session : SessionRow} (hmem : session ∈ sessions) :
    session ∈ s.sessions ∨ (session.lifecycle = .opened ∧ session.id = seat.gameSessionId ∧
      session.creatorUserId = seat.userId ∧ seat.seatIndex = 0) := by
  cases h with
  | already => exact .inl hmem
  | new hnew hid hopen hcreator hindex =>
    rcases List.mem_append.1 hmem with hold | hlast
    · exact .inl hold
    · rw [List.mem_singleton.1 hlast]
      exact .inr ⟨hopen, hid, hcreator, hindex⟩

theorem Seated.admitted (hs : Seated s) (hopens : Opens s seat sessions)
    (h : Admissible digests fresh s reservation seat intent ticket logical)
    (hoperation : operation.responseSnapshot = some (.admission logical)) :
    Seated {
      sessions := sessions
      players := s.players ++ [seat]
      reservations := s.reservations ++ [reservation]
      joinIntents := s.joinIntents ++ [intent]
      tickets := s.tickets ++ [ticket]
      operations := s.operations ++ [operation] } := by
  set s' : Seating := {
    sessions := sessions
    players := s.players ++ [seat]
    reservations := s.reservations ++ [reservation]
    joinIntents := s.joinIntents ++ [intent]
    tickets := s.tickets ++ [ticket]
    operations := s.operations ++ [operation] }
  have hsession : ∀ {id p}, SessionIs s id p → SessionIs s' id p :=
    fun ⟨session, hmem, hp⟩ => ⟨session, hopens.subset hmem, hp⟩
  have hheld : ∀ {r}, Held s r → Held s' r := fun hheld => hheld.imp_right hsession
  have hnew : reservation ∈ s'.reservations := List.mem_append_right _ (List.mem_singleton_self _)
  have hold : ∀ {r}, r ∈ s.reservations → r ∈ s'.reservations :=
    fun hr => List.mem_append_left _ hr
  obtain ⟨session, hmemSession, hsessionId, hopen, hroom⟩ := hopens.session
  -- rows that are there already refer to other reservations
  have hseatOther : ∀ other ∈ s.players, other.reservationId ≠ reservation.id := by
    intro other hother hid
    obtain ⟨-, r, hr, hfor, -⟩ := hs.ofSeat other hother
    exact h.reservationId r hr (hfor.1.symm.trans hid)
  have hintentOther : ∀ other ∈ s.joinIntents, other.reservationId ≠ reservation.id := by
    intro other hother hid
    obtain ⟨-, r, hr, hfor, -⟩ := hs.ofIntent other hother
    exact h.reservationId r hr (hfor.1.symm.trans hid)
  have hticketOther : ∀ other ∈ s.tickets, other.reservationId ≠ reservation.id := by
    intro other hother hid
    obtain ⟨r, hr, hfor⟩ := hs.ofTicket other hother
    exact h.reservationId r hr (hfor.1.symm.trans hid)
  have hdistinct : ∀ {κ : Type} {key : PlayerRow → κ}, DistinctIn key s.players →
      (∀ other ∈ s.players, other.gameSessionId = seat.gameSessionId → key other ≠ key seat) →
      DistinctIn key (s.players ++ [seat]) := by
    intro κ key hpairwise hother
    refine List.pairwise_append.2 ⟨hpairwise, List.pairwise_singleton _ _, ?_⟩
    intro a ha b hb hgame
    rw [List.mem_singleton.1 hb] at hgame ⊢
    exact hother a ha hgame
  refine {
    keys := {
      sessions := hopens.nodup hs.keys.sessions
      reservations := nodup_append_key hs.keys.reservations h.reservationId
      seats := nodup_append_key hs.keys.seats (h.seatFor.1 ▸ hseatOther)
      intents := nodup_append_key hs.keys.intents (h.intentFor.1 ▸ hintentOther)
      tickets := nodup_append_key hs.keys.tickets h.ticketId
      tokens := nodup_append_key hs.keys.tokens h.tokenHash
      users := hdistinct hs.keys.users fun other hother hgame => (h.newSeat other hother hgame).2.1
      seatIndexes := hdistinct hs.keys.seatIndexes fun other hother hgame =>
        (h.newSeat other hother hgame).2.2 }
    lifecycle := ?_
    seat := ?_
    intent := ?_
    ofSeat := ?_
    ofIntent := ?_
    ofTicket := ?_
    ofReservation := ?_
    capacity := ?_
    creator := ?_
    closed := ?_
    ticketSeat := ?_
    oneUnused := ?_
    named := ?_ }
  · intro other hmem
    obtain hbefore | ⟨hopened, -⟩ := hopens.before hmem
    · exact hs.lifecycle other hbefore
    · rw [hopened]
      decide
  · intro r hr hreserved
    rcases List.mem_append.1 hr with hr | hr
    · obtain ⟨other, hother, hactive, hfor⟩ := hs.seat r hr hreserved
      exact ⟨other, List.mem_append_left _ hother, hactive, hfor⟩
    · rw [List.mem_singleton.1 hr]
      exact ⟨seat, List.mem_append_right _ (List.mem_singleton_self _), h.active, h.seatFor⟩
  · intro r hr hreserved
    rcases List.mem_append.1 hr with hr | hr
    · obtain ⟨other, hother, hadmitted, hfor⟩ := hs.intent r hr hreserved
      exact ⟨other, List.mem_append_left _ hother, hadmitted, hfor⟩
    · rw [List.mem_singleton.1 hr]
      exact ⟨intent, List.mem_append_right _ (List.mem_singleton_self _), h.admitted, h.intentFor⟩
  · intro other hmem
    rcases List.mem_append.1 hmem with hmem | hmem
    · obtain ⟨hactive, r, hr, hfor, hh⟩ := hs.ofSeat other hmem
      exact ⟨hactive, r, hold hr, hfor, hheld hh⟩
    · rw [List.mem_singleton.1 hmem]
      exact ⟨h.active, reservation, hnew, h.seatFor, .inl h.reserved⟩
  · intro other hmem
    rcases List.mem_append.1 hmem with hmem | hmem
    · obtain ⟨hpending, r, hr, hfor, hh⟩ := hs.ofIntent other hmem
      exact ⟨hpending, r, hold hr, hfor, fun hadmitted => hheld (hh hadmitted)⟩
    · rw [List.mem_singleton.1 hmem, h.admitted]
      exact ⟨by decide, reservation, hnew, h.intentFor, fun _ => .inl h.reserved⟩
  · intro other hmem
    rcases List.mem_append.1 hmem with hmem | hmem
    · obtain ⟨r, hr, hfor⟩ := hs.ofTicket other hmem
      exact ⟨r, hold hr, hfor⟩
    · rw [List.mem_singleton.1 hmem]
      exact ⟨reservation, hnew, h.ticketFor.1, h.ticketFor.2.1, h.ticketFor.2.2.1⟩
  · intro r hr
    rcases List.mem_append.1 hr with hr | hr
    · exact hsession (hs.ofReservation r hr)
    · rw [List.mem_singleton.1 hr, ← h.seatFor.2.2]
      exact ⟨session, hmemSession, hsessionId, trivial⟩
  · intro other hmem
    rcases List.mem_append.1 hmem with hmem | hmem
    · exact hsession (hs.capacity other hmem)
    · rw [List.mem_singleton.1 hmem]
      exact ⟨session, hmemSession, hsessionId, hroom⟩
  · intro other hmem hlifecycle
    obtain hbefore | ⟨-, hid, hcreator, hindex⟩ := hopens.before hmem
    · obtain ⟨creator, hmemCreator, hcreator⟩ := hs.creator other hbefore hlifecycle
      exact ⟨creator, List.mem_append_left _ hmemCreator, hcreator⟩
    · exact ⟨seat, List.mem_append_right _ (List.mem_singleton_self _), hid.symm, hcreator.symm,
        hindex⟩
  · intro other hmem hlifecycle r hr hgame hreserved
    obtain hbefore | ⟨hopened, -⟩ := hopens.before hmem
    · rcases List.mem_append.1 hr with hr | hr
      · exact hs.closed other hbefore hlifecycle r hr hgame hreserved
      · -- the new reservation is in the session that is open
        rw [List.mem_singleton.1 hr, ← h.seatFor.2.2, ← hsessionId] at hgame
        rw [eq_of_key_eq (hopens.nodup hs.keys.sessions) hmemSession hmem hgame.symm, hopen]
          at hlifecycle
        revert hlifecycle
        decide
    · rw [hopened] at hlifecycle
      revert hlifecycle
      decide
  · intro row hrow other hother hid
    rcases List.mem_append.1 hrow with hrow | hrow <;>
      rcases List.mem_append.1 hother with hother | hother
    · exact hs.ticketSeat row hrow other hother hid
    · rw [List.mem_singleton.1 hother, h.seatFor.1] at hid
      exact absurd hid.symm (hticketOther row hrow)
    · rw [List.mem_singleton.1 hrow, h.ticketFor.1] at hid
      exact absurd hid (hseatOther other hother)
    · rw [List.mem_singleton.1 hrow, List.mem_singleton.1 hother]
      exact h.ticketFor.2.2.2.symm
  · intro row hrow other hother hnone hotherNone hid
    rcases List.mem_append.1 hrow with hrow | hrow <;>
      rcases List.mem_append.1 hother with hother | hother
    · exact hs.oneUnused row hrow other hother hnone hotherNone hid
    · rw [List.mem_singleton.1 hother, h.ticketFor.1] at hid
      exact absurd hid.symm (hticketOther row hrow)
    · rw [List.mem_singleton.1 hrow, h.ticketFor.1] at hid
      exact absurd hid (hticketOther other hother)
    · rw [List.mem_singleton.1 hrow, List.mem_singleton.1 hother]
  · intro row hrow named hnamed
    rcases List.mem_append.1 hrow with hrow | hrow
    · obtain ⟨⟨r, hr, hid, hgame⟩, hseats⟩ := hs.named row hrow named hnamed
      refine ⟨⟨r, hold hr, hid, hgame⟩, fun other hother hotherId => ?_⟩
      rcases List.mem_append.1 hother with hother | hother
      · exact hseats other hother hotherId
      · rw [List.mem_singleton.1 hother, h.seatFor.1, ← hid] at hotherId
        exact absurd hotherId.symm (h.reservationId r hr)
    · rw [List.mem_singleton.1 hrow, hoperation] at hnamed
      obtain rfl : logical = named := by simpa using hnamed
      refine ⟨⟨reservation, hnew, h.logical.1.symm, h.gameId⟩, fun other hother hotherId => ?_⟩
      rcases List.mem_append.1 hother with hother | hother
      · exact absurd (hotherId.trans h.logical.1) (hseatOther other hother)
      · rw [List.mem_singleton.1 hother]
        exact h.logical.2.symm

end Admitting

/-! ### Every change -/

/-- The seat that an admission names is the one that its reservation holds. -/
theorem Names.playerId {logical : LogicalAdmission} (h : Names s logical) (hs : Seated s)
    {seat : PlayerRow} (hseat : seat ∈ s.players)
    (hid : seat.reservationId = logical.reservationId) : seat.playerId = logical.playerId := by
  obtain ⟨operation, hmem, hlogical⟩ | ⟨player, hmem, -, hplayer, hreservation⟩ := h
  · exact (hs.named operation hmem logical hlogical).2 seat hseat hid
  · rw [eq_of_key_eq hs.keys.seats hmem hseat (hid.trans hreservation.symm), hplayer]

variable {digests : Digests} {settings : Settings} {fresh : Fresh} {now : ℤ}

theorem Reissues.seated {userId : String} {logical : LogicalAdmission} {tickets : List TicketRow}
    (h : Reissues digests settings fresh now userId logical s tickets) (hs : Seated s)
    (hnames : Names s logical)
    (hr : ∃ r ∈ s.reservations, r.id = logical.reservationId ∧ r.userId = userId ∧
      r.gameSessionId = logical.gameId ∧ r.status = .reserved) :
    Seated { s with tickets := tickets } := by
  cases h with
  | renewed hcurrent hid hunused hall htokens =>
    exact hs.updateTickets ⟨fun _ => rfl, fun _ => ⟨rfl, rfl, rfl⟩, fun _ => ⟨rfl, rfl⟩⟩
      (fun row hrow hrowId _ => hall row hrow hrowId) htokens
  | added hid htoken hone =>
    obtain ⟨r, hr, hrId, huser, hgame, -⟩ := hr
    exact hs.addTicket hid htoken ⟨r, hr, hrId.symm, huser.symm, hgame.symm⟩
      (fun seat hseat hseatId => hnames.playerId hs hseat hseatId) hone

theorem SeatStep.seated {s' : Seating} (h : SeatStep digests settings fresh now s s')
    (hs : Seated s) : Seated s' := by
  cases h with
  | entered hrows => exact hs.withPlain hrows
  | @moved gameId lifecycle f rows hlifecycle hf hfrom hrows =>
    have hnot : ∀ row ∈ s.sessions, row.id = gameId →
        row.lifecycle ≠ .cancelled ∧ row.lifecycle ≠ .settled := by
      intro row hrow hid
      have htransition := hfrom row hrow hid
      constructor <;> intro hwas <;> rw [hwas] at htransition <;>
        rcases hlifecycle with rfl | rfl <;> exact absurd (htransition (by decide)) (by decide)
    have hcloses : Closes [] .released "" 0 s.reservations s.reservations := .refl
    refine (hs.move hf (hlifecycle.imp_right .inl) (fun row hrow hid => (hnot row hrow hid).1)
      (fun _ => ⟨rfl, fun row hrow hid => (hnot row hrow hid).2⟩) (fun _ _ => nofun) (by decide)
      hcloses fun hsettled => ?_).withPlain hrows
    rcases hlifecycle with rfl | rfl <;> exact absurd hsettled (by decide)
  | admitted hopens hadmissible hoperation => exact hs.admitted hopens hadmissible hoperation
  | reissued hnames hreservation hreissues hrows =>
    refine (hreissues.seated hs hnames hreservation).withOperations fun row hrow other hother => ?_
    obtain rfl := ResponseSnapshot.admission.inj (Option.some.inj ((hrows row hrow).symm.trans hother))
    obtain ⟨r, hr, hid, -, hgame, -⟩ := hreservation
    exact ⟨⟨r, hr, hid, hgame⟩, fun seat hseat hseatId => hnames.playerId hs hseat hseatId⟩
  | used husable hunused hseat =>
    refine (hs.used _ _).withOperations fun row hrow logical hlogical => ?_
    rw [List.mem_singleton.1 hrow] at hlogical
    cases hlogical
  | reused husable hused hseat =>
    refine hs.withOperations fun row hrow logical hlogical => ?_
    rw [List.mem_singleton.1 hrow] at hlogical
    cases hlogical
  | left hsession hmem hopen hcloses hclosed hrows =>
    exact ((hs.leave hsession hmem hcloses hclosed).expired _ now).withPlain hrows
  | cancelled hsession hf hids hcloses hclosed hrows =>
    exact ((hs.cancel hf hids hcloses hclosed).expired _ now).withPlain hrows
  | finished hsession hf hids hstatus hcloses hclosed hrows =>
    refine (hs.move hf (.inr (.inr rfl)) (fun row hrow hid hwas => ?_)
      (fun hne => absurd rfl hne) (fun r hr hid => hids.session_eq hs hr hid) hstatus hcloses
      fun _ => hclosed).withPlain hrows
    have hactive := hsession.of_mem hs hrow hid
    rw [hwas] at hactive
    revert hactive
    decide

end Pootown.Api
