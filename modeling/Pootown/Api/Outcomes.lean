import Mathlib.Tactic
import Pootown.Api.AppendOnly
import Pootown.Api.Conservation

/-!
# How sessions end

A session has one outcome. When it was completed, the winner of the match has been paid what all who
were seated had put in; when it was aborted, each has been paid back; and the history says so.

* `operationNet_of_lines`: what counting the entries of an operation says about their sums;
* `Outcome`: what the trigger on settlements asks, of the entries themselves;
* `TerminalSettlement.outcome`: it holds at the commit, and `Outcome.step`: from then on;
* `outcomes_pay_exactly`.
-/

namespace Pootown.Api

open Tables Transactions Runs

/-! ### Entries that are counted -/

section Lines

variable {e : Economy} {operationId userId : String} {kind : LedgerKind}

/-- What an operation has added to the account of one kind of a user. -/
def operationNet (e : Economy) (operationId userId : String) (kind : LedgerKind) : ℤ :=
  sumWhere (OnAccount e userId kind) LedgerEntryRow.amount (entriesOf e operationId)

/-- An entry that an operation is to have: on whose account of which kind, and of which amount. -/
structure Line where
  userId : String
  kind : LedgerKind
  amount : ℤ

def Line.account (line : Line) : String × LedgerKind := (line.userId, line.kind)

theorem OnAccount.unique (hids : (e.ledgerAccounts.map LedgerAccountRow.id).Nodup)
    {entry : LedgerEntryRow} {userId' : String} {kind' : LedgerKind}
    (h : OnAccount e userId kind entry) (h' : OnAccount e userId' kind' entry) :
    userId = userId' ∧ kind = kind' := by
  obtain ⟨l, hl, hid, howner, hkind⟩ := h
  obtain ⟨l', hl', hid', howner', hkind'⟩ := h'
  rw [eq_of_key_eq hids hl hl' (hid'.trans hid.symm)] at howner' hkind'
  exact ⟨Option.some.inj (howner.symm.trans howner'), hkind.symm.trans hkind'⟩

/-- An operation that has one entry for each line, and no more entries than there are lines, has
added what the lines say. -/
theorem operationNet_of_lines (hids : (e.ledgerAccounts.map LedgerAccountRow.id).Nodup)
    {lines : List Line} (hdistinct : (lines.map Line.account).Nodup)
    (hone : ∀ line ∈ lines,
      matchingEntries e operationId line.userId line.kind line.amount = 1)
    (hlength : (entriesOf e operationId).length = lines.length) (userId : String)
    (kind : LedgerKind) :
    operationNet e operationId userId kind =
      sumWhere (fun line => line.account = (userId, kind)) Line.amount lines := by
  have hcount : ∀ line ∈ lines, ((entriesOf e operationId).countP fun entry =>
      OnAccount e line.userId line.kind entry ∧ entry.amount = line.amount) = 1 := by
    intro line hline
    rw [List.countP_eq_length_filter]
    exact hone line hline
  have hcovered : ∀ entry ∈ entriesOf e operationId, ∃ line ∈ lines,
      OnAccount e line.userId line.kind entry ∧ entry.amount = line.amount := by
    refine exists_group (fun entry _ => ?_) ?_
    · refine countP_le_one hdistinct fun line _ other _ h h' => ?_
      obtain ⟨huser, hkind⟩ := OnAccount.unique hids h'.1 h.1
      rw [Line.account, Line.account, huser, hkind]
    · rw [hlength, List.map_congr_left hcount, List.map_const', List.sum_replicate, smul_eq_mul,
        mul_one]
  by_cases hex : ∃ line ∈ lines, line.account = (userId, kind)
  · obtain ⟨line, hline, haccount⟩ := hex
    obtain ⟨rfl, rfl⟩ : line.userId = userId ∧ line.kind = kind := Prod.mk.inj haccount
    have hamount : ∀ entry ∈ entriesOf e operationId, OnAccount e line.userId line.kind entry →
        entry.amount = line.amount := by
      intro entry hentry hon
      obtain ⟨other, hother, hon', hamount⟩ := hcovered entry hentry
      obtain ⟨huser, hkind⟩ := OnAccount.unique hids hon' hon
      rw [hamount, eq_of_key_eq hdistinct hline hother
        (by rw [Line.account, Line.account, huser, hkind])]
    rw [operationNet, sumWhere_const hamount, ← haccount, sumWhere_key hdistinct hline,
      List.countP_congr fun entry hentry => ?_, hcount line hline, Nat.cast_one, one_mul]
    simp only [decide_eq_true_eq]
    exact ⟨fun hon => ⟨hon, hamount entry hentry hon⟩, And.left⟩
  · rw [operationNet, sumWhere_eq_zero fun entry hentry hon => ?_,
      sumWhere_eq_zero fun line hline haccount => hex ⟨line, hline, haccount⟩]
    obtain ⟨line, hline, hon', -⟩ := hcovered entry hentry
    obtain ⟨huser, hkind⟩ := OnAccount.unique hids hon' hon
    exact hex ⟨line, hline, by rw [Line.account, huser, hkind]⟩

end Lines

/-! ### Seats -/

section Seats

variable {db : Database} {gameId : String}

/-- A seat that has been joined with its reservation. -/
abbrev Seat := PlayerRow × ReservationRow

theorem mem_seatedReservations {seat : Seat} :
    seat ∈ seatedReservations db gameId ↔
      (seat.1 ∈ db.game.players ∧ seat.1.gameSessionId = gameId ∧ seat.1.active = true) ∧
        seat.2 ∈ db.economy.reservations ∧ seat.2.id = seat.1.reservationId := by
  obtain ⟨player, r⟩ := seat
  simp [seatedReservations]

/-- Every seat has its reservation, and one. -/
theorem seatedReservations_fst (hs : Seated db.seating) (gameId : String) :
    (seatedReservations db gameId).map Prod.fst =
      db.game.players.filter fun player =>
        player.gameSessionId = gameId ∧ player.active = true := by
  have hone : ∀ player ∈ db.game.players.filter (fun player =>
      player.gameSessionId = gameId ∧ player.active = true),
      ((db.economy.reservations.filter fun r => r.id = player.reservationId).map fun r =>
        (player, r)).map Prod.fst = [player] := by
    intro player hplayer
    obtain ⟨-, r, hr, hfor, -⟩ := hs.ofSeat player (List.mem_of_mem_filter hplayer)
    have hfilter : (db.economy.reservations.filter fun r => r.id = player.reservationId) = [r] := by
      rw [hfor.1]
      exact filter_of_nodup hs.keys.reservations hr
    rw [hfilter]
    rfl
  rw [seatedReservations, List.map_flatMap, List.flatMap_congr hone, List.flatMap_singleton']

theorem SeatFor.of_seat (hs : Seated db.seating) {seat : Seat}
    (hseat : seat ∈ seatedReservations db gameId) : SeatFor seat.2 seat.1 := by
  obtain ⟨⟨hplayer, -, -⟩, hr, hid⟩ := mem_seatedReservations.1 hseat
  obtain ⟨-, r, hr', hfor, -⟩ := hs.ofSeat seat.1 hplayer
  rwa [eq_of_key_eq hs.keys.reservations hr' hr (hid.trans hfor.1)]

/-- Nobody has two seats in a session. -/
theorem nodup_seatUsers (hs : Seated db.seating) (gameId : String) :
    ((seatedReservations db gameId).map fun seat => seat.2.userId).Nodup := by
  have hmap : (seatedReservations db gameId).map (fun seat => seat.2.userId) =
      ((seatedReservations db gameId).map Prod.fst).map PlayerRow.userId := by
    rw [List.map_map]
    exact List.map_congr_left fun seat hseat => (SeatFor.of_seat hs hseat).2.1.symm
  rw [hmap, seatedReservations_fst hs]
  refine List.pairwise_map.2 ((hs.keys.users.filter _).imp_of_mem fun {a b} ha hb h => h ?_)
  have ha' : a.gameSessionId = gameId ∧ a.active = true := by simpa using (List.mem_filter.1 ha).2
  have hb' : b.gameSessionId = gameId ∧ b.active = true := by simpa using (List.mem_filter.1 hb).2
  exact ha'.1.trans hb'.1.symm

end Seats

/-! ### Outcomes -/

/-- What those who are seated have put in. -/
def prizeOf (db : Database) (gameId : String) : ℤ :=
  ((seatedReservations db gameId).map fun seat => seat.2.amount).sum

/-- What the outcome of a session makes available to a seat. -/
def SettlementKind.payout (kind : SettlementKind) (prize : ℤ) (r : ReservationRow) : ℤ :=
  match kind with
  | .completed _ _ winnerUserId => if r.userId = winnerUserId then prize else 0
  | .aborted _ => r.amount

def SettlementKind.reservationStatus : SettlementKind → ReservationStatus
  | .completed .. => .captured
  | .aborted _ => .released

/-- What the history says of a seat. -/
def SettlementKind.result (kind : SettlementKind) (userId : String) : SessionResult :=
  match kind with
  | .completed _ _ winnerUserId => if userId = winnerUserId then .won else .lost
  | .aborted _ => .aborted

/-- The winner of a completed session is seated in it. -/
def SettlementKind.WinnerSeated (kind : SettlementKind) (seats : List Seat) : Prop :=
  match kind with
  | .completed _ _ winnerUserId => ∃ seat ∈ seats, seat.2.userId = winnerUserId
  | .aborted _ => True

/-- The reservation of a seat has been closed by an operation that took it and made `available`
available to its user, and the history has the difference. -/
structure SeatSettled (db : Database) (settlement : SettlementRow) (seat : Seat) : Prop where
  status : seat.2.status = settlement.kind.reservationStatus
  closedBy : seat.2.terminalOperationId = some settlement.operationId
  available : operationNet db.economy settlement.operationId seat.2.userId .userAvailable =
    settlement.kind.payout (prizeOf db settlement.gameSessionId) seat.2
  reserved : operationNet db.economy settlement.operationId seat.2.userId .userReserved =
    -seat.2.amount
  history : HasHistory db seat.1 (settlement.kind.result seat.2.userId)
    (settlement.kind.payout (prizeOf db settlement.gameSessionId) seat.2 - seat.2.amount)

structure Outcome (db : Database) (settlement : SettlementRow) : Prop where
  session : ∃ session ∈ db.game.sessions, session.id = settlement.gameSessionId ∧
    session.lifecycle = .settled
  operation : ∃ operation ∈ db.economy.operations, operation.id = settlement.operationId ∧
    operation.status = .committed
  twoSeats : 2 ≤ (seatedReservations db settlement.gameSessionId).length
  seats : ∀ seat ∈ seatedReservations db settlement.gameSessionId, SeatSettled db settlement seat
  winner : settlement.kind.WinnerSeated (seatedReservations db settlement.gameSessionId)

/-! ### What the trigger asks -/

section Trigger

variable {db : Database} {settlement : SettlementRow} {digests : Digests}

/-- The lines of those seats of a session that have put something in. -/
def linesOf (kind : LedgerKind) (amount : ReservationRow → ℤ) (seats : List Seat) : List Line :=
  (seats.filter fun seat => seat.2.amount ≠ 0).map fun seat =>
    ⟨seat.2.userId, kind, amount seat.2⟩

theorem mem_linesOf {kind : LedgerKind} {amount : ReservationRow → ℤ} {seats : List Seat}
    {line : Line} : line ∈ linesOf kind amount seats ↔
      ∃ seat ∈ seats, seat.2.amount ≠ 0 ∧ line = ⟨seat.2.userId, kind, amount seat.2⟩ := by
  rw [linesOf, List.mem_map]
  constructor
  · rintro ⟨seat, hseat, rfl⟩
    obtain ⟨hseat, hne⟩ := List.mem_filter.1 hseat
    exact ⟨seat, hseat, by simpa using hne, rfl⟩
  · rintro ⟨seat, hseat, hne, rfl⟩
    exact ⟨seat, List.mem_filter.2 ⟨hseat, by simpa using hne⟩, rfl⟩

theorem length_linesOf {kind : LedgerKind} {amount : ReservationRow → ℤ} {seats : List Seat}
    [DecidablePred fun seat : Seat => seat.2.amount ≠ 0] :
    (seats.filter fun seat => seat.2.amount ≠ 0).length = (linesOf kind amount seats).length := by
  rw [linesOf, List.length_map]
  congr!

theorem nodup_linesOf {kind : LedgerKind} {amount : ReservationRow → ℤ} {seats : List Seat}
    (h : (seats.map fun seat => seat.2.userId).Nodup) :
    ((linesOf kind amount seats).map Line.account).Nodup := by
  have hinj : Function.Injective fun userId : String => (userId, kind) := fun _ _ h =>
    (Prod.mk.inj h).1
  rw [linesOf, List.map_map]
  have hsub := (h.sublist (List.filter_sublist.map _ : ((seats.filter fun seat =>
    seat.2.amount ≠ 0).map fun seat => seat.2.userId).Sublist _)).map hinj
  rwa [List.map_map] at hsub

/-- What the lines of one kind come to for a seat. -/
theorem sum_linesOf {kind : LedgerKind} {amount : ReservationRow → ℤ} {seats : List Seat}
    (h : (seats.map fun seat => seat.2.userId).Nodup)
    (hzero : ∀ seat ∈ seats, seat.2.amount = 0 → amount seat.2 = 0) {seat : Seat}
    (hseat : seat ∈ seats) :
    sumWhere (fun line => line.account = (seat.2.userId, kind)) Line.amount
      (linesOf kind amount seats) = amount seat.2 := by
  rw [linesOf, sumWhere_map, sumWhere_filter fun other hother hnot => hzero other hother (by
    simpa using hnot), ← sumWhere_key (w := fun seat : Seat => amount seat.2) h hseat]
  refine sumWhere_congr (fun other _ => ?_) fun _ _ _ => rfl
  simp [Line.account]

theorem sum_linesOf_ne {kind kind' : LedgerKind} {amount : ReservationRow → ℤ} {seats : List Seat}
    (hne : kind ≠ kind') (userId : String) :
    sumWhere (fun line => line.account = (userId, kind')) Line.amount
      (linesOf kind amount seats) = 0 := by
  refine sumWhere_eq_zero fun line hline haccount => hne ?_
  obtain ⟨seat, -, -, rfl⟩ := mem_linesOf.1 hline
  exact (Prod.mk.inj haccount).2

/-- The seats of a session, with reservations of at least nothing. -/
theorem amount_nonneg (hbooks : Closed digests db) {gameId : String} {seat : Seat}
    (hseat : seat ∈ seatedReservations db gameId) : 0 ≤ seat.2.amount :=
  (hbooks.holder seat.2 (mem_seatedReservations.1 hseat).2.1).1

theorem prizeOf_nonneg (hbooks : Closed digests db) (gameId : String) : 0 ≤ prizeOf db gameId := by
  refine List.sum_nonneg fun x hx => ?_
  obtain ⟨seat, hseat, rfl⟩ := List.mem_map.1 hx
  exact amount_nonneg hbooks hseat

theorem CompletedSettlement.seats (hs : Seated db.seating) (hbooks : Closed digests db)
    {gameId operationId checksum winnerUserId : String} {version : ℤ}
    (h : CompletedSettlement db gameId operationId version checksum winnerUserId) {seat : Seat}
    (hseat : seat ∈ seatedReservations db gameId) :
    operationNet db.economy operationId seat.2.userId .userAvailable =
        (if seat.2.userId = winnerUserId then prizeOf db gameId else 0) ∧
      operationNet db.economy operationId seat.2.userId .userReserved = -seat.2.amount := by
  obtain ⟨-, -, -, hlength, hreserved, havailable, -⟩ := h
  have husers := nodup_seatUsers hs gameId
  have hnonneg := prizeOf_nonneg hbooks gameId
  have hprize : ((seatedReservations db gameId).map fun seat => seat.2.amount).sum =
    prizeOf db gameId := rfl
  rw [hprize] at hlength havailable
  -- the entries that are taken from the seats, and that of the prize if there is one
  set taken := linesOf .userReserved (fun r => -r.amount) (seatedReservations db gameId)
  set paid : List Line := if 0 < prizeOf db gameId then
    [⟨winnerUserId, .userAvailable, prizeOf db gameId⟩] else []
  have hpaid : ∀ line ∈ paid, 0 < prizeOf db gameId ∧
      line = ⟨winnerUserId, .userAvailable, prizeOf db gameId⟩ := by
    intro line hline
    by_cases hpos : 0 < prizeOf db gameId
    · exact ⟨hpos, by simpa [paid, hpos] using hline⟩
    · simp [paid, hpos] at hline
  have hdistinct : ((taken ++ paid).map Line.account).Nodup := by
    rw [List.map_append]
    refine (nodup_linesOf husers).append ?_ ?_
    · by_cases hpos : 0 < prizeOf db gameId <;> simp [paid, hpos]
    · intro account htaken hpaid'
      obtain ⟨line, hline, rfl⟩ := List.mem_map.1 htaken
      obtain ⟨other, hother, haccount⟩ := List.mem_map.1 hpaid'
      obtain ⟨seat, -, -, rfl⟩ := mem_linesOf.1 hline
      obtain ⟨-, rfl⟩ := hpaid other hother
      cases (Prod.mk.inj haccount).2
  have hone : ∀ line ∈ taken ++ paid,
      matchingEntries db.economy operationId line.userId line.kind line.amount = 1 := by
    intro line hline
    rcases List.mem_append.1 hline with hline | hline
    · obtain ⟨seat, hseat, hne, rfl⟩ := mem_linesOf.1 hline
      exact hreserved seat hseat hne
    · obtain ⟨hpos, rfl⟩ := hpaid line hline
      rw [havailable, if_pos hpos]
  have hnet := operationNet_of_lines hbooks.ledgerIds hdistinct hone (by
    rw [hlength, List.length_append, length_linesOf]
    congr 1
    by_cases hpos : 0 < prizeOf db gameId <;> simp [paid, hpos])
  constructor
  · rw [hnet, sumWhere_append, sum_linesOf_ne (by decide), zero_add]
    by_cases hpos : 0 < prizeOf db gameId
    · simp [paid, hpos, Line.account, eq_comm]
    · have hzero : prizeOf db gameId = 0 := by omega
      simp [paid, hzero]
  · rw [hnet, sumWhere_append, sum_linesOf husers (by simp) hseat, sumWhere_eq_zero, add_zero]
    intro line hline haccount
    obtain ⟨-, rfl⟩ := hpaid line hline
    cases (Prod.mk.inj haccount).2

theorem AbortedSettlement.seats (hs : Seated db.seating) (hbooks : Closed digests db)
    {gameId operationId : String} (h : AbortedSettlement db gameId operationId) {seat : Seat}
    (hseat : seat ∈ seatedReservations db gameId) :
    operationNet db.economy operationId seat.2.userId .userAvailable = seat.2.amount ∧
      operationNet db.economy operationId seat.2.userId .userReserved = -seat.2.amount := by
  obtain ⟨-, -, hlength, hentries, -⟩ := h
  have husers := nodup_seatUsers hs gameId
  set given := linesOf .userAvailable (fun r => r.amount) (seatedReservations db gameId)
  set taken := linesOf .userReserved (fun r => -r.amount) (seatedReservations db gameId)
  have hdistinct : ((given ++ taken).map Line.account).Nodup := by
    rw [List.map_append]
    refine (nodup_linesOf husers).append (nodup_linesOf husers) fun account hgiven htaken => ?_
    obtain ⟨line, hline, rfl⟩ := List.mem_map.1 hgiven
    obtain ⟨other, hother, haccount⟩ := List.mem_map.1 htaken
    obtain ⟨seat, -, -, rfl⟩ := mem_linesOf.1 hline
    obtain ⟨seat', -, -, rfl⟩ := mem_linesOf.1 hother
    cases (Prod.mk.inj haccount).2
  have hone : ∀ line ∈ given ++ taken,
      matchingEntries db.economy operationId line.userId line.kind line.amount = 1 := by
    intro line hline
    rcases List.mem_append.1 hline with hline | hline
    · obtain ⟨seat, hseat, hne, rfl⟩ := mem_linesOf.1 hline
      exact (hentries seat hseat hne).1
    · obtain ⟨seat, hseat, hne, rfl⟩ := mem_linesOf.1 hline
      exact (hentries seat hseat hne).2
  have hnet := operationNet_of_lines hbooks.ledgerIds hdistinct hone (by
    rw [hlength, List.length_append, ← length_linesOf, ← length_linesOf, mul_two])
  constructor
  · rw [hnet, sumWhere_append, sum_linesOf husers (by simp) hseat, sum_linesOf_ne (by decide),
      add_zero]
  · rw [hnet, sumWhere_append, sum_linesOf husers (by simp) hseat, sum_linesOf_ne (by decide),
      zero_add]

/-- What the trigger on settlements asks at the commit is that the session has its outcome. -/
theorem TerminalSettlement.outcome (hs : Seated db.seating) (hbooks : Closed digests db)
    (h : TerminalSettlement db settlement) : Outcome db settlement := by
  obtain ⟨⟨session, hsession, hid, hlifecycle, operation, hoperation, hoperationId, hcommitted, -⟩,
    htwo, -, hkind⟩ := h
  have hseatFor : ∀ seat ∈ seatedReservations db settlement.gameSessionId,
      seat.1.userId = seat.2.userId := fun seat hseat => (SeatFor.of_seat hs hseat).2.1
  refine ⟨⟨session, hsession, hid, hlifecycle⟩, ⟨operation, hoperation, hoperationId, hcommitted⟩,
    htwo, fun seat hseat => ?_, ?_⟩
  · cases hsettled : settlement.kind with
    | completed version checksum winnerUserId =>
      rw [KindSettlement, hsettled] at hkind
      obtain ⟨havailable, hreserved⟩ := CompletedSettlement.seats hs hbooks hkind hseat
      obtain ⟨-, -, hcaptured, -, -, -, hhistory⟩ := hkind
      have hline := hhistory seat hseat
      rw [hseatFor seat hseat] at hline
      refine ⟨?_, (hcaptured seat hseat).2, ?_, hreserved, ?_⟩ <;> rw [hsettled]
      · exact (hcaptured seat hseat).1
      · exact havailable
      · by_cases hwon : seat.2.userId = winnerUserId
        · rw [if_pos hwon, if_pos hwon] at hline
          simpa [SettlementKind.result, SettlementKind.payout, hwon, prizeOf] using hline
        · rw [if_neg hwon, if_neg hwon] at hline
          simpa [SettlementKind.result, SettlementKind.payout, hwon] using hline
    | aborted reason =>
      rw [KindSettlement, hsettled] at hkind
      obtain ⟨havailable, hreserved⟩ := AbortedSettlement.seats hs hbooks hkind hseat
      obtain ⟨hreleased, hclosed, -, -, hhistory⟩ := hkind
      obtain ⟨⟨hplayer, hgame, hactive⟩, hr, -⟩ := mem_seatedReservations.1 hseat
      have hrGame := (SeatFor.of_seat hs hseat).2.2.symm.trans hgame
      refine ⟨?_, hclosed seat hseat, ?_, hreserved, ?_⟩ <;> rw [hsettled]
      · exact hreleased seat.2 hr hrGame
      · exact havailable
      · simpa [SettlementKind.result, SettlementKind.payout] using
          hhistory seat.1 hplayer hgame hactive
  · cases hsettled : settlement.kind with
    | completed version checksum winnerUserId =>
      rw [KindSettlement, hsettled] at hkind
      obtain ⟨⟨proof, -, -, -, player, hplayer, hgame, -, huser⟩, -⟩ := hkind
      obtain ⟨hactive, r, hr, hfor, -⟩ := hs.ofSeat player hplayer
      exact ⟨(player, r), mem_seatedReservations.2 ⟨⟨hplayer, hgame, hactive⟩, hr, hfor.1.symm⟩,
        hfor.2.1.symm.trans huser⟩
    | aborted reason => trivial

end Trigger

/-! ### Outcomes that stay -/

section Stays

variable {digests : Digests} {settings : Settings} {codec : Server.Codec} {fresh : Fresh} {now : ℤ}
  {db db' : Database} {settlement : SettlementRow} {gameId : String}

/-- Nobody takes or leaves a seat of a session that is not open. -/
theorem SeatStep.closedSeats {s s' : Seating} (hs : Seated s)
    (h : SeatStep digests settings fresh now s s')
    (hclosed : SessionIs s gameId (·.lifecycle ≠ .opened)) :
    (s'.players.filter fun player => player.gameSessionId = gameId ∧ player.active = true) =
      s.players.filter fun player => player.gameSessionId = gameId ∧ player.active = true := by
  have hopen : ∀ {otherId : String}, SessionIs s otherId (·.lifecycle = .opened) →
      otherId ≠ gameId := by
    rintro otherId ⟨session, hmem, hid, hopened⟩ rfl
    exact hclosed.of_mem hs hmem hid hopened
  cases h with
  | entered | moved | reissued | used | reused | finished => rfl
  | @admitted sessions reservation seat _ _ _ _ hopens hadmissible =>
    have hne : seat.gameSessionId ≠ gameId := by
      cases hopens with
      | already hmem hid hopened => exact hopen ⟨_, hmem, hid, hopened⟩
      | new hnew hid =>
        rintro rfl
        obtain ⟨session, hmem, hsession, -⟩ := hclosed
        exact hnew session hmem (hsession.trans hid.symm)
    rw [List.filter_append, List.filter_cons_of_neg (by simp [hne]), List.filter_nil,
      List.append_nil]
  | @left reservation _ _ _ hsession hmem =>
    have hne := hopen (hsession.mono fun _ => And.left)
    rw [List.filter_filter]
    refine List.filter_congr fun seat hseat => ?_
    by_cases hgame : seat.gameSessionId = gameId
    · have hid : seat.reservationId ≠ reservation.id := by
        intro hid
        obtain ⟨-, r, hr, hfor, -⟩ := hs.ofSeat seat hseat
        obtain rfl := eq_of_key_eq hs.keys.reservations hmem hr (hfor.1.symm.trans hid)
        exact hne (hfor.2.2.symm.trans hgame)
      simp [hid]
    · simp [hgame]
  | @cancelled otherId _ _ _ _ _ hsession =>
    have hne := hopen hsession
    rw [List.filter_filter]
    refine List.filter_congr fun seat _ => ?_
    by_cases hgame : seat.gameSessionId = gameId
    · simp [hgame, hne.symm]
    · simp [hgame]

/-- The seats of a settled session, with their reservations, stay as they are. -/
theorem seatedReservations_step (hs : Seated db.seating) (hs' : Seated db'.seating)
    (hgrows : Grows ⟨db, []⟩ ⟨db', []⟩)
    (hsettled : SessionIs db.seating gameId (·.lifecycle = .settled))
    (hplayers : (db'.game.players.filter fun player =>
        player.gameSessionId = gameId ∧ player.active = true) =
      db.game.players.filter fun player => player.gameSessionId = gameId ∧ player.active = true) :
    seatedReservations db' gameId = seatedReservations db gameId := by
  rw [seatedReservations, seatedReservations, hplayers]
  refine List.flatMap_congr fun player hplayer => ?_
  obtain ⟨hplayer, hgame⟩ := List.mem_filter.1 hplayer
  have hgame : player.gameSessionId = gameId ∧ player.active = true := by simpa using hgame
  obtain ⟨-, r, hr, hfor, -⟩ := hs.ofSeat player hplayer
  obtain ⟨session, hsession, hid, hlifecycle⟩ := hsettled
  have hclosed := hs.closed session hsession (.inr hlifecycle) r hr
    (hfor.2.2.symm.trans (hgame.1.trans hid.symm))
  have hone : ∀ rows : List ReservationRow, (rows.map ReservationRow.id).Nodup → r ∈ rows →
      (rows.filter fun row => row.id = player.reservationId) = [r] := by
    intro rows hnodup hmem
    rw [hfor.1]
    exact filter_of_nodup hnodup hmem
  rw [hone db'.economy.reservations hs'.keys.reservations (hgrows.reservations r hr hclosed),
    hone db.economy.reservations hs.keys.reservations hr]

/-- What a committed operation has added stays as it is. -/
theorem operationNet_step (hbooks : Closed digests db) (hbooks' : Closed digests db')
    (hgrows : Grows ⟨db, []⟩ ⟨db', []⟩) {operation : OperationRow}
    (hoperation : operation ∈ db.economy.operations) (hcommitted : operation.status = .committed)
    (userId : String) (kind : LedgerKind) :
    operationNet db'.economy operation.id userId kind =
      operationNet db.economy operation.id userId kind := by
  have hentries := (hgrows.operations operation hoperation (by rw [hcommitted]; decide)).2
  rw [operationNet, operationNet, hentries]
  refine sumWhere_congr (fun entry hentry => ?_) fun _ _ _ => rfl
  obtain ⟨⟨l, hl, hid⟩, -⟩ := hbooks.entered entry (List.mem_of_mem_filter hentry)
  rw [hbooks.onAccount_iff hl hid.symm,
    hbooks'.onAccount_iff (hgrows.ledgerAccounts.subset hl) hid.symm]

/-- The seats of a session that is not open stay as they are. -/
theorem SystemStep.closedSeats (hs : Seated db.seating) {label : SystemLabel}
    (hstep : SystemStep digests settings codec db label db')
    (hclosed : SessionIs db.seating gameId (·.lifecycle ≠ .opened)) :
    (db'.game.players.filter fun player =>
        player.gameSessionId = gameId ∧ player.active = true) =
      db.game.players.filter fun player =>
        player.gameSessionId = gameId ∧ player.active = true := by
  rcases hstep.seating hs with heq | ⟨-, fresh, now, -, hseat⟩
  · have hsame : db'.game.players = db.game.players := congrArg Seating.players heq
    rw [hsame]
  · exact hseat.closedSeats hs hclosed

/-- Those of a settled session stay with their reservations. -/
theorem SystemStep.settledSeats (hs : Seated db.seating) {label : SystemLabel}
    (hstep : SystemStep digests settings codec db label db')
    (hsettled : SessionIs db.seating gameId (·.lifecycle = .settled)) :
    seatedReservations db' gameId = seatedReservations db gameId :=
  seatedReservations_step hs (hstep.seated hs) hstep.grows hsettled
    (hstep.closedSeats hs (hsettled.mono fun session hlifecycle => by
      rw [hlifecycle]
      decide))

theorem Outcome.step (h : Outcome db settlement) (hs : Seated db.seating)
    (hbooks : Closed digests db) {label : SystemLabel}
    (hstep : SystemStep digests settings codec db label db') : Outcome db' settlement := by
  have hgrows := hstep.grows
  have hsettled : SessionIs db.seating settlement.gameSessionId (·.lifecycle = .settled) :=
    h.session
  have hseats := hstep.settledSeats hs hsettled
  obtain ⟨operation, hoperation, hid, hcommitted⟩ := h.operation
  have hnet : ∀ userId kind, operationNet db'.economy settlement.operationId userId kind =
      operationNet db.economy settlement.operationId userId kind := by
    intro userId kind
    rw [← hid]
    exact operationNet_step hbooks (hstep.closed hbooks) hgrows hoperation hcommitted userId kind
  have hprize : prizeOf db' settlement.gameSessionId = prizeOf db settlement.gameSessionId := by
    rw [prizeOf, prizeOf, hseats]
  refine ⟨?_, ⟨operation, (hgrows.operations operation hoperation (by
    rw [hcommitted]
    decide)).1, hid, hcommitted⟩, by rw [hseats]; exact h.twoSeats, ?_, by
    rw [hseats]
    exact h.winner⟩
  · obtain ⟨session, hsession, hsessionId, hlifecycle⟩ := h.session
    obtain ⟨session', hsession', hid', -, hstays⟩ := hgrows.sessions session hsession
    exact ⟨session', hsession', hid'.trans hsessionId,
      (hstays (.inl hlifecycle)).trans hlifecycle⟩
  · intro seat hseat
    rw [hseats] at hseat
    obtain ⟨hstatus, hclosedBy, havailable, hreserved, row, hrow, hline⟩ := h.seats seat hseat
    exact ⟨hstatus, hclosedBy, by rw [hnet, hprize, havailable], by rw [hnet, hreserved],
      row, hgrows.history.subset hrow, by rwa [hprize]⟩

end Stays

/-! ### Triggers that are put off -/

/-- What a transaction settles, a trigger checks at its commit. -/
structure Tracks (s s' : Working) : Prop where
  deferred : s.deferred ⊆ s'.deferred
  settlements : ∀ settlement ∈ s'.db.economy.settlements,
    settlement ∈ s.db.economy.settlements ∨ .terminalSettlementComplete settlement ∈ s'.deferred
  oneEach : (s.db.economy.settlements.map SettlementRow.gameSessionId).Nodup →
    (s'.db.economy.settlements.map SettlementRow.gameSessionId).Nodup
  settled : ∀ session ∈ s'.db.game.sessions, session.lifecycle = .settled →
    (∃ old ∈ s.db.game.sessions, old.id = session.id ∧ old.lifecycle = .settled) ∨
      .settledSessionHasOutcome session.id .settled ∈ s'.deferred

section Tracking

variable {s s' : Working} {u : Unit}

/-- Neither settlements nor sessions have changed. -/
theorem Tracks.of_eq (hsettlements : s'.db.economy.settlements = s.db.economy.settlements)
    (hsessions : s'.db.game.sessions = s.db.game.sessions) (hdeferred : s.deferred ⊆ s'.deferred) :
    Tracks s s' where
  deferred := hdeferred
  settlements := fun _ hmem => .inl (hsettlements ▸ hmem)
  oneEach := hsettlements ▸ id
  settled := fun session hmem hlifecycle => .inl ⟨session, hsessions ▸ hmem, rfl, hlifecycle⟩

instance : Std.Refl Tracks := ⟨fun _ => .of_eq rfl rfl (List.Subset.refl _)⟩

instance : IsTrans Working Tracks := ⟨fun s s' s'' h h' => {
  deferred := List.Subset.trans h.deferred h'.deferred
  settlements := fun settlement hmem => (h'.settlements settlement hmem).elim
    (fun hmem => (h.settlements settlement hmem).imp id fun hin => h'.deferred hin) .inr
  oneEach := h'.oneEach ∘ h.oneEach
  settled := by
    intro session hmem hlifecycle
    obtain ⟨old, hold, hid, hsettled⟩ | hdeferred := h'.settled session hmem hlifecycle
    · rw [← hid]
      exact (h.settled old hold hsettled).imp id fun hin => h'.deferred hin
    · exact .inr hdeferred }⟩

theorem insertSettlement_tracks (row : SettlementRow) : Within Tracks (insertSettlement row) := by
  intro s u s' h
  obtain ⟨-, -, hone, rfl⟩ := insertSettlement_eq_ok.1 h
  refine { Std.Refl.refl (r := Tracks) s with
    deferred := List.subset_append_left _ _
    settlements := fun settlement hmem => ?_
    oneEach := fun hnodup => nodup_append_key hnodup hone
    settled := fun session hmem hlifecycle => .inl ⟨session, hmem, rfl, hlifecycle⟩ }
  rcases List.mem_append.1 hmem with hold | hnew
  · exact .inl hold
  · rw [List.mem_singleton.1 hnew]
    exact .inr (List.mem_append_right _ (List.mem_singleton_self _))

theorem updateSession_tracks (gameId : String) (lifecycle : SessionLifecycle)
    {f : SessionRow → SessionRow}
    (hf : ∀ row, (f row).id = row.id ∧ (f row).creatorUserId = row.creatorUserId) :
    Within Tracks (updateSession gameId lifecycle f) := by
  intro s u s' h
  obtain ⟨-, -, rfl⟩ := updateSession_eq_ok.1 h
  refine { Std.Refl.refl (r := Tracks) s with
    deferred := fun d hd => List.mem_append_left _ (List.mem_append_left _ hd)
    settlements := fun settlement hmem => .inl hmem
    settled := fun session hmem hlifecycle => ?_ }
  obtain ⟨old, hold, rfl⟩ := mem_updateWhere.1 hmem
  by_cases hid : old.id = gameId
  · rw [if_pos hid] at hlifecycle ⊢
    obtain rfl : lifecycle = .settled := hlifecycle
    rw [(hf old).1, hid]
    exact .inr (List.mem_append_right _ (List.mem_singleton_self _))
  · rw [if_neg hid] at hlifecycle ⊢
    exact .inl ⟨old, hold, rfl, hlifecycle⟩

theorem insertHistory_tracks (row : HistoryRow) : Within Tracks (insertHistory row) := by
  intro s u s' h
  obtain ⟨-, -, rfl⟩ := insertHistory_eq_ok.1 h
  exact .of_eq rfl rfl (List.Subset.refl _)

theorem tracks_statements : KeptByStatements Tracks where
  insertUser userId := .write fun s => .of_eq rfl rfl (List.Subset.refl _)
  insertAccountIfAbsent userId := by
    intro s u s' h
    obtain ⟨-, rfl⟩ | ⟨-, -, rfl⟩ := insertAccountIfAbsent_eq_ok.1 h
    · exact Std.Refl.refl _
    · exact .of_eq rfl rfl (List.Subset.refl _)
  updateAccount userId guard _ f _ := by
    intro s result s' h
    obtain ⟨-, rfl⟩ | ⟨account, -, -, -, -, -, -, rfl⟩ := updateAccount_ok h
    · exact Std.Refl.refl _
    · exact .of_eq rfl rfl (List.Subset.refl _)
  insertLedgerAccountIfAbsent row conflict _ := by
    intro s u s' h
    obtain ⟨-, rfl⟩ | ⟨-, -, rfl⟩ := insertLedgerAccountIfAbsent_ok h
    · exact Std.Refl.refl _
    · exact .of_eq rfl rfl (List.Subset.refl _)
  insertOperation row := by
    intro s u s' h
    obtain ⟨-, -, -, rfl⟩ := insertOperation_eq_ok.1 h
    exact .of_eq rfl rfl (List.subset_append_left _ _)
  commitOperation operationId response := by
    intro s u s' h
    obtain ⟨-, rfl⟩ := commitOperation_eq_ok.1 h
    exact .of_eq rfl rfl (List.subset_append_left _ _)
  insertEntry row := by
    intro s u s' h
    obtain ⟨-, -, -, -, rfl⟩ := insertEntry_eq_ok.1 h
    exact .of_eq rfl rfl (List.subset_append_left _ _)
  insertReservation row := by
    intro s u s' h
    obtain ⟨-, -, -, -, -, -, rfl⟩ := insertReservation_eq_ok.1 h
    exact .of_eq rfl rfl (List.Subset.refl _)
  closeReservation reservationId status operationId now := by
    intro s u s' h
    obtain ⟨-, -, -, rfl⟩ := closeReservation_eq_ok.1 h
    exact .of_eq rfl rfl (List.Subset.refl _)
  insertSettlement := insertSettlement_tracks
  insertSession row hopened := by
    intro s u s' h
    obtain ⟨-, -, -, -, -, -, -, rfl⟩ := insertSession_eq_ok.1 h
    refine { Std.Refl.refl (r := Tracks) s with
      deferred := List.subset_append_left _ _
      settlements := fun settlement hmem => .inl hmem
      settled := fun session hmem hlifecycle => ?_ }
    rcases List.mem_append.1 hmem with hold | hnew
    · exact .inl ⟨session, hold, rfl, hlifecycle⟩
    · rw [List.mem_singleton.1 hnew, hopened] at hlifecycle
      cases hlifecycle
  updateSession gameId lifecycle f hf := updateSession_tracks gameId lifecycle hf
  insertPlayer row := by
    intro s u s' h
    obtain ⟨-, -, -, -, -, -, -, rfl⟩ := insertPlayer_eq_ok.1 h
    exact .of_eq rfl rfl (List.subset_append_left _ _)
  deletePlayers p _ := by
    intro s u s' h
    rw [deletePlayers_eq_ok.1 h]
    exact .of_eq rfl rfl (List.Subset.refl _)
  insertJoinIntent row := by
    intro s u s' h
    obtain ⟨-, -, -, -, -, rfl⟩ := insertJoinIntent_eq_ok.1 h
    exact .of_eq rfl rfl (List.Subset.refl _)
  updateJoinIntents p _ status now := by
    intro s u s' h
    obtain ⟨-, -, rfl⟩ := updateJoinIntents_eq_ok.1 h
    exact .of_eq rfl rfl (List.Subset.refl _)
  insertTicket row := by
    intro s u s' h
    obtain ⟨-, -, -, -, -, -, rfl⟩ := insertTicket_eq_ok.1 h
    exact .of_eq rfl rfl (List.Subset.refl _)
  updateTickets p _ f := by
    intro s u s' h
    obtain ⟨-, -, -, -, rfl⟩ := updateTickets_eq_ok.1 h
    exact .of_eq rfl rfl (List.Subset.refl _)
  insertHistory row _ := insertHistory_tracks row

theorem writeCompletedHistory_tracks (gameId winnerUserId : String) (prize now : ℤ)
    (p : Participant) :
    Within Tracks (writeCompletedHistory gameId winnerUserId prize now p) := by
  refine .bind (insertHistory_tracks _) fun _ s u s' h => ?_
  obtain ⟨-, rfl⟩ | ⟨-, rfl⟩ := upsertLeaderboard_ok h <;>
    exact .of_eq rfl rfl (List.Subset.refl _)

theorem runCall_tracks {digests : Digests} {settings : Settings} {fresh : Fresh} {now : ℤ}
    (call : ApiCall) : Within Tracks (runCall digests settings fresh now call) :=
  tracks_statements.runCall call fun _ _ _ _ => tracks_statements.settle _ _ _ fun _ _ _ =>
    writeCompletedHistory_tracks _ _ _ _ _

end Tracking

/-! ### Runs -/

section Runs

variable {digests : Digests} {settings : Settings} {codec : Server.Codec} {db db' : Database}

/-- Between two transactions every settled session has its outcome, and one. -/
structure Ended (digests : Digests) (db : Database) : Prop where
  seated : Seated db.seating
  books : Closed digests db
  oneEach : (db.economy.settlements.map SettlementRow.gameSessionId).Nodup
  settled : ∀ session ∈ db.game.sessions, session.lifecycle = .settled →
    ∃ settlement ∈ db.economy.settlements, settlement.gameSessionId = session.id
  outcome : ∀ settlement ∈ db.economy.settlements, Outcome db settlement

theorem Initial.ended (h : Initial db) : Ended digests db where
  seated := h.seated
  books := h.closed
  oneEach := by simp [h.economy]
  settled := by simp [h.sessions]
  outcome := by simp [h.economy]

theorem SystemStep.ended {label : SystemLabel} (h : Ended digests db)
    (hstep : SystemStep digests settings codec db label db') : Ended digests db' := by
  have hseated := hstep.seated h.seated
  have hbooks := hstep.closed h.books
  have hold : ∀ settlement ∈ db.economy.settlements, Outcome db' settlement :=
    fun settlement hmem => (h.outcome settlement hmem).step h.seated h.books hstep
  cases hstep with
  | rolledBack => exact h
  | room =>
    exact { seated := hseated, books := hbooks, oneEach := h.oneEach, settled := h.settled,
            outcome := hold }
  | committed hcommit =>
    obtain ⟨s, hcall, hholds, rfl⟩ := withTransaction_eq_ok.1 hcommit
    have htracks : Tracks ⟨db, []⟩ s := runCall_tracks _ _ _ _ hcall
    have hgrows : Grows ⟨db, []⟩ s := runCall_grows _ _ _ _ hcall
    refine ⟨hseated, hbooks, htracks.oneEach h.oneEach, fun session hmem hlifecycle => ?_,
      fun settlement hmem => ?_⟩
    · rcases htracks.settled session hmem hlifecycle with ⟨old, hmemOld, hid, hsettled⟩ | hdeferred
      · obtain ⟨settlement, hsettlement, hgame⟩ := h.settled old hmemOld hsettled
        exact ⟨settlement, hgrows.settlements.subset hsettlement, hgame.trans hid⟩
      · exact hholds _ hdeferred rfl
    · rcases htracks.settlements settlement hmem with hmemOld | hdeferred
      · exact hold settlement hmemOld
      · exact TerminalSettlement.outcome hseated hbooks (hholds _ hdeferred)

theorem ended_of_run {labels : List SystemLabel} (hinitial : Initial db)
    (hrun : Run (SystemStep digests settings codec) db labels db') : Ended digests db' :=
  hrun.invariant (I := Ended digests) (fun _ _ _ h hstep => hstep.ended h) hinitial.ended

end Runs

/-- What a session pays out in the end is what those who are seated have put in. -/
theorem sum_payout {db : Database} (hs : Seated db.seating) {settlement : SettlementRow}
    (h : Outcome db settlement) :
    ((seatedReservations db settlement.gameSessionId).map fun seat =>
      settlement.kind.payout (prizeOf db settlement.gameSessionId) seat.2 - seat.2.amount).sum =
        0 := by
  set seats := seatedReservations db settlement.gameSessionId
  set prize := prizeOf db settlement.gameSessionId
  have hsub : (seats.map fun seat => settlement.kind.payout prize seat.2 - seat.2.amount).sum =
      (seats.map fun seat => settlement.kind.payout prize seat.2).sum -
        (seats.map fun seat => seat.2.amount).sum := by
    simpa only [Multiset.map_coe, Multiset.sum_coe] using
      Multiset.sum_map_sub (m := (seats : Multiset Seat)) (f := fun seat =>
        settlement.kind.payout prize seat.2) (g := fun seat => seat.2.amount)
  have hpaid : (seats.map fun seat => settlement.kind.payout prize seat.2).sum = prize := by
    have hwinner := h.winner
    cases hkind : settlement.kind with
    | completed version checksum winnerUserId =>
      rw [hkind] at hwinner
      obtain ⟨seat, hseat, rfl⟩ := hwinner
      exact sumWhere_key (w := fun _ : Seat => prize) (nodup_seatUsers hs _) hseat
    | aborted reason => rfl
  rw [hsub, hpaid]
  exact sub_self prize

/-- Along every run of the API, whatever its calls and however they interleave: a session has an
outcome when it is settled, and one; the operation of the outcome has taken from each seat what it
had put in, and paid the prize to the winner of a completed match, or each what it had put in when
the match was aborted; and the history has the differences, which cancel out. -/
theorem outcomes_pay_exactly (digests : Digests) (settings : Settings) (codec : Server.Codec)
    {labels : List SystemLabel} {start db : Database} (hinitial : Initial start)
    (hrun : Run (SystemStep digests settings codec) start labels db) :
    (db.economy.settlements.map SettlementRow.gameSessionId).Nodup ∧
    (∀ session ∈ db.game.sessions, session.lifecycle = .settled ↔
      ∃ settlement ∈ db.economy.settlements, settlement.gameSessionId = session.id) ∧
    ∀ settlement ∈ db.economy.settlements, Outcome db settlement ∧
      ((seatedReservations db settlement.gameSessionId).map fun seat =>
        settlement.kind.payout (prizeOf db settlement.gameSessionId) seat.2 -
          seat.2.amount).sum = 0 := by
  have h : Ended digests db := ended_of_run hinitial hrun
  refine ⟨h.oneEach, fun session hmem => ⟨h.settled session hmem, ?_⟩, fun settlement hmem =>
    ⟨h.outcome settlement hmem, sum_payout h.seated (h.outcome settlement hmem)⟩⟩
  rintro ⟨settlement, hsettlement, hgame⟩
  exact SessionIs.of_mem h.seated (h.outcome settlement hsettlement).session hmem hgame.symm

/-- Both enter the room, the match starts, and an operator aborts it. -/
def playThenAbort : List (ApiCall × String × ℤ) :=
  [(.consumeTicket ⟨"alice's ticket", "game", "room", "one"⟩ "one", "alice enters", 1004),
    (.consumeTicket ⟨"bob's ticket", "game", "room", "one"⟩ "two", "bob enters", 1005),
    (.markStarted "game" "room" 1 "start", "start", 1006),
    (.abort "game" .operatorDecision "abort", "abort", 1007)]

/-- Alice and bob have back what they had put in. -/
theorem outcomes_pay_exactly_aborted :
    (afterCalls playThenAbort seatedDatabase).economy.settlements =
      [⟨"abort settlement", "game", .aborted .operatorDecision, "abort operation"⟩] ∧
    ∀ settlement ∈ (afterCalls playThenAbort seatedDatabase).economy.settlements,
      Outcome (afterCalls playThenAbort seatedDatabase) settlement :=
  ⟨rfl, fun settlement hmem => ((outcomes_pay_exactly plainDigests shortSettings plainCodec
    emptyDatabase_initial ((run_afterCalls plainCodec aliceAndBob emptyDatabase).append
      (run_afterCalls plainCodec playThenAbort seatedDatabase))).2.2 settlement hmem).1⟩

end Pootown.Api
