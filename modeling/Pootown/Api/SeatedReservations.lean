import Mathlib.Tactic
import Pootown.Api.SeatCalls
import Pootown.Library.CanonicalJson
import Pootown.Server.Fencing

/-!
# Seats and reservations

`seats_match_reservations`: in every state that the API reaches, the seats of a session that has
not ended are those of its open reservations and of its admitted intents, one for one; a session
that has ended has no open reservation; and a reservation has at most one unused ticket, which
admits to its seat.
-/

namespace Pootown.Api

open Tables Transactions Runs

section Matching

variable {db : Database} {session : SessionRow} {seat : PlayerRow} {r : ReservationRow}

/-- The admitted intents of a session. -/
def admittedIntents (db : Database) (gameId : String) : List JoinIntentRow :=
  db.game.joinIntents.filter fun row => row.gameSessionId = gameId ∧ row.status = .admitted

theorem mem_activePlayers {gameId : String} :
    seat ∈ activePlayers db gameId ↔
      seat ∈ db.game.players ∧ seat.gameSessionId = gameId ∧ seat.active = true := by
  rw [activePlayers, mem_orderBy, List.mem_filter, decide_eq_true_iff]

theorem mem_reservedInSession {gameId : String} :
    r ∈ reservedInSession db gameId ↔
      r ∈ db.economy.reservations ∧ r.gameSessionId = gameId ∧ r.status = .reserved := by
  rw [reservedInSession, mem_orderBy, List.mem_filter, decide_eq_true_iff]

theorem mem_admittedIntents {gameId : String} {intent : JoinIntentRow} :
    intent ∈ admittedIntents db gameId ↔ intent ∈ db.game.joinIntents ∧
      intent.gameSessionId = gameId ∧ intent.status = .admitted := by
  rw [admittedIntents, List.mem_filter, decide_eq_true_iff]

/-- A session that players may be in. -/
def SessionRow.Running (session : SessionRow) : Prop :=
  session.lifecycle = .opened ∨ session.lifecycle = .active ∨
    session.lifecycle = .recoveryRequired

/-- In a session that has not ended, what is held is open. -/
theorem Held.reserved (hs : Seated db.seating) (hheld : Held db.seating r)
    (hmem : session ∈ db.game.sessions) (hrunning : session.Running)
    (hgame : r.gameSessionId = session.id) : r.status = .reserved := by
  refine hheld.resolve_right fun hsettled => ?_
  have hlifecycle := hsettled.of_mem hs hmem hgame.symm
  rcases hrunning with h | h | h <;> exact absurd (h.symm.trans hlifecycle) (by decide)

theorem nodup_activePlayers {κ : Type} {key : PlayerRow → κ} {gameId : String}
    (h : (db.game.players.map key).Nodup) : ((activePlayers db gameId).map key).Nodup :=
  ((orderBy_perm _ _).map key).nodup_iff.2 (h.sublist (List.filter_sublist.map key))

theorem nodup_reservedInSession {gameId : String}
    (h : (db.economy.reservations.map ReservationRow.id).Nodup) :
    ((reservedInSession db gameId).map ReservationRow.id).Nodup :=
  ((orderBy_perm _ _).map _).nodup_iff.2 (h.sublist (List.filter_sublist.map _))

/-- Keys that are distinct stay so beside a second component. -/
theorem nodup_map_pair {α β γ : Type} {key : α → β} {other : α → γ} {rows : List α}
    (h : (rows.map key).Nodup) : (rows.map fun row => (key row, other row)).Nodup :=
  List.Nodup.of_map Prod.fst (by rwa [List.map_map])

theorem seats_perm_reservations (hs : Seated db.seating) (hmem : session ∈ db.game.sessions)
    (hrunning : session.Running) :
    ((activePlayers db session.id).map fun seat => (seat.reservationId, seat.userId)).Perm
      ((reservedInSession db session.id).map fun r => (r.id, r.userId)) := by
  refine (List.perm_ext_iff_of_nodup
    (nodup_map_pair (nodup_activePlayers hs.keys.seats))
    (nodup_map_pair (nodup_reservedInSession hs.keys.reservations))).2 fun pair => ?_
  rw [List.mem_map, List.mem_map]
  constructor
  · rintro ⟨seat, hseat, rfl⟩
    obtain ⟨hseat, hgame, -⟩ := mem_activePlayers.1 hseat
    obtain ⟨-, r, hr, ⟨hid, huser, hsession⟩, hheld⟩ := hs.ofSeat seat hseat
    have hrGame := hsession.symm.trans hgame
    exact ⟨r, mem_reservedInSession.2 ⟨hr, hrGame, hheld.reserved hs hmem hrunning hrGame⟩,
      by rw [hid, huser]⟩
  · rintro ⟨r, hr, rfl⟩
    obtain ⟨hr, hgame, hopen⟩ := mem_reservedInSession.1 hr
    obtain ⟨seat, hseat, hactive, hid, huser, hsession⟩ := hs.seat r hr hopen
    exact ⟨seat, mem_activePlayers.2 ⟨hseat, hsession.trans hgame, hactive⟩, by rw [hid, huser]⟩

theorem seats_perm_intents (hs : Seated db.seating) (hmem : session ∈ db.game.sessions)
    (hrunning : session.Running) :
    ((activePlayers db session.id).map fun seat => (seat.reservationId, seat.userId)).Perm
      ((admittedIntents db session.id).map fun intent =>
        (intent.reservationId, intent.userId)) := by
  refine (List.perm_ext_iff_of_nodup
    (nodup_map_pair (nodup_activePlayers hs.keys.seats))
    (nodup_map_pair (hs.keys.intents.sublist (List.filter_sublist.map _)))).2 fun pair => ?_
  rw [List.mem_map, List.mem_map]
  constructor
  · rintro ⟨seat, hseat, rfl⟩
    obtain ⟨hseat, hgame, -⟩ := mem_activePlayers.1 hseat
    obtain ⟨-, r, hr, ⟨hid, huser, hsession⟩, hheld⟩ := hs.ofSeat seat hseat
    have hrGame := hsession.symm.trans hgame
    obtain ⟨intent, hintent, hadmitted, hid', huser', hsession'⟩ :=
      hs.intent r hr (hheld.reserved hs hmem hrunning hrGame)
    exact ⟨intent, mem_admittedIntents.2 ⟨hintent, hsession'.trans hrGame, hadmitted⟩,
      by rw [hid, huser, hid', huser']⟩
  · rintro ⟨intent, hintent, rfl⟩
    obtain ⟨hintent, hgame, hadmitted⟩ := mem_admittedIntents.1 hintent
    obtain ⟨-, r, hr, ⟨hid, huser, hsession⟩, hheld⟩ := hs.ofIntent intent hintent
    have hrGame := hsession.symm.trans hgame
    obtain ⟨seat, hseat, hactive, hid', huser', hsession'⟩ :=
      hs.seat r hr ((hheld hadmitted).reserved hs hmem hrunning hrGame)
    exact ⟨seat, mem_activePlayers.2 ⟨hseat, hsession'.trans hrGame, hactive⟩,
      by rw [hid, huser, hid', huser']⟩

/-- The seats of a session are distinct, within its maximum, and the creator has the first. -/
theorem seatIndexes_of_seated (hs : Seated db.seating) (hmem : session ∈ db.game.sessions)
    (hrunning : session.Running) :
    ((activePlayers db session.id).map PlayerRow.seatIndex).Nodup ∧
      (∀ seat ∈ activePlayers db session.id, seat.seatIndex < session.maximumPlayers) ∧
      ∃ seat ∈ activePlayers db session.id,
        seat.userId = session.creatorUserId ∧ seat.seatIndex = 0 := by
  refine ⟨?_, fun seat hseat => ?_, ?_⟩
  · refine ((orderBy_perm _ _).map _).nodup_iff.2 (List.pairwise_map.2 ?_)
    refine (hs.keys.seatIndexes.filter _).imp_of_mem fun {a b} ha hb h => h ?_
    have hgame : a.gameSessionId = session.id ∧ a.active = true := by
      simpa using (List.mem_filter.1 ha).2
    have hgame' : b.gameSessionId = session.id ∧ b.active = true := by
      simpa using (List.mem_filter.1 hb).2
    exact hgame.1.trans hgame'.1.symm
  · obtain ⟨hseat, hgame, -⟩ := mem_activePlayers.1 hseat
    exact (hs.capacity seat hseat).of_mem hs hmem hgame.symm
  · obtain ⟨seat, hseat, hgame, huser, hindex⟩ := hs.creator session hmem fun hcancelled => by
      rcases hrunning with h | h | h <;> exact absurd (h.symm.trans hcancelled) (by decide)
    exact ⟨seat, mem_activePlayers.2 ⟨hseat, hgame, (hs.ofSeat seat hseat).1⟩, huser, hindex⟩

end Matching

/-- Along every run of the API, whatever its calls and however they interleave. -/
theorem seats_match_reservations (digests : Digests) (settings : Settings) (codec : Server.Codec)
    {labels : List SystemLabel} {start db : Database} (hinitial : Initial start)
    (hrun : Run (SystemStep digests settings codec) start labels db) :
    (∀ session ∈ db.game.sessions, session.Running →
      ((activePlayers db session.id).map PlayerRow.reservationId).Nodup ∧
      ((activePlayers db session.id).map fun seat => (seat.reservationId, seat.userId)).Perm
        ((reservedInSession db session.id).map fun r => (r.id, r.userId)) ∧
      ((activePlayers db session.id).map fun seat => (seat.reservationId, seat.userId)).Perm
        ((admittedIntents db session.id).map fun intent =>
          (intent.reservationId, intent.userId)) ∧
      ((activePlayers db session.id).map PlayerRow.seatIndex).Nodup ∧
      (∀ seat ∈ activePlayers db session.id, seat.seatIndex < session.maximumPlayers) ∧
      ∃ seat ∈ activePlayers db session.id,
        seat.userId = session.creatorUserId ∧ seat.seatIndex = 0) ∧
    (∀ session ∈ db.game.sessions,
      session.lifecycle = .cancelled ∨ session.lifecycle = .settled →
      ∀ r ∈ db.economy.reservations, r.gameSessionId = session.id → r.status ≠ .reserved) ∧
    ∀ ticket ∈ db.game.tickets, ticket.consumption = none →
      (∀ other ∈ db.game.tickets, other.consumption = none →
        other.reservationId = ticket.reservationId → other = ticket) ∧
      ∀ seat ∈ db.game.players, seat.reservationId = ticket.reservationId →
        seat.playerId = ticket.playerId ∧ seat.userId = ticket.userId := by
  have hs := seated_of_run hinitial hrun
  refine ⟨fun session hmem hrunning => ⟨nodup_activePlayers hs.keys.seats,
    seats_perm_reservations hs hmem hrunning, seats_perm_intents hs hmem hrunning,
    seatIndexes_of_seated hs hmem hrunning⟩, hs.closed, fun ticket hticket hunused =>
    ⟨fun other hother hunused' => hs.oneUnused ticket hticket other hother hunused hunused',
      fun seat hseat hid => ⟨hs.ticketSeat ticket hticket seat hseat hid, ?_⟩⟩⟩
  obtain ⟨r, hr, hrId, huser, -⟩ := hs.ofTicket ticket hticket
  obtain ⟨-, r', hr', ⟨hrId', huser', -⟩, -⟩ := hs.ofSeat seat hseat
  rw [huser', huser, eq_of_key_eq hs.keys.reservations hr hr'
    (hrId'.symm.trans (hid.trans hrId))]

/-! ### Two players -/

/-- Digests that show what they are of. -/
def plainDigests : Digests where
  requestHash
    | .session gameId => "session " ++ gameId
    | .createSession gameDefinitionId => "create " ++ gameDefinitionId
    | .consumeTicket request => String.ofList (CanonicalJson.render (.arr [.str request.ticket,
        .str request.gameId, .str request.roomId, .str request.roomInstanceId]))
    | _ => "other"
  tokenHash := id
  userDigest := id

/-- Texts that are their own digests; no snapshot is read. -/
def plainCodec : Server.Codec := ⟨id, fun _ => none⟩

def shortSettings : Settings := ⟨1000, 100, 60000, 60000, 60000⟩

/-- A database with one definition, for games of two with an entry of 50. -/
def emptyDatabase : Database where
  users := []
  economy := ⟨[], [], [], [], [], []⟩
  game := ⟨[⟨"duel", 1, 2, 50, none, true⟩], [], [], [], []⟩
  readModel := ⟨[], []⟩
  realtime := Server.freshRealtime fun _ => none

theorem emptyDatabase_initial : Initial emptyDatabase :=
  ⟨rfl, rfl, rfl, rfl, rfl, rfl, rfl, rfl, fun _ => rfl, fun _ => rfl, fun _ => rfl⟩

def freshNamed (name : String) : Fresh :=
  ⟨name ++ " operation", "game", "room", name ++ " reservation", name ++ " player",
    name ++ " intent", name ++ " ticket row", name ++ " ticket", name ++ " settlement"⟩

/-- The database after these calls, each at its own time, with identifiers of its own. -/
noncomputable def afterCalls (calls : List (ApiCall × String × ℤ)) (db : Database) : Database :=
  calls.foldl (fun db call =>
    afterCall plainDigests shortSettings call.1 (freshNamed call.2.1) call.2.2 db) db

theorem run_afterCalls (codec : Server.Codec) (calls : List (ApiCall × String × ℤ))
    (db : Database) :
    Run (SystemStep plainDigests shortSettings codec) db
      (calls.map fun call => .call call.1 (freshNamed call.2.1) call.2.2) (afterCalls calls db) := by
  induction calls generalizing db with
  | nil => exact .nil db
  | cons call rest ih => exact .cons (systemStep_afterCall ..) (ih _)

/-- Alice and bob register; alice opens a session and bob joins it. -/
def aliceAndBob : List (ApiCall × String × ℤ) :=
  [(.registerUser "alice", "alice", 1000), (.registerUser "bob", "bob", 1001),
    (.createSession "alice" "duel" "open", "alice's", 1002),
    (.joinSession "bob" "game" "join", "bob's", 1003)]

noncomputable def seatedDatabase : Database := afterCalls aliceAndBob emptyDatabase

/-- Both sit in the session that alice has opened, for the two reservations in it. -/
theorem seats_match_reservations_two :
    (activePlayers seatedDatabase "game").map (fun seat => (seat.reservationId, seat.userId)) =
      [("alice's reservation", "alice"), ("bob's reservation", "bob")] ∧
    ((activePlayers seatedDatabase "game").map fun seat => (seat.reservationId, seat.userId)).Perm
      ((reservedInSession seatedDatabase "game").map fun r => (r.id, r.userId)) := by
  refine ⟨rfl, ?_⟩
  obtain ⟨hmatch, -⟩ := seats_match_reservations plainDigests shortSettings plainCodec
    emptyDatabase_initial (run_afterCalls plainCodec aliceAndBob emptyDatabase)
  have hsession : openSession ⟨"duel", 1, 2, 50, none, true⟩ "alice" (freshNamed "alice's") 1002 ∈
      seatedDatabase.game.sessions := List.mem_singleton_self _
  exact (hmatch _ hsession (.inl rfl)).2.1

end Pootown.Api
