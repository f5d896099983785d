import Mathlib.Tactic
import Pootown.Api.Outcomes

/-!
# The leaderboard

The leaderboard is kept beside the history, one game at a time. It always says what counting the
history would.

* `tally`: what a user's line is to say;
* `Tallies`, `Scores`: each kind of statement keeps the lines right, given the prize of a session;
* `settle_scores`: the prize that a settlement pays is what its session has put in;
* `leaderboard_tallies_history`.
-/

namespace Pootown.Api

open Tables Transactions Runs

/-- A game that the leaderboard counts. -/
abbrev HistoryRow.Counted (row : HistoryRow) : Prop := row.result = .won ∨ row.result = .lost

/-- What a game adds to the line of a user: played, won, and the prize. -/
def HistoryRow.score (prize : String → ℤ) (userId : String) (row : HistoryRow) : ℕ × ℕ × ℤ :=
  if row.userId = userId ∧ row.Counted then
    (1, if row.result = .won then (1, prize row.gameSessionId) else (0, 0))
  else 0

/-- What the games of a user come to. -/
def tally (prize : String → ℤ) (history : List HistoryRow) (userId : String) : ℕ × ℕ × ℤ :=
  (history.map (HistoryRow.score prize userId)).sum

def LeaderboardRow.tally (line : LeaderboardRow) : ℕ × ℕ × ℤ :=
  (line.gamesPlayed, line.gamesWon, line.accountCoinWon)

section Tally

variable {prize : String → ℤ} {history : List HistoryRow} {userId : String}

theorem tally_append (row : HistoryRow) :
    tally prize (history ++ [row]) userId =
      tally prize history userId + row.score prize userId := by
  simp [tally]

theorem HistoryRow.score_of_not {row : HistoryRow} (h : ¬ (row.userId = userId ∧ row.Counted)) :
    row.score prize userId = 0 := if_neg h

theorem tally_eq_zero (h : ∀ row ∈ history, row.Counted → row.userId ≠ userId) :
    tally prize history userId = 0 :=
  List.sum_eq_zero fun x hx => by
    obtain ⟨row, hrow, rfl⟩ := List.mem_map.1 hx
    exact HistoryRow.score_of_not fun hscored => h row hrow hscored.2 hscored.1

theorem tally_congr {prize' : String → ℤ}
    (h : ∀ row ∈ history, row.Counted → prize' row.gameSessionId = prize row.gameSessionId) :
    tally prize' history userId = tally prize history userId := by
  refine congrArg List.sum (List.map_congr_left fun row hrow => ?_)
  by_cases hscored : row.userId = userId ∧ row.Counted
  · rw [HistoryRow.score, HistoryRow.score, if_pos hscored, if_pos hscored,
      h row hrow hscored.2]
  · rw [HistoryRow.score_of_not hscored, HistoryRow.score_of_not hscored]

/-- A tally in numbers. -/
theorem tally_eq (prize : String → ℤ) (history : List HistoryRow) (userId : String) :
    tally prize history userId =
      (history.countP fun row => row.userId = userId ∧ row.Counted,
        history.countP fun row => row.userId = userId ∧ row.result = .won,
        sumWhere (fun row => row.userId = userId ∧ row.result = .won)
          (fun row => prize row.gameSessionId) history) := by
  induction history with
  | nil => rfl
  | cons row rest ih =>
    rw [tally, List.map_cons, List.sum_cons, ← tally, ih, HistoryRow.score]
    by_cases huser : row.userId = userId
    · by_cases hwon : row.result = .won
      · simp [huser, hwon, HistoryRow.Counted, add_comm]
      · by_cases hlost : row.result = .lost <;>
          simp [huser, hwon, hlost, HistoryRow.Counted, add_comm]
    · simp [huser]

end Tally

/-! ### Lines that are right -/

/-- Every user who has a game that counts has one line, which says what the games come to. -/
structure Tallies (prize : String → ℤ) (r : ReadModel) : Prop where
  users : (r.leaderboard.map LeaderboardRow.userId).Nodup
  listed : ∀ row ∈ r.history, row.Counted → ∃ line ∈ r.leaderboard, line.userId = row.userId
  line : ∀ line ∈ r.leaderboard, line.tally = tally prize r.history line.userId ∧
    ∃ row ∈ r.history, row.userId = line.userId ∧ row.Counted

section Lines

variable {prize : String → ℤ} {r : ReadModel}

theorem Tallies.congr {prize' : String → ℤ} (h : Tallies prize r)
    (hprize : ∀ row ∈ r.history, row.Counted →
      prize' row.gameSessionId = prize row.gameSessionId) : Tallies prize' r where
  users := h.users
  listed := h.listed
  line := fun line hline => ⟨(h.line line hline).1.trans (tally_congr hprize).symm,
    (h.line line hline).2⟩

/-- A game that the leaderboard does not count. -/
theorem Tallies.append (h : Tallies prize r) {row : HistoryRow} (hrow : ¬ row.Counted) :
    Tallies prize { r with history := r.history ++ [row] } where
  users := h.users
  listed := by
    intro other hother hcounted
    rcases List.mem_append.1 hother with hold | hnew
    · exact h.listed other hold hcounted
    · rw [List.mem_singleton.1 hnew] at hcounted
      exact absurd hcounted hrow
  line := by
    intro line hline
    obtain ⟨htally, other, hother, hscored⟩ := h.line line hline
    refine ⟨?_, other, List.mem_append_left _ hother, hscored⟩
    rw [htally, tally_append, HistoryRow.score_of_not fun hscored => hrow hscored.2, add_zero]

theorem LeaderboardRow.tally_after {row other : LeaderboardRow} (hone : row.gamesPlayed = 1) :
    (row.after other).tally = other.tally + row.tally := by
  simp [LeaderboardRow.tally, LeaderboardRow.after, hone]

/-- A game that counts, with the line of its user. -/
theorem Tallies.record (h : Tallies prize r) {row : HistoryRow} {line : LeaderboardRow}
    {leaderboard : List LeaderboardRow} (hcounted : row.Counted) (huser : line.userId = row.userId)
    (hone : line.gamesPlayed = 1) (hline : line.tally = row.score prize row.userId)
    (hwrite : (leaderboard = r.leaderboard ++ [line] ∧
        ∀ other ∈ r.leaderboard, other.userId ≠ line.userId) ∨
      leaderboard =
        updateWhere (fun other => other.userId = line.userId) line.after r.leaderboard ∧
        ∃ old ∈ r.leaderboard, old.userId = line.userId) :
    Tallies prize ⟨r.history ++ [row], leaderboard⟩ := by
  have hother : ∀ {userId : String}, userId ≠ row.userId →
      tally prize (r.history ++ [row]) userId = tally prize r.history userId := fun hne => by
    rw [tally_append, HistoryRow.score_of_not fun hscored => hne hscored.1.symm, add_zero]
  have hkept : ∀ {userId : String}, (∃ other ∈ r.history, other.userId = userId ∧ other.Counted) →
      ∃ other ∈ r.history ++ [row], other.userId = userId ∧ other.Counted := by
    rintro userId ⟨other, hmem, hscored⟩
    exact ⟨other, List.mem_append_left _ hmem, hscored⟩
  have hnew : ∃ other ∈ r.history ++ [row], other.userId = row.userId ∧ other.Counted :=
    ⟨row, List.mem_append_right _ (List.mem_singleton_self _), rfl, hcounted⟩
  rcases hwrite with ⟨rfl, hfirst⟩ | ⟨rfl, old, hold, holdUser⟩
  · refine ⟨nodup_append_key h.users hfirst, fun other hmem hcounted' => ?_, fun other hmem => ?_⟩
    · rcases List.mem_append.1 hmem with hmem | hmem
      · obtain ⟨its, hits, hitsUser⟩ := h.listed other hmem hcounted'
        exact ⟨its, List.mem_append_left _ hits, hitsUser⟩
      · rw [List.mem_singleton.1 hmem]
        exact ⟨line, List.mem_append_right _ (List.mem_singleton_self _), huser⟩
    · rcases List.mem_append.1 hmem with hmem | hmem
      · rw [hother fun heq => hfirst other hmem (heq.trans huser.symm)]
        exact ⟨(h.line other hmem).1, hkept (h.line other hmem).2⟩
      · -- the user had no line, and so no game that counts
        obtain rfl := List.mem_singleton.1 hmem
        rw [huser, tally_append, tally_eq_zero fun played hplayed hscored heq => ?_, zero_add]
        · exact ⟨hline, hnew⟩
        · obtain ⟨its, hits, hitsUser⟩ := h.listed played hplayed hscored
          exact hfirst its hits (hitsUser.trans (heq.trans huser.symm))
  · have hmap : (updateWhere (fun other => other.userId = line.userId) line.after
        r.leaderboard).map LeaderboardRow.userId = r.leaderboard.map LeaderboardRow.userId :=
      map_updateWhere fun other _ _ => rfl
    refine ⟨hmap ▸ h.users, fun other hmem hcounted' => ?_, fun other hmem => ?_⟩
    · have hlisted : ∃ its ∈ r.leaderboard, its.userId = other.userId := by
        rcases List.mem_append.1 hmem with hmem | hmem
        · exact h.listed other hmem hcounted'
        · rw [List.mem_singleton.1 hmem]
          exact ⟨old, hold, holdUser.trans huser⟩
      have hin := List.mem_map.2 hlisted
      rw [← hmap] at hin
      exact List.mem_map.1 hin
    · obtain ⟨its, hits, rfl⟩ := mem_updateWhere.1 hmem
      by_cases hits' : its.userId = line.userId
      · rw [if_pos hits', LeaderboardRow.tally_after hone, (h.line its hits).1, hline]
        change _ = tally prize (r.history ++ [row]) its.userId ∧ ∃ other ∈ _, _ = its.userId ∧ _
        rw [hits', huser, tally_append]
        exact ⟨rfl, hnew⟩
      · rw [if_neg hits', hother fun heq => hits' (heq.trans huser.symm)]
        exact ⟨(h.line its hits).1, hkept (h.line its hits).2⟩

end Lines

/-! ### Statements -/

section Statements

variable {prize : String → ℤ} {game : Option String} {s s' : Working} {u : Unit}

/-- The lines have stayed right, if `prize` is what each session pays to its winner, and no games
have been counted but those of one session. -/
structure Scores (prize : String → ℤ) (game : Option String) (s s' : Working) : Prop where
  tallies : Tallies prize s.db.readModel → Tallies prize s'.db.readModel
  counted : ∀ row ∈ s'.db.readModel.history, row.Counted →
    row ∈ s.db.readModel.history ∨ some row.gameSessionId = game
  keys : (s.db.readModel.history.map fun row => (row.gameSessionId, row.userId)).Nodup →
    (s'.db.readModel.history.map fun row => (row.gameSessionId, row.userId)).Nodup

theorem Scores.of_eq (h : s'.db.readModel = s.db.readModel) : Scores prize game s s' where
  tallies := h ▸ id
  counted := fun _ hrow _ => .inl (h ▸ hrow)
  keys := h ▸ id

instance : Std.Refl (Scores prize game) := ⟨fun _ => .of_eq rfl⟩

instance : IsTrans Working (Scores prize game) := ⟨fun _ _ _ h h' => {
  tallies := h'.tallies ∘ h.tallies
  counted := fun row hrow hcounted =>
    (h'.counted row hrow hcounted).elim (fun hrow => h.counted row hrow hcounted) .inr
  keys := h'.keys ∘ h.keys }⟩

theorem insertHistory_key {row : HistoryRow} (h : insertHistory row s = .ok (u, s'))
    (hnodup : (s.db.readModel.history.map fun row => (row.gameSessionId, row.userId)).Nodup) :
    (s'.db.readModel.history.map fun row => (row.gameSessionId, row.userId)).Nodup := by
  obtain ⟨hkey, -, rfl⟩ := insertHistory_eq_ok.1 h
  exact nodup_append_key hnodup fun other hother heq => hkey other hother (Prod.mk.inj heq)

theorem insertHistory_scores {row : HistoryRow} (hrow : ¬ row.Counted) :
    Within (Scores prize game) (insertHistory row) := by
  intro s u s' h
  have hkeys := insertHistory_key h
  obtain ⟨-, -, rfl⟩ := insertHistory_eq_ok.1 h
  refine ⟨fun htallies => htallies.append hrow, fun other hother hcounted => ?_, hkeys⟩
  rcases List.mem_append.1 hother with hold | hnew
  · exact .inl hold
  · rw [List.mem_singleton.1 hnew] at hcounted
    exact absurd hcounted hrow

/-- The line of a participant has the prize, if it is the prize of the session. -/
theorem writeCompletedHistory_scores {gameId winnerUserId : String} {total : ℤ} (now : ℤ)
    (p : Participant) (hprize : prize gameId = total) :
    Within (Scores prize (some gameId))
      (writeCompletedHistory gameId winnerUserId total now p) := by
  intro s u s' h
  obtain ⟨_, m, hhistory, hleaderboard⟩ := bind_eq_ok.1 h
  have hkeys := insertHistory_key hhistory
  obtain ⟨-, -, rfl⟩ := insertHistory_eq_ok.1 hhistory
  have hrow : (completedHistory gameId winnerUserId total now p).Counted := by
    by_cases hwon : p.reservation.userId = winnerUserId <;>
      simp [completedHistory, hwon, HistoryRow.Counted]
  have hline : LeaderboardRow.tally ⟨p.reservation.userId, p.playerId, 1,
      if p.reservation.userId = winnerUserId then 1 else 0,
      if p.reservation.userId = winnerUserId then total else 0⟩ =
      (completedHistory gameId winnerUserId total now p).score prize p.reservation.userId := by
    have hscored : (completedHistory gameId winnerUserId total now p).userId =
        p.reservation.userId ∧ (completedHistory gameId winnerUserId total now p).Counted :=
      ⟨rfl, hrow⟩
    rw [HistoryRow.score, if_pos hscored]
    by_cases hwon : p.reservation.userId = winnerUserId <;>
      simp [completedHistory, hwon, hprize, LeaderboardRow.tally]
  have hfrom : ∀ row ∈ s.db.readModel.history ++
      [completedHistory gameId winnerUserId total now p], row.Counted →
      row ∈ s.db.readModel.history ∨ some row.gameSessionId = some gameId := by
    intro row hrow _
    rcases List.mem_append.1 hrow with hold | hnew
    · exact .inl hold
    · rw [List.mem_singleton.1 hnew]
      exact .inr rfl
  obtain ⟨hfirst, rfl⟩ | ⟨hold, rfl⟩ := upsertLeaderboard_ok hleaderboard
  · exact ⟨fun htallies => htallies.record hrow rfl rfl hline (.inl ⟨rfl, hfirst⟩), hfrom, hkeys⟩
  · exact ⟨fun htallies => htallies.record hrow rfl rfl hline (.inr ⟨rfl, hold⟩), hfrom, hkeys⟩

theorem scores_statements : KeptByStatements (Scores prize game) where
  insertUser userId := .write fun s => .of_eq rfl
  insertAccountIfAbsent userId := by
    intro s u s' h
    obtain ⟨-, rfl⟩ | ⟨-, -, rfl⟩ := insertAccountIfAbsent_eq_ok.1 h <;> exact .of_eq rfl
  updateAccount userId guard _ f _ := by
    intro s result s' h
    obtain ⟨-, rfl⟩ | ⟨account, -, -, -, -, -, -, rfl⟩ := updateAccount_ok h <;> exact .of_eq rfl
  insertLedgerAccountIfAbsent row conflict _ := by
    intro s u s' h
    obtain ⟨-, rfl⟩ | ⟨-, -, rfl⟩ := insertLedgerAccountIfAbsent_ok h <;> exact .of_eq rfl
  insertOperation row := by
    intro s u s' h
    obtain ⟨-, -, -, rfl⟩ := insertOperation_eq_ok.1 h
    exact .of_eq rfl
  commitOperation operationId response := by
    intro s u s' h
    obtain ⟨-, rfl⟩ := commitOperation_eq_ok.1 h
    exact .of_eq rfl
  insertEntry row := by
    intro s u s' h
    obtain ⟨-, -, -, -, rfl⟩ := insertEntry_eq_ok.1 h
    exact .of_eq rfl
  insertReservation row := by
    intro s u s' h
    obtain ⟨-, -, -, -, -, -, rfl⟩ := insertReservation_eq_ok.1 h
    exact .of_eq rfl
  closeReservation reservationId status operationId now := by
    intro s u s' h
    obtain ⟨-, -, -, rfl⟩ := closeReservation_eq_ok.1 h
    exact .of_eq rfl
  insertSettlement row := by
    intro s u s' h
    obtain ⟨-, -, -, rfl⟩ := insertSettlement_eq_ok.1 h
    exact .of_eq rfl
  insertSession row _ := by
    intro s u s' h
    obtain ⟨-, -, -, -, -, -, -, rfl⟩ := insertSession_eq_ok.1 h
    exact .of_eq rfl
  updateSession gameId lifecycle f _ := by
    intro s u s' h
    obtain ⟨-, -, rfl⟩ := updateSession_eq_ok.1 h
    exact .of_eq rfl
  insertPlayer row := by
    intro s u s' h
    obtain ⟨-, -, -, -, -, -, -, rfl⟩ := insertPlayer_eq_ok.1 h
    exact .of_eq rfl
  deletePlayers p _ := by
    intro s u s' h
    rw [deletePlayers_eq_ok.1 h]
    exact .of_eq rfl
  insertJoinIntent row := by
    intro s u s' h
    obtain ⟨-, -, -, -, -, rfl⟩ := insertJoinIntent_eq_ok.1 h
    exact .of_eq rfl
  updateJoinIntents p _ status now := by
    intro s u s' h
    obtain ⟨-, -, rfl⟩ := updateJoinIntents_eq_ok.1 h
    exact .of_eq rfl
  insertTicket row := by
    intro s u s' h
    obtain ⟨-, -, -, -, -, -, rfl⟩ := insertTicket_eq_ok.1 h
    exact .of_eq rfl
  updateTickets p _ f := by
    intro s u s' h
    obtain ⟨-, -, -, -, rfl⟩ := updateTickets_eq_ok.1 h
    exact .of_eq rfl
  insertHistory row hrow := insertHistory_scores (by
    rcases hrow with hrow | hrow <;> simp [HistoryRow.Counted, hrow])

end Statements

/-! ### Settlements -/

section Settlements

variable {digests : Digests} {settings : Settings} {codec : Server.Codec} {fresh : Fresh} {now : ℤ}
  {s s' : Working} {gameId : String} {db db' : Database}

theorem writeCompletedHistory_mem {winnerUserId : String} {total : ℤ} {p : Participant} {u : Unit}
    (h : writeCompletedHistory gameId winnerUserId total now p s = .ok (u, s')) :
    completedHistory gameId winnerUserId total now p ∈ s'.db.readModel.history := by
  obtain ⟨_, m, hhistory, hleaderboard⟩ := bind_eq_ok.1 h
  obtain ⟨-, -, rfl⟩ := insertHistory_eq_ok.1 hhistory
  exact (upsertLeaderboard_grows _ _ _ _ hleaderboard).history.subset
    (List.mem_append_right _ (List.mem_singleton_self _))

/-- What the record of a completed session leaves: its settlement, and the games of all who were
seated. -/
theorem recordCompleted_mem {seated : List Participant} (settlement : SettlementRow)
    {winnerUserId operationId : String} {total : ℤ} (f : SessionRow → SessionRow)
    {response : OperationResponse}
    (hf : ∀ row, (f row).id = row.id ∧ (f row).creatorUserId = row.creatorUserId)
    (h : (do
      insertSettlement settlement
      seated.forM (writeCompletedHistory gameId winnerUserId total now)
      finishSession settlement.gameSessionId f now
      commitWithResponse operationId : ApiTx _) s = .ok (response, s')) :
    settlement ∈ s'.db.economy.settlements ∧ ∀ p ∈ seated,
      completedHistory gameId winnerUserId total now p ∈ s'.db.readModel.history := by
  obtain ⟨_, m₁, hsettlement, h⟩ := bind_eq_ok.1 h
  obtain ⟨_, m₂, hloop, h⟩ := bind_eq_ok.1 h
  have hwrite : ∀ p ∈ seated,
      Within Grows (writeCompletedHistory gameId winnerUserId total now p) :=
    fun p _ => writeCompletedHistory_grows _ _ _ _ _
  have hrest : Grows m₂ s' := Within.bind (grows_statements.finishSession _ hf)
    (fun _ => grows_statements.commitWithResponse) _ _ _ h
  constructor
  · obtain ⟨-, -, -, rfl⟩ := insertSettlement_eq_ok.1 hsettlement
    exact hrest.settlements.subset ((Within.forM hwrite _ _ _ hloop).settlements.subset
      (List.mem_append_right _ (List.mem_singleton_self _)))
  · intro p hp
    obtain ⟨t, t', _, -, hround, hafter⟩ := Within.round hwrite hloop hp
    exact hrest.history.subset (hafter.history.subset (writeCompletedHistory_mem hround))

theorem complete_mem {actorUserId idempotencyKey hash : String} {request : SettlementRequest}
    {seated : List Participant} {winner : Participant} {response : OperationResponse}
    (h : complete gameId actorUserId request idempotencyKey hash seated winner fresh now s =
      .ok (response, s')) :
    ⟨fresh.settlementId, gameId, .completed request.terminalStateVersion
      request.checkpointChecksum winner.reservation.userId, fresh.operationId⟩ ∈
        s'.db.economy.settlements ∧
    ∀ p ∈ seated, completedHistory gameId winner.reservation.userId
      (seated.map fun p => p.reservation.amount).sum now p ∈ s'.db.readModel.history := by
  simp only [complete, assertPayoutFits, bind_bind, check_bind_eq_ok, select_bind] at h
  obtain ⟨-, -, h⟩ := h
  obtain ⟨_, m, -, h⟩ := bind_eq_ok.1 h
  obtain ⟨_, m₁, -, h⟩ := bind_eq_ok.1 h
  rcases ite_eq_ok.1 h with ⟨-, h⟩ | ⟨-, h⟩
  · obtain ⟨_, m₂, -, h⟩ := bind_eq_ok.1 h
    exact recordCompleted_mem ⟨_, gameId, _, _⟩
      (fun row => { row with stateVersion := request.terminalStateVersion })
      (fun _ => ⟨rfl, rfl⟩) h
  · exact recordCompleted_mem ⟨_, gameId, _, _⟩
      (fun row => { row with stateVersion := request.terminalStateVersion })
      (fun _ => ⟨rfl, rfl⟩) h

theorem exists_seat_of_participant {p : Participant} (h : p ∈ participants db gameId) :
    ∃ player ∈ db.game.players, player.reservationId = p.reservation.id ∧
      player.gameSessionId = gameId ∧ player.active = true := by
  obtain ⟨r, -, hp⟩ := List.mem_flatMap.1 (mem_orderBy.1 h)
  obtain ⟨player, hplayer, rfl⟩ := List.mem_map.1 hp
  obtain ⟨hplayer, hfilter⟩ := List.mem_filter.1 hplayer
  exact ⟨player, hplayer, by simpa using hfilter⟩

/-- What a settlement has paid is what all who are seated have put in: the trigger asks it of the
history, which says what the winner was paid. -/
theorem prize_eq_total (hs : Seated db.seating) (hs' : Seated db'.seating)
    (hgrows : Grows ⟨db, []⟩ ⟨db', []⟩)
    (hplayers : (db'.game.players.filter fun player =>
        player.gameSessionId = gameId ∧ player.active = true) =
      db.game.players.filter fun player => player.gameSessionId = gameId ∧ player.active = true)
    (hkeys : (db'.readModel.history.map fun row => (row.gameSessionId, row.userId)).Nodup)
    {settlement : SettlementRow} {version total : ℤ} {checksum : String} {winner : Participant}
    (houtcome : Outcome db' settlement) (hgame : settlement.gameSessionId = gameId)
    (hkind : settlement.kind = .completed version checksum winner.reservation.userId)
    (hwinner : winner ∈ participants db gameId)
    (hhistory : completedHistory gameId winner.reservation.userId total now winner ∈
      db'.readModel.history) : prizeOf db' gameId = total := by
  subst hgame
  obtain ⟨player, hplayer, hid, hgame, hactive⟩ := exists_seat_of_participant hwinner
  obtain ⟨r', hr', hid', hamount⟩ := hgrows.amounts _ (mem_participants hwinner).1
  have hmem : player ∈ db'.game.players := by
    refine List.mem_of_mem_filter (p := fun player =>
      player.gameSessionId = settlement.gameSessionId ∧ player.active = true) ?_
    rw [hplayers]
    exact List.mem_filter.2 ⟨hplayer, by simp [hgame, hactive]⟩
  have hseat : (player, r') ∈ seatedReservations db' settlement.gameSessionId :=
    mem_seatedReservations.2 ⟨⟨hmem, hgame, hactive⟩, hr', hid'.trans hid.symm⟩
  have huser : player.userId = winner.reservation.userId := by
    obtain ⟨-, r, hr, hfor, -⟩ := hs.ofSeat player hplayer
    rw [hfor.2.1, eq_of_key_eq hs.keys.reservations hr (mem_participants hwinner).1
      (hid.symm.trans hfor.1)]
  have huser' : r'.userId = winner.reservation.userId :=
    (SeatFor.of_seat hs' hseat).2.1.symm.trans huser
  obtain ⟨row, hrow, hrowGame, hrowUser, -, -, hdelta⟩ := (houtcome.seats _ hseat).history
  obtain rfl := eq_of_key_eq hkeys hrow hhistory
    (Prod.ext (hrowGame.trans hgame).symm (hrowUser.trans huser).symm)
  have hpaid : settlement.kind.payout (prizeOf db' settlement.gameSessionId) r' =
      prizeOf db' settlement.gameSessionId := by
    rw [hkind, SettlementKind.payout, if_pos huser']
  have hline : total - winner.reservation.amount =
      settlement.kind.payout (prizeOf db' settlement.gameSessionId) r' - r'.amount := by
    simpa [completedHistory] using hdelta
  omega

/-- A settlement counts the games of its session, for the prize of the session. -/
theorem settle_scores {request : SettlementRequest} {idempotencyKey : String}
    {response : OperationResponse} (hs : Seated db.seating)
    (h : settle digests gameId request idempotencyKey fresh now ⟨db, []⟩ = .ok (response, s'))
    (hstep : SystemStep digests settings codec db
      (.call (.settle gameId request idempotencyKey) fresh now) s'.db)
    (hended : Ended digests s'.db)
    (hkeys : (db.readModel.history.map fun row => (row.gameSessionId, row.userId)).Nodup) :
    Scores (prizeOf s'.db) none ⟨db, []⟩ s' ∨
      Scores (prizeOf s'.db) (some gameId) ⟨db, []⟩ s' ∧
        SessionIs s'.db.seating gameId (·.lifecycle = .settled) := by
  simp only [settle, select_bind, id_eq, lockAccounts_bind_eq_ok, lockSession_bind_eq_ok,
    findOperation_bind] at h
  obtain ⟨-, session, hsession, h⟩ := h
  cases hprior : priorOperation db session.creatorUserId .settleSession idempotencyKey with
  | some prior =>
    simp only [hprior] at h
    obtain ⟨rfl, -⟩ := replay_ok h
    exact .inl (Std.Refl.refl _)
  | none =>
    simp only [hprior, requireNoSettlement, bind_bind, select_bind, check_bind_eq_ok, id_eq,
      checkSome_bind_eq_ok] at h
    obtain ⟨-, -, hlifecycle, proof, -, -, winner, hfind, h⟩ := h
    obtain ⟨hmem, hid⟩ := findSession_eq_some hsession
    have hclosed : SessionIs db.seating gameId (·.lifecycle ≠ .opened) :=
      ⟨session, hmem, hid, fun hopened => by
        rw [hopened] at hlifecycle
        simp at hlifecycle⟩
    have hwinner := List.mem_of_find?_eq_some hfind
    obtain ⟨hsettlement, hhistory⟩ := complete_mem h
    have houtcome := hended.outcome _ hsettlement
    have hscores : ∀ {prize : String → ℤ},
        prize gameId = ((participants db gameId).map fun p => p.reservation.amount).sum →
          Scores prize (some gameId) ⟨db, []⟩ s' := fun hprize =>
      scores_statements.complete _ _ _ _ _ _ winner
        (fun p _ => writeCompletedHistory_scores now p hprize) _ _ _ h
    have hkeys' := (hscores rfl : Scores (fun _ => _) _ _ _).keys hkeys
    have hprize := prize_eq_total hs hended.seated hstep.grows (hstep.closedSeats hs hclosed)
      hkeys' houtcome rfl rfl hwinner (hhistory winner hwinner)
    exact .inr ⟨hscores hprize, houtcome.session⟩

end Settlements

/-! ### Runs -/

section Runs

variable {digests : Digests} {settings : Settings} {codec : Server.Codec} {db db' : Database}

/-- Between two transactions the leaderboard says what counting the history would. -/
structure Ranked (db : Database) : Prop where
  keys : (db.readModel.history.map fun row => (row.gameSessionId, row.userId)).Nodup
  settled : ∀ row ∈ db.readModel.history, row.Counted →
    SessionIs db.seating row.gameSessionId (·.lifecycle = .settled)
  tallies : Tallies (prizeOf db) db.readModel

theorem Initial.ranked (h : Initial db) : Ranked db where
  keys := by simp [h.history]
  settled := by simp [h.history]
  tallies := by
    refine ⟨?_, ?_, ?_⟩
    · simp [h.leaderboard]
    · simp [h.history]
    · simp [h.leaderboard]

theorem SessionIs.settled_step {label : SystemLabel} {gameId : String}
    (h : SessionIs db.seating gameId (·.lifecycle = .settled))
    (hstep : SystemStep digests settings codec db label db') :
    SessionIs db'.seating gameId (·.lifecycle = .settled) := by
  obtain ⟨session, hmem, hid, hsettled⟩ := h
  obtain ⟨session', hmem', hid', -, hstays⟩ := hstep.grows.sessions session hmem
  exact ⟨session', hmem', hid'.trans hid, (hstays (.inl hsettled)).trans hsettled⟩

theorem SystemStep.ranked {label : SystemLabel} (h : Ranked db) (hended : Ended digests db)
    (hstep : SystemStep digests settings codec db label db') : Ranked db' := by
  have hended' := hstep.ended hended
  have hsame : Tallies (prizeOf db') db.readModel := by
    refine h.tallies.congr fun row hrow hcounted => ?_
    rw [prizeOf, prizeOf, hstep.settledSeats hended.seated (h.settled row hrow hcounted)]
  have hold : ∀ row ∈ db.readModel.history, row.Counted →
      SessionIs db'.seating row.gameSessionId (·.lifecycle = .settled) :=
    fun row hrow hcounted => (h.settled row hrow hcounted).settled_step hstep
  have hscores : (∃ s : Working, s.db = db' ∧ Scores (prizeOf db') none ⟨db, []⟩ s) ∨
      ∃ (s : Working) (gameId : String), s.db = db' ∧
        Scores (prizeOf db') (some gameId) ⟨db, []⟩ s ∧
        SessionIs db'.seating gameId (·.lifecycle = .settled) := by
    have hstep' := hstep
    cases hstep with
    | rolledBack => exact .inl ⟨⟨db, []⟩, rfl, Std.Refl.refl _⟩
    | room => exact .inl ⟨⟨_, []⟩, rfl, .of_eq rfl⟩
    | @committed _ call fresh now hcommit =>
      by_cases hsettle : ∃ gameId request key, call = .settle gameId request key
      · obtain ⟨gameId, request, key, rfl⟩ := hsettle
        obtain ⟨response, hcommit⟩ := withTransaction_discard.1 hcommit
        obtain ⟨s, hcall, -, rfl⟩ := withTransaction_eq_ok.1 hcommit
        rcases settle_scores hended.seated hcall hstep' hended' h.keys with hscores | hscores
        · exact .inl ⟨s, rfl, hscores⟩
        · exact .inr ⟨s, gameId, rfl, hscores⟩
      · obtain ⟨s, hcall, -, rfl⟩ := withTransaction_eq_ok.1 hcommit
        refine .inl ⟨s, rfl, scores_statements.runCall call (fun gameId request key heq => ?_)
          _ _ _ hcall⟩
        exact absurd ⟨gameId, request, key, heq⟩ hsettle
  rcases hscores with ⟨s, rfl, hscores⟩ | ⟨s, gameId, rfl, hscores, hsettled⟩
  · refine ⟨hscores.keys h.keys, fun row hrow hcounted => ?_, hscores.tallies hsame⟩
    rcases hscores.counted row hrow hcounted with hin | hgame
    · exact hold row hin hcounted
    · cases hgame
  · refine ⟨hscores.keys h.keys, fun row hrow hcounted => ?_, hscores.tallies hsame⟩
    rcases hscores.counted row hrow hcounted with hin | hgame
    · exact hold row hin hcounted
    · rwa [Option.some.inj hgame]

/-- Along every run of the API, whatever its calls and however they interleave: the leaderboard has
one line for each user who has won or lost a game, with the games and the victories that the history
has of the user, and the prizes of the sessions that were won. -/
theorem leaderboard_tallies_history (digests : Digests) (settings : Settings)
    (codec : Server.Codec) {labels : List SystemLabel} {start db : Database}
    (hinitial : Initial start) (hrun : Run (SystemStep digests settings codec) start labels db) :
    (db.readModel.leaderboard.map LeaderboardRow.userId).Nodup ∧
    (∀ userId, (∃ line ∈ db.readModel.leaderboard, line.userId = userId) ↔
      ∃ row ∈ db.readModel.history, row.userId = userId ∧ row.Counted) ∧
    ∀ line ∈ db.readModel.leaderboard,
      line.gamesPlayed = (db.readModel.history.countP fun row =>
        row.userId = line.userId ∧ row.Counted) ∧
      line.gamesWon = (db.readModel.history.countP fun row =>
        row.userId = line.userId ∧ row.result = .won) ∧
      line.accountCoinWon = sumWhere (fun row => row.userId = line.userId ∧ row.result = .won)
        (fun row => prizeOf db row.gameSessionId) db.readModel.history := by
  have h : Ended digests db ∧ Ranked db :=
    hrun.invariant (I := fun db => Ended digests db ∧ Ranked db)
      (fun _ _ _ h hstep => ⟨hstep.ended h.1, hstep.ranked h.2 h.1⟩)
      ⟨hinitial.ended, hinitial.ranked⟩
  obtain ⟨hkeys, -, htallies⟩ := h.2
  refine ⟨htallies.users, fun userId => ⟨?_, ?_⟩, fun line hline => ?_⟩
  · rintro ⟨line, hline, rfl⟩
    exact (htallies.line line hline).2
  · rintro ⟨row, hrow, rfl, hcounted⟩
    exact htallies.listed row hrow hcounted
  · have htally := (htallies.line line hline).1
    rw [tally_eq, LeaderboardRow.tally] at htally
    exact ⟨(Prod.mk.inj htally).1, (Prod.mk.inj (Prod.mk.inj htally).2).1,
      (Prod.mk.inj (Prod.mk.inj htally).2).2⟩

end Runs

/-! ### One game -/

/-- Identifiers for what a player does, some of them the room's as well. -/
def freshFor (name : String) : Fresh :=
  { freshNamed name with playerId := name }

/-- Alice opens a session, bob joins it, both enter its room, and the match starts. -/
def aliceMeetsBob : List (ApiCall × String × ℤ) :=
  [(.registerUser "alice", "a1", 1000), (.registerUser "bob", "b1", 1001),
    (.createSession "alice" "duel" "open", "alice", 1002),
    (.joinSession "bob" "game" "join", "bob", 1003),
    (.consumeTicket ⟨"alice ticket", "game", "room", "one"⟩ "one", "a2", 1004),
    (.consumeTicket ⟨"bob ticket", "game", "room", "one"⟩ "two", "b2", 1005),
    (.markStarted "game" "room" 1 "start", "start", 1006)]

noncomputable def playedBy (calls : List (ApiCall × String × ℤ)) (db : Database) : Database :=
  calls.foldl (fun db call =>
    afterCall plainDigests shortSettings call.1 (freshFor call.2.1) call.2.2 db) db

theorem run_playedBy (codec : Server.Codec) (calls : List (ApiCall × String × ℤ)) (db : Database) :
    Run (SystemStep plainDigests shortSettings codec) db
      (calls.map fun call => .call call.1 (freshFor call.2.1) call.2.2) (playedBy calls db) := by
  induction calls generalizing db with
  | nil => exact .nil db
  | cons call rest ih => exact .cons (systemStep_afterCall ..) (ih _)

/-- A codec whose digest of a text is the text, and whose version of a snapshot is its length. -/
def lengthCodec : Server.Codec := ⟨id, fun text => some text.length⟩

def roomLease : Server.RoomLease := ⟨1, "game", "server", 100, "room"⟩

/-- The last commit of the room: alice is bankrupt, and bob wins. -/
def bobWins : Server.CommandCommit :=
  ⟨⟨"r", 2, []⟩, [], "alice", ⟨"r", 1, .gameplay .declareBankruptcy⟩, "ab", 2,
    some ⟨.lastPlayerStanding, "bob"⟩, none⟩

/-- What the room does: it takes its lease, opens its checkpoint, and commits the end. -/
def roomPlays : List Server.StoreLabel :=
  [⟨.acquire "server" 100 "room" "game", 0, .lease roomLease⟩,
    ⟨.initializeCheckpoint roomLease 1 "a", 1, .checkpoint ⟨"a", 1, "a", 1, 1⟩⟩,
    ⟨.commit roomLease bobWins, 2, .committed ⟨bobWins.acknowledgement, false⟩⟩]

/-- The room asks for the settlement of what it has committed. -/
def roomSettles : List (ApiCall × String × ℤ) :=
  [(.settle "game" ⟨"room", 2, "ab"⟩ "settle", "settle", 1007)]

/-- Bob has played one game and won it, and with it both entries. -/
theorem leaderboard_tallies_history_bob :
    ∃ db, Run (SystemStep plainDigests shortSettings lengthCodec)
        (playedBy aliceMeetsBob emptyDatabase) (roomPlays.map .room) db ∧
      (playedBy roomSettles db).readModel.leaderboard =
        [⟨"alice", "alice", 1, 0, 0⟩, ⟨"bob", "bob", 1, 1, 100⟩] ∧
      ∀ line ∈ (playedBy roomSettles db).readModel.leaderboard, line.accountCoinWon =
        sumWhere (fun row => row.userId = line.userId ∧ row.result = .won)
          (fun row => prizeOf (playedBy roomSettles db) row.gameSessionId)
          (playedBy roomSettles db).readModel.history := by
  have hplays : Run (SystemStep plainDigests shortSettings lengthCodec)
      (playedBy aliceMeetsBob emptyDatabase) (roomPlays.map .room) _ :=
    .cons (.room rfl) <| .cons (.room rfl) <| .cons (.room rfl) (.nil _)
  refine ⟨_, hplays, rfl, fun line hline => ?_⟩
  obtain ⟨-, -, hlines⟩ := leaderboard_tallies_history plainDigests shortSettings lengthCodec
    emptyDatabase_initial ((run_playedBy _ aliceMeetsBob emptyDatabase).append
      (hplays.append (run_playedBy _ roomSettles _)))
  exact (hlines line hline).2.2

end Pootown.Api
