import Mathlib.Tactic
import Pootown.Invariants.Timers

/-!
# The end of a game

A game ends once, by the last player standing, a forfeit or the time limit, and one player wins.

* `gameEndings`, `entitlements`: the two final events, read off what a command emits;
* `WonBy`: what the terminal record says about the winner and the ranking, `wonBy_of_valid`;
* `GameplayStep.ending`, `GameplayStep.quiet`: the command that finishes a game emits the two
  events, every other one none of them.
-/

namespace Pootown

open Fallible Runs Slots

/-! ### The final events -/

/-- The ends of a game among events: reason, winner, ranking. -/
def gameEndings (events : List GameplayDomainEvent) :
    List (TerminalEndReason × String × List GameEndRankingEntry) :=
  events.filterMap fun event => match event with
    | .gameEnded reason winnerId ranking => some (reason, winnerId, ranking)
    | _ => none

/-- The entitlements to a settlement among events: winner, reason, key. -/
def entitlements (events : List GameplayDomainEvent) :
    List (String × TerminalEndReason × String) :=
  events.filterMap fun event => match event with
    | .settlementEntitled winnerId reason entitlementKey => some (winnerId, reason, entitlementKey)
    | _ => none

theorem gameEndings_append (events events' : List GameplayDomainEvent) :
    gameEndings (events ++ events') = gameEndings events ++ gameEndings events' :=
  List.filterMap_append ..

theorem entitlements_append (events events' : List GameplayDomainEvent) :
    entitlements (events ++ events') = entitlements events ++ entitlements events' :=
  List.filterMap_append ..

theorem gameEndings_endEvents (gameId : String) (reason : TerminalEndReason)
    (winner : GameplayPlayerState) (ranking : List GameEndRankingEntry) :
    gameEndings (endEvents gameId reason winner ranking) = [(reason, winner.playerId, ranking)] :=
  rfl

theorem entitlements_endEvents (gameId : String) (reason : TerminalEndReason)
    (winner : GameplayPlayerState) (ranking : List GameEndRankingEntry) :
    entitlements (endEvents gameId reason winner ranking) = [(winner.playerId, reason, gameId)] :=
  rfl

/-! ### The terminal record -/

/-- The seats of the active players, in order. -/
def activeSeats (players : List (Option GameplayPlayerState)) : List ℕ :=
  ((occupants players).filter fun player => player.status = .active).map fun player =>
    player.seatIndex

/-- A ranked seat without its rank. -/
def TerminalRankingEntry.toRankedSeat (entry : TerminalRankingEntry) : RankedSeat :=
  ⟨entry.seatIndex, entry.netWorth⟩

/-- What the terminal record of a finished game says about its winner. -/
structure WonBy (state : FinishedGameplayAggregateState) (winner : GameplayPlayerState) : Prop where
  slot : slotAt state.players state.terminal.winnerSeatIndex = some winner
  active : winner.status = .active
  seats : (state.terminal.ranking.map TerminalRankingEntry.seatIndex).Perm
    (activeSeats state.players)
  worth : ∀ entry ∈ state.terminal.ranking, ∃ player,
    slotAt state.players entry.seatIndex = some player ∧
      calculatePlayerNetWorth player.toTerminal state.properties = some entry.netWorth
  sorted : (state.terminal.ranking.map TerminalRankingEntry.toRankedSeat).Pairwise RankedBefore
  ranks : state.terminal.ranking.map TerminalRankingEntry.rank
    = List.range' 1 state.terminal.ranking.length
  richest : ∃ best ∈ state.terminal.ranking,
    best.seatIndex = state.terminal.winnerSeatIndex ∧
      ∀ entry ∈ state.terminal.ranking, RankedBefore best.toRankedSeat entry.toRankedSeat

theorem map_toRankedSeat_withRanks (ranked : List RankedSeat) :
    (withRanks ranked).map TerminalRankingEntry.toRankedSeat = ranked := by
  refine List.ext_getElem (by simp [withRanks]) fun i _ _ => ?_
  simp [withRanks, TerminalRankingEntry.toRankedSeat]

theorem map_rank_withRanks (ranked : List RankedSeat) :
    (withRanks ranked).map TerminalRankingEntry.rank
      = List.range' 1 (withRanks ranked).length := by
  refine List.ext_getElem (by simp [withRanks]) fun i _ _ => ?_
  simp [withRanks, Nat.add_comm]

theorem map_seatIndex_netWorths {properties : List PropertyState}
    {players : List TerminalPlayerState} {ranked : List RankedSeat}
    (h : netWorths properties players = some ranked) :
    ranked.map RankedSeat.seatIndex = players.map TerminalPlayerState.seatIndex := by
  have hpairs := mem_netWorths h
  clear h
  induction hpairs with
  | nil => rfl
  | cons hpair _ ih => rw [List.map_cons, List.map_cons, hpair.1, ih]

/-- A valid finished game has a winner. -/
theorem wonBy_of_valid {state : FinishedGameplayAggregateState} (hv : ValidFinished state) :
    ∃ winner, WonBy state winner := by
  obtain ⟨ranked, hranked, hranking, hwinner⟩ := hv.ranking
  have hseat : ∀ entry ∈ sortRanked ranked, ∃ player,
      slotAt state.players entry.seatIndex = some player ∧ player.status = .active ∧
        calculatePlayerNetWorth player.toTerminal state.properties = some entry.netWorth := by
    intro entry hentry
    obtain ⟨player, hplayer, hindex, hworth⟩ := exists_of_forall₂ (mem_netWorths hranked)
      ((sortRanked_perm ranked).subset hentry)
    obtain ⟨i, p, hslot, hactive, rfl⟩ := mem_activeTerminalPlayers.1 hplayer
    exact ⟨p, by rw [hindex, (hv.table.terminalPlayer hslot).2, hslot], hactive, hworth⟩
  obtain ⟨best, hbest, hbestSeat⟩ := Option.map_eq_some_iff.1 hwinner
  obtain ⟨hmem, hfirst⟩ := head?_insertionSort hbest
  obtain ⟨winner, hslot, hactive, -⟩ := hseat best ((sortRanked_perm ranked).symm.subset hmem)
  have hmap := map_toRankedSeat_withRanks (sortRanked ranked)
  have hentry : ∀ entry ∈ state.terminal.ranking, entry.toRankedSeat ∈ sortRanked ranked := by
    intro entry hentry
    rw [← hmap, ← hranking]
    exact List.mem_map_of_mem hentry
  refine ⟨winner, {
    slot := by rw [← hbestSeat, hslot]
    active := hactive
    seats := ?_
    worth := fun entry h => ?_
    sorted := ?_
    ranks := ?_
    richest := ?_ }⟩
  · have hseats : state.terminal.ranking.map TerminalRankingEntry.seatIndex
        = (sortRanked ranked).map RankedSeat.seatIndex := by
      rw [← hmap, hranking, List.map_map]
      rfl
    have hactives : (activeTerminalPlayers state.players).map TerminalPlayerState.seatIndex
        = activeSeats state.players := by
      rw [activeTerminalPlayers, List.map_map]
      rfl
    rw [hseats, ← hactives, ← map_seatIndex_netWorths hranked]
    exact (sortRanked_perm ranked).map _
  · obtain ⟨player, hslot, -, hworth⟩ := hseat _ (hentry entry h)
    exact ⟨player, hslot, hworth⟩
  · rw [hranking, hmap]
    exact List.pairwise_insertionSort RankedBefore ranked
  · rw [hranking]
    exact map_rank_withRanks _
  · have hbest' : best ∈ state.terminal.ranking.map TerminalRankingEntry.toRankedSeat := by
      rw [hranking, hmap]
      exact (sortRanked_perm ranked).symm.subset hmem
    obtain ⟨entry, hentry', rfl⟩ := List.mem_map.1 hbest'
    exact ⟨entry, hentry', hbestSeat, fun other hother =>
      hfirst _ ((sortRanked_perm ranked).subset (hentry other hother))⟩

/-! ### One step -/

section Steps

variable {state : ActiveGameplayAggregateState} {body : GameplayCommandBody}
  {context : GameplayCommandContext} {events : List GameplayDomainEvent}

/-- A command that leaves the game in progress emits neither final event. -/
theorem GameplayStep.quiet {active : ActiveGameplayAggregateState}
    (h : GameplayStep state context body (.inProgress active) events) :
    gameEndings events = [] ∧ entitlements events = [] := by
  cases h with
  | turn command current _ _ hc hstep =>
    cases hstep with
    | endTurn => exact ⟨rfl, rfl⟩
    | roll _ dice rng _ _ hne hphase hdraw hroll => cases hroll <;> exact ⟨rfl, rfl⟩
  | property command current _ _ hnone hc hstep =>
    cases hstep with
    | building action => cases action <;> exact ⟨rfl, rfl⟩
    | _ => exact ⟨rfl, rfl⟩
  | jail command current _ _ hphase hc hstep => cases hstep <;> exact ⟨rfl, rfl⟩
  | card command current cardId rng resolution _ _ hphase hc hdraw hres hstep =>
    cases hstep with
    | bankruptcy => exact ⟨rfl, rfl⟩
    | continued =>
      unfold cardEvents
      cases resolution.movement <;> exact ⟨rfl, rfl⟩
  | bankruptcy current resolution _ _ hphase hc helim hstep =>
    cases hstep with
    | continued => exact ⟨rfl, rfl⟩
  | trade command _ _ hnone hstep =>
    have hexpired : ∀ expired : List String, gameEndings (expired.map .tradeExpired) = [] ∧
        entitlements (expired.map .tradeExpired) = [] := by
      intro expired
      simp [gameEndings, entitlements, List.filterMap_map]
    cases hstep with
    | cleanup trades expired => exact hexpired expired
    | created | accepted | rejected | cancelled =>
      rw [gameEndings_append, entitlements_append, (hexpired _).1, (hexpired _).2]
      exact ⟨rfl, rfl⟩
  | timeout command current _ _ hactor hnone hlimit hc hstep =>
    cases hstep with
    | warning | turnAdvanced => exact ⟨rfl, rfl⟩
    | forfeitContinued => exact ⟨rfl, rfl⟩

/-- The command that finishes a game emits each final event once, in agreement with the terminal
record. -/
theorem GameplayStep.ending {finished : FinishedGameplayAggregateState}
    (h : GameplayStep state context body (.finished finished) events) :
    ∃ winner ranking, terminalWinner finished.players finished.terminal = some winner ∧
      eventRanking finished.players finished.terminal.ranking = some ranking ∧
      gameEndings events = [(finished.terminal.reason, winner.playerId, ranking)] ∧
      entitlements events = [(winner.playerId, finished.terminal.reason, finished.gameId)] := by
  have hreason : ∀ {players properties reason endedAtMs} {terminal : TerminalOutcome},
      deriveRankedTerminalOutcome players properties reason endedAtMs = .ok terminal →
      terminal.reason = reason := by
    intro players properties reason endedAtMs terminal hterm
    obtain ⟨-, -, -, ranked, -, rfl⟩ := deriveRankedTerminalOutcome_eq_ok.1 hterm
    rfl
  cases h with
  | bankruptcy current resolution _ _ hphase hc helim hstep =>
    cases hstep with
    | finished terminal winner ranking hend hterm hwinner hranking =>
      refine ⟨winner, ranking, hwinner, hranking, ?_⟩
      simp only [finishedElimination, finishState, hreason hterm]
      exact ⟨rfl, rfl⟩
  | timeout command current _ _ hactor hnone hlimit hc hstep =>
    cases hstep with
    | timeLimit gameEndAtMs terminal winner ranking hend hle hterm hwinner hranking =>
      refine ⟨winner, ranking, hwinner, hranking, ?_⟩
      simp only [finishState, hreason hterm]
      exact ⟨rfl, rfl⟩
    | forfeitFinished bankruptcy terminal winner ranking hdeadline htwo helim hend hterm hwinner
        hranking =>
      refine ⟨winner, ranking, hwinner, hranking, ?_⟩
      simp only [finishedElimination, finishState, hreason hterm]
      exact ⟨rfl, rfl⟩

/-- A finished game comes from a command that is not a trade, so it is valid. -/
theorem GameplayStep.finished_valid {finished : FinishedGameplayAggregateState} {expected : ℤ}
    (h : GameplayStep state context body (.finished finished) events)
    (hadm : Admitted state expected context.nowMs) : ValidFinished finished := by
  refine h.valid hadm fun command hbody => ?_
  subst hbody
  cases h

end Steps

/-! ### Every run -/

/-- The game is over. -/
def IsFinished (state : GameplayAggregateState) : Prop := ∃ finished, state = .finished finished

/-- A command emits the final events exactly when it finishes the game. -/
theorem ending_iff_finished {state next : GameplayAggregateState} {accepted : AcceptedCommand}
    (h : Accepts state accepted next) :
    (gameEndings accepted.events ≠ [] ↔ IsFinished next) ∧
      (entitlements accepted.events ≠ [] ↔ IsFinished next) := by
  cases state with
  | finished finished => exact (not_accepts_finished _ _ _ h).elim
  | inProgress before =>
    obtain ⟨-, hstep⟩ := transitionGameplay_step h
    cases next with
    | inProgress active =>
      obtain ⟨hendings, hentitlements⟩ := hstep.quiet
      simp [hendings, hentitlements, IsFinished]
    | finished finished =>
      obtain ⟨winner, ranking, -, -, hendings, hentitlements⟩ := hstep.ending
      simp [hendings, hentitlements, IsFinished]

/-- A game ends at most once, and pays the one winner its terminal record names. -/
theorem game_ends_once (start : GameplayAggregateState) (commands : List AcceptedCommand)
    (state : GameplayAggregateState) (hstart : StartedGame start)
    (hrun : Run Accepts start commands state) :
    (∀ accepted next, Accepts state accepted next →
      (gameEndings accepted.events ≠ [] ↔ IsFinished next) ∧
      (entitlements accepted.events ≠ [] ↔ IsFinished next)) ∧
    (¬ IsFinished state →
      commands.flatMap (fun accepted => gameEndings accepted.events) = [] ∧
      commands.flatMap (fun accepted => entitlements accepted.events) = []) ∧
    ∀ finished, state = .finished finished →
      (∃ winner ranking, WonBy finished winner ∧
        eventRanking finished.players finished.terminal.ranking = some ranking ∧
        commands.flatMap (fun accepted => gameEndings accepted.events)
          = [(finished.terminal.reason, winner.playerId, ranking)] ∧
        commands.flatMap (fun accepted => entitlements accepted.events)
          = [(winner.playerId, finished.terminal.reason, finished.gameId)]) ∧
      ∀ command context, ∃ error,
        transitionGameplay state command context = .error ⟨state, error⟩ := by
  have hstop : ∀ s l s', IsFinished s → ¬ Accepts s l s' := by
    rintro _ l s' ⟨finished, rfl⟩
    exact not_accepts_finished _ _ _
  have hquiet : ∀ s (l : AcceptedCommand) s', Accepts s l s' → ¬ IsFinished s' →
      gameEndings l.events = [] ∧ entitlements l.events = [] := by
    intro s l s' haccepts hs'
    obtain ⟨hendings, hentitlements⟩ := ending_iff_finished haccepts
    exact ⟨not_not.1 (mt hendings.1 hs'), not_not.1 (mt hentitlements.1 hs')⟩
  refine ⟨fun accepted next h => ending_iff_finished h, fun hgoing => ?_, ?_⟩
  · exact ⟨hrun.quiet hstop (fun s l s' h hs' => (hquiet s l s' h hs').1) hgoing,
      hrun.quiet hstop (fun s l s' h hs' => (hquiet s l s' h hs').2) hgoing⟩
  · rintro finished rfl
    refine ⟨?_, transitionGameplay_finished finished⟩
    have hgoing : ¬ IsFinished start := by
      obtain ⟨lobby, first, -, rfl⟩ := hstart
      rintro ⟨_, hcon⟩
      cases hcon
    obtain ⟨before, m, last, rfl, hbefore, hm, hlast⟩ :=
      hrun.last_of_final hstop hgoing ⟨finished, rfl⟩
    have hendings := hbefore.quiet hstop (fun s l s' h hs' => (hquiet s l s' h hs').1) hm
    have hentitlements := hbefore.quiet hstop (fun s l s' h hs' => (hquiet s l s' h hs').2) hm
    rw [List.flatMap_append, List.flatMap_append, hendings, hentitlements]
    simp only [List.nil_append, List.flatMap_cons, List.flatMap_nil, List.append_nil]
    cases m with
    | finished other => exact (hm ⟨other, rfl⟩).elim
    | inProgress active =>
      obtain ⟨hadm, hstep⟩ := transitionGameplay_step hlast
      obtain ⟨winner, ranking, hwinner, hranking, hended, hentitled⟩ := hstep.ending
      obtain ⟨winner', hwon⟩ := wonBy_of_valid (hstep.finished_valid hadm)
      -- the event and the record name the occupant of one seat
      have hsame : winner' = winner := by
        rw [terminalWinner, hwon.slot, Option.filter_eq_some_iff] at hwinner
        exact Option.some.inj hwinner.1
      subst hsame
      exact ⟨winner', ranking, hwon, hranking, hended, hentitled⟩

def endedByTime : GameplayAggregateState → Bool
  | .finished finished => finished.terminal.reason == .timeLimit && finished.gameId == "game"
  | .inProgress _ => false

/-- The time limit ends the game of two, and its winner is paid. -/
theorem game_ends_once_timeLimit : ∃ start accepted finished winner, StartedGame start ∧
    Accepts start accepted (.finished finished) ∧ WonBy finished winner ∧
    entitlements accepted.events = [(winner.playerId, .timeLimit, "game")] := by
  obtain ⟨start, state', events, hstart, hok, hcheck⟩ := exists_of_acceptedWith
    (twoPlayerGame []) (timer .enforceGameTimeLimit 1 3600000) (fun _ state' _ => endedByTime state')
    (by decide +kernel)
  cases state' with
  | inProgress active => cases hcheck
  | finished finished =>
    simp only [endedByTime, Bool.and_eq_true, beq_iff_eq] at hcheck
    have hstarted := started_of_twoPlayerGame hstart
    have haccepts : Accepts (.inProgress start) ⟨(timer .enforceGameTimeLimit 1 3600000).1,
        (timer .enforceGameTimeLimit 1 3600000).2, events⟩ (.finished finished) := hok
    obtain ⟨winner, ranking, hwon, -, -, hentitled⟩ := ((game_ends_once _ _ _ hstarted
      (.cons haccepts (.nil _))).2.2 finished rfl).1
    refine ⟨_, _, finished, winner, hstarted, haccepts, hwon, ?_⟩
    simpa [hcheck.1, hcheck.2] using hentitled

end Pootown
