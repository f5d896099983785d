import Mathlib.Tactic
import Pootown.Invariants.Reachable

/-!
# When a timer is accepted

The converse of the step lemmas: on a valid game that can be played on, the checks on the clock
are the only ones a timer of the server can fail.

* `exists_terminal`: a table with an active seat and room in every purse has a terminal record;
* `transitionTimeoutWarning_isOk`, `transitionTurnTimeout_isOk`,
  `transitionEnforceGameTimeLimit_isOk`: one timer each;
* `accepted_timer_iff`, `accepted_cleanup_iff`: exactly when the entry point accepts them.
-/

namespace Pootown

open Fallible Runs Slots

/-! ### Room for cash -/

/-- Every purse and the bank together stay far below the limit. -/
theorem Playable.room {state : ActiveGameplayAggregateState} (hp : Playable state)
    (hv : ValidActive state) {i : ℕ} {p : GameplayPlayerState}
    (hslot : slotAt state.players i = some p) :
    state.bankCash + p.cash + 48000 ≤ maxMatchCash := by
  have hle : p.cash ≤ total (fun player => player.cash) state.players :=
    le_total (fun j q hq => (hv.table.cash hq).1) hslot
  have hpool := hv.header.freeParking.1
  have hversion := hv.header.version.2
  have hcash := hp.cash_le
  have hmax : (60129543166000 : ℤ) + 1006000 + 48000 ≤ maxMatchCash := by decide
  simp only [totalCash, maxStateVersion] at hcash hversion
  omega

/-! ### A terminal record -/

section Terminal

variable {players : List (Option GameplayPlayerState)} {properties : List PropertyState}
  {inventory : BuildingInventory} {bankCash startedAtMs nowMs : ℤ} {reason : TerminalEndReason}

theorem length_activeTerminalPlayers (players : List (Option GameplayPlayerState)) :
    ((activeTerminalPlayers players).length : ℤ) = activeCount players := by
  unfold activeTerminalPlayers activeCount
  rw [List.length_map, length_filter_occupants]
  simp

/-- The occupants the terminal rules rank. -/
theorem mem_activeTerminalPlayers {player : TerminalPlayerState} :
    player ∈ activeTerminalPlayers players ↔ ∃ i p, slotAt players i = some p ∧
      p.status = .active ∧ p.toTerminal = player := by
  simp only [activeTerminalPlayers, List.mem_map, List.mem_filter, mem_occupants,
    decide_eq_true_eq]
  constructor
  · rintro ⟨p, ⟨⟨i, hslot⟩, hactive⟩, rfl⟩
    exact ⟨i, p, hslot, hactive, rfl⟩
  · rintro ⟨i, p, hslot, hactive, rfl⟩
    exact ⟨p, ⟨⟨i, hslot⟩, hactive⟩, rfl⟩

theorem ValidTable.terminalPlayer
    (ht : ValidTable players properties inventory bankCash startedAtMs) {i : ℕ}
    {p : GameplayPlayerState} (hslot : slotAt players i = some p) :
    ValidTerminalPlayer p.toTerminal ∧ p.toTerminal.seatIndex = i := by
  have hr := (ht.player i p hslot).rules
  have hlt := ht.seat_lt hslot
  refine ⟨⟨?_, hr.cash, fun hout => (hr.eliminated hout).1⟩, hr.seatIndex_eq⟩
  show p.seatIndex < 4
  rw [hr.seatIndex_eq]
  exact hlt

theorem ValidTable.toTerminal
    (ht : ValidTable players properties inventory bankCash startedAtMs) :
    validTerminalState (terminalPlayers (bankruptcyPlayers players)) properties = true := by
  have hslots : ∀ i, slotAt (terminalPlayers (bankruptcyPlayers players)) i
      = (slotAt players i).map GameplayPlayerState.toTerminal := by
    intro i
    rw [terminalPlayers, slotAt_mapSlots, slotAt_bankruptcyPlayers, Option.map_map]
    rfl
  simp only [validTerminalState, Bool.and_eq_true, decide_eq_true_eq, everySlot_eq_true,
    List.all_eq_true, hslots, Option.mem_def, Option.map_eq_some_iff]
  refine ⟨⟨⟨?_, ht.properties_valid⟩, ?_⟩, ?_⟩
  · simpa [terminalPlayers, bankruptcyPlayers] using ht.length_players
  · rintro i _ ⟨p, hslot, rfl⟩
    exact ht.terminalPlayer hslot
  · intro property hmem owner howner
    obtain ⟨p, hslot, hactive⟩ :=
      ht.owner _ property owner (getElem?_of_mem ht.properties_valid hmem) howner
    exact ⟨_, ⟨p, hslot, rfl⟩, hactive⟩

/-- With room in every purse, every active player has a net worth. -/
theorem ValidTable.exists_netWorths
    (ht : ValidTable players properties inventory bankCash startedAtMs)
    (hpurse : ∀ i p, slotAt players i = some p → p.cash + 48000 ≤ maxMatchCash) :
    ∃ ranked, netWorths properties (activeTerminalPlayers players) = some ranked := by
  refine netWorths_isSome fun player hplayer => ?_
  obtain ⟨i, p, hslot, hp, rfl⟩ := mem_activeTerminalPlayers.1 hplayer
  exact calculatePlayerNetWorth_isSome (ht.terminalPlayer hslot).1 ht.properties_valid hp
    (hpurse i p hslot)

/-- A table with an active seat and room in every purse has a terminal record. -/
theorem exists_terminal (state : ActiveGameplayAggregateState)
    (ht : ValidTable players properties inventory bankCash startedAtMs)
    (hpurse : ∀ i p, slotAt players i = some p → p.cash + 48000 ≤ maxMatchCash)
    (hactive : 1 ≤ activeCount players)
    (hone : reason = .lastPlayerStanding ∨ reason = .timeoutForfeit → activeCount players = 1)
    (hnow : IsSafeInteger nowMs ∧ 0 ≤ nowMs) :
    ∃ terminal events, deriveRankedTerminalOutcome (terminalPlayers (bankruptcyPlayers players))
        properties reason nowMs = .ok terminal ∧
      terminalEvents state players terminal = some events := by
  have hlen := length_activeTerminalPlayers players
  obtain ⟨ranked, hranked⟩ := ht.exists_netWorths hpurse
  have hderive : ∃ terminal, deriveRankedTerminalOutcome
      (terminalPlayers (bankruptcyPlayers players)) properties reason nowMs = .ok terminal := by
    simp only [deriveRankedTerminalOutcome_eq_ok, activePlayersOf_terminalPlayers]
    refine ⟨_, ⟨ht.toTerminal, hnow⟩, ?_, fun hr => ?_, ranked, hranked, rfl⟩
    · rw [← List.length_pos_iff]
      omega
    · have := hone hr
      omega
  obtain ⟨terminal, hterminal⟩ := hderive
  obtain ⟨ranked', winner, hranked', -, ⟨player, hplayer, hseat⟩, hterm⟩ :=
    deriveRankedTerminalOutcome_winner hterminal
  rw [activePlayersOf_terminalPlayers] at hranked' hplayer
  have hseats : ∀ player ∈ activeTerminalPlayers players, ∃ p,
      slotAt players player.seatIndex = some p ∧ p.status = .active := by
    intro player hplayer
    obtain ⟨i, p, hslot, hp, rfl⟩ := mem_activeTerminalPlayers.1 hplayer
    exact ⟨p, by rw [(ht.terminalPlayer hslot).2, hslot], hp⟩
  obtain ⟨p, hslot, hp⟩ := hseats player hplayer
  obtain ⟨ranking, hranking⟩ : ∃ ranking, eventRanking players terminal.ranking
      = some ranking := by
    refine exists_mapM_eq_some fun entry hentry => ?_
    rw [hterm] at hentry
    simp only [withRanks, List.mem_mapIdx] at hentry
    obtain ⟨i, hi, rfl⟩ := hentry
    have hmem := (sortRanked_perm ranked').subset (List.getElem_mem hi)
    obtain ⟨q, hq, hqseat, -⟩ := exists_of_forall₂ (mem_netWorths hranked') hmem
    obtain ⟨r, hr, -⟩ := hseats q hq
    exact ⟨_, by rw [hqseat, hr]; rfl⟩
  refine ⟨terminal, _, hterminal, terminalEvents_eq_some.2 ⟨p, ranking, ?_, hranking, rfl⟩⟩
  rw [hterm, terminalWinner, ← hseat, hslot]
  simp [hp]

end Terminal

/-! ### The other active seats -/

/-- Besides an active seat there is another one. -/
theorem exists_other_active {players : List (Option GameplayPlayerState)} {seat : ℕ}
    {player : GameplayPlayerState} (hslot : slotAt players seat = some player)
    (hactive : player.status = .active) (htwo : 2 ≤ activeCount players) :
    ∃ i p, i ≠ seat ∧ slotAt players i = some p ∧ p.status = .active := by
  have hrest := activeCount_eliminate hslot hactive
  obtain ⟨i, p, hi, hp⟩ := exists_of_total_pos (w := fun player : GameplayPlayerState =>
    if player.status = .active then 1 else 0)
    (t := updateSlot seat GameplayPlayerState.eliminate players)
    (by unfold activeCount at hrest htwo; omega)
  have hpactive : p.status = .active := by
    by_contra hcon
    simp [hcon] at hp
  refine ⟨i, p, ?_, ?_, hpactive⟩
  · rintro rfl
    rw [slotAt_updateSlot_self, hslot] at hi
    cases hi
    cases hpactive
  · have hne : i ≠ seat := by
      rintro rfl
      rw [slotAt_updateSlot_self, hslot] at hi
      cases hi
      cases hpactive
    rwa [slotAt_updateSlot_of_ne hne] at hi

/-! ### Accepted timers -/

section Accepted

variable {state : ActiveGameplayAggregateState} {current : GameplayPlayerState} {nowMs : ℤ}

/-- The aggregate asks at least as much of the warnings as the timeout rules do. -/
theorem ValidActive.timeoutTurn (hv : ValidActive state) :
    ValidTimeoutTurn state.turn.toTimeoutTurnState := by
  obtain ⟨hclock, hlen, htwo, -⟩ := hv.turn.turn_valid
  refine ⟨hclock, hlen, ?_, ?_⟩
  · match hw : state.turn.emittedWarnings with
    | [] => exact List.nodup_nil
    | [_] => exact List.nodup_singleton _
    | a :: b :: rest =>
      rw [hw] at hlen htwo
      have hrest : rest = [] := by
        cases rest with
        | nil => rfl
        | cons _ _ => simp at hlen
      subst hrest
      rw [htwo rfl]
      decide
  · rintro ⟨hhead, htwo'⟩
    rw [htwo htwo'] at hhead
    cases hhead

theorem ValidActive.validTimeoutState (hv : ValidActive state) :
    validTimeoutState state.toTimeout = true := by
  obtain ⟨current, hc, -⟩ := hv.exists_current
  simp only [Pootown.validTimeoutState, Bool.and_eq_true, decide_eq_true_eq, Option.mem_def,
    ActiveGameplayAggregateState.toTimeout, slotAt_bankruptcyPlayers]
  exact ⟨⟨hv.table.toBankruptcy, decide_eq_true hv.timeoutTurn⟩, _, by rw [hc.1]; rfl, hc.active⟩

theorem transitionTimeoutWarning_isOk {seconds : TimeoutWarningSeconds} (hv : ValidActive state)
    (hnow : IsSafeInteger nowMs ∧ 0 ≤ nowMs) (hnew : seconds ∉ state.turn.emittedWarnings)
    (hten : seconds = .thirty → .ten ∉ state.turn.emittedWarnings)
    (hdue : state.turn.deadlineAtMs - seconds.seconds * 1000 ≤ nowMs)
    (hlt : nowMs < state.turn.deadlineAtMs)
    (hlt' : seconds = .thirty → nowMs < state.turn.deadlineAtMs - 10000) :
    ∃ result, transitionTimeoutWarning state current seconds nowMs = .ok result := by
  have hemit := emitTimeoutWarning_eq_ok.2
    ⟨hv.timeoutTurn, hnow, hnew, hten, hdue, hlt, hlt', rfl⟩
  rw [transitionTimeoutWarning, hemit]
  exact ⟨_, rfl⟩

theorem transitionEnforceGameTimeLimit_isOk {gameEndAtMs : ℤ} (hv : ValidActive state)
    (hp : Playable state) (hend : state.gameEndAtMs = some gameEndAtMs) (hle : gameEndAtMs ≤ nowMs)
    (hnow : IsSafeInteger nowMs ∧ 0 ≤ nowMs) :
    ∃ finished events, transitionEnforceGameTimeLimit state nowMs
      = .ok (.finished finished, events) := by
  have htwo := hp.two_active
  obtain ⟨terminal, events, hterm, hevents⟩ := @exists_terminal _ _ _ _ _ _ .timeLimit state
    hv.table (fun i p hslot => by have := hp.room hv hslot; have := hv.table.bank.1; omega)
    (by omega) (by simp) hnow
  have hderive : deriveTimeLimitTerminalOutcome (terminalPlayers (bankruptcyPlayers state.players))
      state.properties state.gameEndAtMs nowMs = .ok terminal := by
    obtain ⟨hsafe, hstart⟩ := hv.header.gameEndAt gameEndAtMs hend
    simp only [deriveTimeLimitTerminalOutcome, bind_eq_ok, require_eq_ok, requireSome_eq_ok,
      exists_const]
    exact ⟨gameEndAtMs, hend, ⟨hsafe, hv.header.startedAt.2.trans hstart⟩, hnow, hle, hterm⟩
  simp only [transitionEnforceGameTimeLimit, hderive, bind_eq_ok, requireSome_eq_ok, pure_eq_ok]
  exact ⟨_, _, events, hevents, rfl⟩

/-- The table once the current seat has missed a third turn can be liquidated. -/
theorem exists_forfeit (hv : ValidActive state) (hp : Playable state)
    (hc : IsCurrent state current) :
    ∃ bankruptcy, resolveBankruptcy (bankruptcyPlayers (afterMissedTurn state 3)) state.properties
        state.inventory state.bankCash state.turn.currentSeatIndex = .ok bankruptcy ∧
      Eliminated state state.turn.currentSeatIndex (afterMissedTurn state 3)
        { current with missedTurns := 3 } bankruptcy := by
  have hslot : slotAt (afterMissedTurn state 3) state.turn.currentSeatIndex
      = some { current with missedTurns := 3 } := slotAt_updated hc
  have hroom := hp.room hv hc.1
  have hview : slotAt (bankruptcyPlayers (afterMissedTurn state 3)) state.turn.currentSeatIndex
      = some ({ current with missedTurns := 3 } : GameplayPlayerState).toBankruptcyPlayerState := by
    rw [slotAt_bankruptcyPlayers, hslot]
    rfl
  obtain ⟨bankruptcy, hbank⟩ := resolveBankruptcy_isOk
    (afterMissedTurn_table hv hc le_rfl).toBankruptcy hv.seat_lt hview hc.active
    (show state.bankCash + 28000 + current.cash ≤ maxMatchCash by omega)
  obtain ⟨player, helim⟩ := eliminated_of_resolve hbank
  have hplayer := helim.slot.symm.trans hslot
  cases hplayer
  exact ⟨bankruptcy, hbank, helim⟩

/-- An elimination leaves room in every purse. -/
theorem Playable.purse_eliminate (hv : ValidActive state) (hp : Playable state)
    {players : List (Option GameplayPlayerState)}
    (hplayers : players = state.players ∨ players = afterMissedTurn state 3) (i : ℕ)
    (p : GameplayPlayerState) (hslot : slotAt (updateSlot state.turn.currentSeatIndex
      GameplayPlayerState.eliminate players) i = some p) : p.cash + 48000 ≤ maxMatchCash := by
  -- the eliminated purse is empty, the others are as they were
  have hmax : (48000 : ℤ) ≤ maxMatchCash := by decide
  rw [slotAt_updateSlot] at hslot
  split_ifs at hslot with hi
  · obtain ⟨q, -, rfl⟩ := Option.map_eq_some_iff.1 hslot
    exact hmax
  · have hsame : slotAt state.players i = some p := by
      obtain rfl | rfl := hplayers
      · exact hslot
      · rwa [afterMissedTurn, slotAt_updateSlot_of_ne hi] at hslot
    have hroom := hp.room hv hsame
    have hbank0 := hv.table.bank.1
    omega

/-- A third missed turn is accepted: with two others left the turn passes, else the game ends. -/
theorem transitionTimeoutForfeit_isOk {bankruptcy : BankruptcyResolution}
    (hv : ValidActive state) (hp : Playable state) (hc : IsCurrent state current)
    (hnow : IsSafeInteger nowMs ∧ 0 ≤ nowMs)
    (hbank : resolveBankruptcy (bankruptcyPlayers (afterMissedTurn state 3)) state.properties
        state.inventory state.bankCash state.turn.currentSeatIndex = .ok bankruptcy)
    (helim : Eliminated state state.turn.currentSeatIndex (afterMissedTurn state 3)
        { current with missedTurns := 3 } bankruptcy) :
    (bankruptcy.endConditionMet = true → ∃ result,
        transitionTimeoutForfeit state current bankruptcy none nowMs = .ok result) ∧
      (bankruptcy.endConditionMet = false → ∃ next, nextActiveSeat BankruptcyPlayerState.status
          bankruptcy.players state.turn.currentSeatIndex = some next ∧ ∃ result,
        transitionTimeoutForfeit state current bankruptcy (some (freshClock next nowMs)) nowMs
          = .ok result) := by
  have hcount := activeCount_eliminate helim.slot helim.active
  have hbefore := activeCount_afterMissedTurn state 3
  have htwo := hp.two_active
  simp only [transitionTimeoutForfeit, helim.players_eq, mergePlayers_eliminated, bind_eq_ok,
    requireSome_eq_ok, Option.some.injEq, exists_eq_left', ite_eq_ok, pure_eq_ok]
  constructor
  · intro hend
    have hle := helim.end_iff.1 hend
    have hwinner : bankruptcy.winnerSeatIndex ≠ none := by
      obtain ⟨-, -, -, -, -, -, -, -, -, -, -, -, -, hwinner⟩ := resolveBankruptcy_eq_ok hbank
      have hlen := length_activeSeatIndexes
        (updateSlot state.turn.currentSeatIndex GameplayPlayerState.eliminate
          (afterMissedTurn state 3))
      rw [← helim.players_eq] at hlen
      rw [hwinner, if_pos (by omega)]
      intro hnone
      rw [List.head?_eq_none_iff] at hnone
      rw [hnone, List.length_nil] at hlen
      omega
    obtain ⟨terminal, events, hterm, hevents⟩ := @exists_terminal _ _ _ _ _ nowMs
      .timeoutForfeit state (helim.table (afterMissedTurn_table hv hc le_rfl))
      (hp.purse_eliminate hv (.inr rfl)) (by omega) (fun _ => by omega) hnow
    have hderive : deriveTimeoutForfeitTerminalOutcome bankruptcy nowMs = .ok terminal := by
      simp only [deriveTimeoutForfeitTerminalOutcome, bind_eq_ok, require_eq_ok, exists_const]
      exact ⟨⟨hend, hwinner⟩, by rw [helim.players_eq]; exact hterm⟩
    simp only [hend, hderive, bind_eq_ok, requireSome_eq_ok, pure_eq_ok]
    exact ⟨_, .inr ⟨by simp, events, hevents, rfl⟩⟩
  · intro hend
    have hmore : ¬ activeCount (afterMissedTurn state 3) ≤ 2 := by
      rw [← helim.end_iff, hend]
      simp
    obtain ⟨i, p, hi, hslot, hactive⟩ := exists_other_active helim.slot helim.active (by omega)
    have hslot' : slotAt (updateSlot state.turn.currentSeatIndex GameplayPlayerState.eliminate
        (afterMissedTurn state 3)) i = some p := by
      rw [slotAt_updateSlot_of_ne hi, hslot]
    have hview : slotAt (bankruptcyPlayers (updateSlot state.turn.currentSeatIndex
        GameplayPlayerState.eliminate (afterMissedTurn state 3))) i
        = some p.toBankruptcyPlayerState := by
      rw [slotAt_bankruptcyPlayers, hslot']
      rfl
    obtain ⟨next, hnext, -⟩ := exists_nextActiveSeat hv.seat_lt
      ((afterMissedTurn_table hv hc le_rfl).seat_lt hslot) hi hview
      (show BankruptcyPlayerState.status p.toBankruptcyPlayerState = .active from hactive)
    obtain ⟨-, q, hq, -⟩ := nextActiveSeat_spec hnext
    rw [slotAt_bankruptcyPlayers] at hq
    obtain ⟨nextPlayer, hnextPlayer, -⟩ := Option.map_eq_some_iff.1 hq
    exact ⟨next, hnext, _, .inl ⟨hend, nextPlayer, hnextPlayer, rfl⟩⟩

/-- From the deadline on, the turn timeout of a game that can be played on is accepted. -/
theorem transitionTurnTimeout_isOk (hv : ValidActive state) (hp : Playable state)
    (hc : IsCurrent state current) (hdeadline : state.turn.deadlineAtMs ≤ nowMs)
    (htime : ClockableTime nowMs) : ∃ result, transitionTurnTimeout state current nowMs
      = .ok result := by
  have hslot : slotAt state.toTimeout.players state.toTimeout.turn.currentSeatIndex
      = some current.toBankruptcyPlayerState := by
    rw [ActiveGameplayAggregateState.toTimeout, slotAt_bankruptcyPlayers, hc.1]
    rfl
  have hmissed := hp.missed_le _ _ hc.1 hc.active
  have hresolve := fun resolution => (@resolveTurnTimeout_eq_ok state.toTimeout nowMs
    resolution).2
  by_cases htwo : current.missedTurns = 2
  · obtain ⟨bankruptcy, hbank, helim⟩ := exists_forfeit hv hp hc
    obtain ⟨hstop, hgo⟩ := transitionTimeoutForfeit_isOk hv hp hc ⟨htime.1, htime.2.1⟩ hbank helim
    have hbank' : resolveBankruptcy (updateSlot state.turn.currentSeatIndex
        (fun p => { p with missedTurns := current.missedTurns + 1 }) state.toTimeout.players)
        state.properties state.inventory state.bankCash state.turn.currentSeatIndex
        = .ok bankruptcy := by
      rw [htwo, toTimeout_players_missed]
      exact hbank
    cases hend : bankruptcy.endConditionMet with
    | true =>
      have hres := hresolve _ ⟨⟨hv.validTimeoutState, htime.1, htime.2.1⟩, hdeadline, _, hslot,
        .inr ⟨bankruptcy, none, htwo, hbank', rfl, .inl ⟨hend, rfl⟩⟩⟩
      rw [transitionTurnTimeout, hres]
      exact hstop hend
    | false =>
      obtain ⟨next, hnext, hok⟩ := hgo hend
      have hres := hresolve _ ⟨⟨hv.validTimeoutState, htime.1, htime.2.1⟩, hdeadline, _, hslot,
        .inr ⟨bankruptcy, some (freshClock next nowMs), htwo, hbank', rfl,
          .inr ⟨hend, next, hnext, htime.2.2, rfl⟩⟩⟩
      rw [transitionTurnTimeout, hres]
      exact hok
  · obtain ⟨i, p, hi, hother, hactive⟩ := exists_other_active hc.1 hc.active hp.two_active
    obtain ⟨next, hnext, hne⟩ : ∃ next, nextActiveSeat (fun player => player.status)
        state.players state.turn.currentSeatIndex = some next ∧
        next ≠ state.turn.currentSeatIndex :=
      exists_nextActiveSeat hv.seat_lt (hv.table.seat_lt hother) hi hother hactive
    have hplayers : updateSlot state.toTimeout.turn.currentSeatIndex
        (fun player => { player with missedTurns := current.missedTurns + 1 })
        state.toTimeout.players = bankruptcyPlayers (afterMissedTurn state (current.missedTurns + 1))
        := toTimeout_players_missed ..
    have hres := hresolve _ ⟨⟨hv.validTimeoutState, htime.1, htime.2.1⟩, hdeadline, _, hslot,
      .inl ⟨next, show current.missedTurns < 2 by omega, by
        rw [hplayers]
        exact (nextActiveSeat_afterMissedTurn _ _).trans hnext, hne, htime.2.2, rfl⟩⟩
    obtain ⟨-, q, hq, -⟩ := nextActiveSeat_spec hnext
    have hq' : slotAt (afterMissedTurn state (current.missedTurns + 1)) next = some q := by
      rw [afterMissedTurn, slotAt_updateSlot_of_ne hne, hq]
    rw [hplayers] at hres
    rw [transitionTurnTimeout, hres]
    simp only [mergePlayers_afterMissedTurn, bind_eq_ok, requireSome_eq_ok, Option.some.injEq,
      exists_eq_left', pure_eq_ok]
    exact ⟨_, q, hq', rfl⟩

end Accepted

/-! ### The commands of the server's clock -/

/-- The current version of `state` accepts `body`. -/
def Accepted (state : ActiveGameplayAggregateState) (body : GameplayCommandBody)
    (context : GameplayCommandContext) : Prop :=
  ∃ state' events, transitionGameplay (.inProgress state) ⟨state.stateVersion, body⟩ context
    = .ok (state', events)

/-- What the clock has to say for a timer to fire. -/
def TimerReady (state : ActiveGameplayAggregateState) (nowMs : ℤ) : GameplayTimeoutCommand → Prop
  | .warnTurnThirtySeconds => .thirty ∉ state.turn.emittedWarnings ∧
      .ten ∉ state.turn.emittedWarnings ∧ state.turn.deadlineAtMs - 30000 ≤ nowMs ∧
      nowMs < state.turn.deadlineAtMs - 10000
  | .warnTurnTenSeconds => .ten ∉ state.turn.emittedWarnings ∧
      state.turn.deadlineAtMs - 10000 ≤ nowMs ∧ nowMs < state.turn.deadlineAtMs
  | .handleTurnTimeout => state.turn.deadlineAtMs ≤ nowMs
  | .enforceGameTimeLimit => ∃ gameEndAtMs ∈ state.gameEndAtMs, gameEndAtMs ≤ nowMs

section Clock

variable {state : ActiveGameplayAggregateState} {context : GameplayCommandContext}

/-- A well-formed command on a valid game is routed. -/
theorem transitionGameplay_of_valid (hv : ValidActive state) (command : GameplayCommand)
    (hcontext : validContext context = true) :
    transitionGameplay (.inProgress state) command context
      = routeGameplay state command context := by
  simp [transitionGameplay, require, isValidActive_iff.2 hv, hcontext, bind, Except.bind]

theorem validContext_internal (hactor : context.actor = .internal)
    (hnow : IsSafeInteger context.nowMs ∧ 0 ≤ context.nowMs) : validContext context = true := by
  simp [validContext, hactor, hnow.1.1, hnow.1.2, hnow.2]

theorem TimeoutStep.ready {current : GameplayPlayerState} {nowMs : ℤ}
    {command : GameplayTimeoutCommand} {state' : GameplayAggregateState}
    {events : List GameplayDomainEvent}
    (h : TimeoutStep state current nowMs command state' events) :
    TimerReady state nowMs command := by
  cases h with
  | timeLimit gameEndAtMs _ _ _ hend hle => exact ⟨gameEndAtMs, hend, hle⟩
  | warning _ seconds turn hseconds hemit =>
    obtain ⟨-, -, hnew, hten, hdue, hlt, hlt', -⟩ := emitTimeoutWarning_eq_ok.1 hemit
    cases command <;> cases hseconds
    · exact ⟨hnew, hten rfl, by simpa [TimeoutWarningSeconds.seconds] using hdue, hlt' rfl⟩
    · exact ⟨hnew, by simpa [TimeoutWarningSeconds.seconds] using hdue, hlt⟩
  | turnAdvanced _ _ hdeadline => exact hdeadline
  | forfeitContinued _ _ _ hdeadline => exact hdeadline
  | forfeitFinished _ _ _ _ hdeadline => exact hdeadline

/-- An internal timer on a game that can be played on is accepted exactly when no bankruptcy is
pending, the time limit has not passed (its own timer apart), and the clock says so. -/
theorem accepted_timer_iff {command : GameplayTimeoutCommand} (hv : ValidActive state)
    (hp : Playable state) (hactor : context.actor = .internal)
    (hnow : IsSafeInteger context.nowMs) (hstart : state.turn.startedAtMs ≤ context.nowMs)
    (hnext : command = .handleTurnTimeout → IsSafeInteger (context.nowMs + 90000)) :
    Accepted state (.timeout command) context ↔ state.stateVersion < maxStateVersion ∧
      state.bankruptcyRequiredSeatIndex = none ∧
      (command ≠ .enforceGameTimeLimit →
        ∀ gameEndAtMs ∈ state.gameEndAtMs, context.nowMs < gameEndAtMs) ∧
      TimerReady state context.nowMs command := by
  constructor
  · rintro ⟨state', events, h⟩
    obtain ⟨hadm, hstep⟩ := transitionGameplay_step h
    cases hstep with
    | timeout _ current _ _ _ hnone hlimit hc hstep =>
      exact ⟨hadm.version_lt, hnone, hlimit, hstep.ready⟩
  · rintro ⟨hversion, hnone, hlimit, hready⟩
    have hadm : Admitted state state.stateVersion context.nowMs :=
      ⟨hv, hnow, hstart, rfl, hversion⟩
    have hnow : IsSafeInteger context.nowMs ∧ 0 ≤ context.nowMs := ⟨hnow, hadm.now_nonneg⟩
    obtain ⟨current, hc, -⟩ := hv.exists_current
    have htimed : timedPlayer state = .ok current := by
      rw [timedPlayer, requireSome_eq_ok, activeGameplayPlayer_eq_some]
      exact hc
    unfold Accepted
    rw [transitionGameplay_of_valid hv _ (validContext_internal hactor hnow)]
    simp only [routeGameplay, transitionGameplayTimeout, bind_eq_ok, require_eq_ok, exists_const,
      checkCommand_eq_ok]
    refine Exists.imp (fun state' => Exists.imp fun events hok =>
      ⟨⟨trivial, hadm⟩, hactor, hnone, hlimit, hok⟩) ?_
    cases command with
    | enforceGameTimeLimit =>
      obtain ⟨gameEndAtMs, hend, hle⟩ := hready
      obtain ⟨finished, events, hok⟩ := transitionEnforceGameTimeLimit_isOk hv hp hend hle hnow
      exact ⟨_, _, hok⟩
    | warnTurnThirtySeconds =>
      obtain ⟨hnew, hten, hdue, hlt⟩ := hready
      rw [htimed]
      exact Prod.exists.1 <| transitionTimeoutWarning_isOk hv hnow hnew (fun _ => hten)
        (by simpa [TimeoutWarningSeconds.seconds] using hdue) (by omega) (fun _ => hlt)
    | warnTurnTenSeconds =>
      obtain ⟨hnew, hdue, hlt⟩ := hready
      rw [htimed]
      exact Prod.exists.1 <| transitionTimeoutWarning_isOk hv hnow hnew (by simp)
        (by simpa [TimeoutWarningSeconds.seconds] using hdue) hlt (by simp)
    | handleTurnTimeout =>
      rw [htimed]
      exact Prod.exists.1 (transitionTurnTimeout_isOk hv hp hc hready ⟨hnow.1, hnow.2, hnext rfl⟩)

/-- The internal clean-up of the trade book is accepted exactly when no bankruptcy is pending and
some trade has expired. -/
theorem accepted_cleanup_iff (hv : ValidActive state) (hactor : context.actor = .internal)
    (hnow : IsSafeInteger context.nowMs) (hstart : state.turn.startedAtMs ≤ context.nowMs) :
    Accepted state (.trade .cleanupExpiredTrades) context ↔
      state.stateVersion < maxStateVersion ∧ state.bankruptcyRequiredSeatIndex = none ∧
      ∃ trade ∈ state.activeTrades, trade.expiresAtMs ≤ context.nowMs := by
  have h0 : 0 ≤ context.nowMs := hv.turn.turn_valid.1.2.2.1.trans hstart
  obtain ⟨cleaned, hclean⟩ := cleanupExpiredTrades_isSome hv.trades hnow h0
  have hremoved : cleaned.removedTradeIds ≠ [] ↔
      ∃ trade ∈ state.activeTrades, trade.expiresAtMs ≤ context.nowMs := by
    rw [(cleanupExpiredTrades_eq_some hclean).2.2]
    simp
  unfold Accepted
  rw [transitionGameplay_of_valid hv _ (validContext_internal hactor ⟨hnow, h0⟩)]
  simp only [routeGameplay, keepsPlaying_eq_ok, transitionGameplayTrade,
    transitionCleanupExpiredTrades, hclean, bind_eq_ok, require_eq_ok, requireSome_eq_ok,
    exists_const, checkCommand_eq_ok, pure_eq_ok, Option.some.injEq, exists_eq_left', hremoved]
  constructor
  · rintro ⟨_, _, _, ⟨⟨-, hadm⟩, hnone, -, hexpired, -⟩, -⟩
    exact ⟨hadm.version_lt, hnone, hexpired⟩
  · rintro ⟨hversion, hnone, hexpired⟩
    exact ⟨_, _, _, ⟨⟨trivial, hv, hnow, hstart, rfl, hversion⟩, hnone, hactor, hexpired, rfl⟩, rfl⟩

end Clock

end Pootown
