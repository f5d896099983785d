import Mathlib.Tactic
import Pootown.Invariants.Timers

/-!
# What the server can bring about

A game ends without its players: idle turns use up what they may miss, and the time limit ends it
at once.

* `idleTurns`: the turns the active players may still miss, `TimeoutStep.idleTurns`;
* `TurnOverdue`, `IdleStep`, `Idling`: a turn timer that is due, its effect, and what it keeps;
* `ServerEnds`: commands of the server alone finish the game; `pending_accepts`: while a bankruptcy
  waits for its player, nothing else is accepted.
-/

namespace Pootown

open Fallible Runs Slots

/-! ### Idle turns -/

/-- The turns that the active players may still miss. -/
def idleTurns (players : List (Option GameplayPlayerState)) : ℤ :=
  total (fun player => if player.status = .active then 3 - (player.missedTurns : ℤ) else 0) players

/-- Every active seat of a game that can be played on may miss a turn. -/
theorem Playable.two_le_idleTurns {state : ActiveGameplayAggregateState} (hp : Playable state) :
    2 ≤ idleTurns state.players := by
  have hle : activeCount state.players ≤ idleTurns state.players := by
    refine total_le_total fun i p hslot => ?_
    by_cases hactive : p.status = .active
    · have hmissed := hp.missed_le i p hslot hactive
      rw [if_pos hactive, if_pos hactive]
      omega
    · rw [if_neg hactive, if_neg hactive]
  exact hp.two_active.trans hle

/-- Missing a turn uses one up. -/
theorem idleTurns_afterMissedTurn {state : ActiveGameplayAggregateState}
    {current : GameplayPlayerState} (hc : IsCurrent state current) :
    idleTurns (afterMissedTurn state (current.missedTurns + 1)) + 1 = idleTurns state.players := by
  unfold idleTurns afterMissedTurn
  rw [total_updateSlot hc.1, hc.active]
  simp only [if_true]
  push_cast
  omega

/-- The third one eliminates the player, who had no other left. -/
theorem idleTurns_forfeit {state : ActiveGameplayAggregateState} {current : GameplayPlayerState}
    (hc : IsCurrent state current) (htwo : current.missedTurns = 2) :
    idleTurns (updateSlot state.turn.currentSeatIndex GameplayPlayerState.eliminate
      (afterMissedTurn state 3)) + 1 = idleTurns state.players := by
  have hmissed : idleTurns (afterMissedTurn state 3) + 1 = idleTurns state.players := by
    simpa [htwo] using idleTurns_afterMissedTurn hc
  have hslot : slotAt (afterMissedTurn state 3) state.turn.currentSeatIndex
      = some { current with missedTurns := 3 } := by
    rw [afterMissedTurn, slotAt_updateSlot_self, hc.1]
    rfl
  have hout : ({ current with missedTurns := 3 } : GameplayPlayerState).eliminate.status
      = .eliminated := rfl
  unfold idleTurns at hmissed ⊢
  rw [total_updateSlot hslot, hout]
  simp only [hc.active, if_true, reduceCtorEq, if_false]
  push_cast
  omega

/-- A turn timer that the game survives uses up one turn, and leaves no bankruptcy pending. -/
theorem TimeoutStep.idleTurns {state active : ActiveGameplayAggregateState}
    {current : GameplayPlayerState} {nowMs : ℤ} {events : List GameplayDomainEvent}
    (h : TimeoutStep state current nowMs .handleTurnTimeout (.inProgress active) events)
    (hc : IsCurrent state current) (hnone : state.bankruptcyRequiredSeatIndex = none) :
    Pootown.idleTurns active.players + 1 = Pootown.idleTurns state.players ∧
      active.bankruptcyRequiredSeatIndex = none := by
  cases h with
  | warning _ seconds turn hseconds hemit => cases hseconds
  | turnAdvanced turn next hdeadline hlt hpass hslot => exact ⟨idleTurns_afterMissedTurn hc, hnone⟩
  | forfeitContinued bankruptcy nextSeat next hdeadline htwo helim hend hseat htime hslot =>
    exact ⟨idleTurns_forfeit hc htwo, rfl⟩

/-- The server's turn timer is due, and the time limit has not passed. -/
structure TurnOverdue (state : ActiveGameplayAggregateState) (context : GameplayCommandContext) :
    Prop where
  internal : context.actor = .internal
  deadline_le : state.turn.deadlineAtMs ≤ context.nowMs
  before_end : ∀ gameEndAtMs ∈ state.gameEndAtMs, context.nowMs < gameEndAtMs
  safe : IsSafeInteger context.nowMs

/-- An overdue turn timer is accepted in `context`. -/
def IdleStep (state : GameplayAggregateState) (context : GameplayCommandContext)
    (state' : GameplayAggregateState) : Prop :=
  ∃ active events, state = .inProgress active ∧ TurnOverdue active context ∧
    transitionGameplay state ⟨active.stateVersion, .timeout .handleTurnTimeout⟩ context
      = .ok (state', events)

/-- What an idle game keeps while it lasts. -/
structure Idling (state : ActiveGameplayAggregateState) : Prop where
  valid : ValidActive state
  playable : Playable state
  solvent : state.bankruptcyRequiredSeatIndex = none

/-- The turns left to miss; none in a finished game. -/
def GameplayAggregateState.idleTurns : GameplayAggregateState → ℤ
  | .inProgress state => Pootown.idleTurns state.players
  | .finished _ => 0

theorem IdleStep.spec {state : ActiveGameplayAggregateState} {state' : GameplayAggregateState}
    {context : GameplayCommandContext} (h : IdleStep (.inProgress state) context state')
    (hi : Idling state) :
    (∀ active, state' = .inProgress active → Idling active) ∧
      state'.idleTurns + 1 ≤ Pootown.idleTurns state.players := by
  obtain ⟨_, events, heq, -, haccepts⟩ := h
  cases heq
  obtain ⟨hadm, hstep⟩ := transitionGameplay_step haccepts
  cases state' with
  | finished finished =>
    have htwo := hi.playable.two_le_idleTurns
    refine ⟨fun active hactive => (by cases hactive), ?_⟩
    rw [GameplayAggregateState.idleTurns]
    omega
  | inProgress active =>
    have hvalid : ValidActive active := hstep.valid hadm (by simp)
    have hplayable := hi.playable.step hstep hadm.valid
    cases hstep with
    | timeout _ current _ _ hactor hnone hlimit hc hstep =>
      obtain ⟨hfall, hsolvent⟩ := hstep.idleTurns hc hnone
      refine ⟨fun _ hactive => ?_, hfall.le⟩
      cases hactive
      exact ⟨hvalid, hplayable, hsolvent⟩

theorem not_idleStep_finished (finished : FinishedGameplayAggregateState)
    (context : GameplayCommandContext) (state' : GameplayAggregateState) :
    ¬ IdleStep (.finished finished) context state' := by
  rintro ⟨active, events, heq, -⟩
  cases heq

/-- Overdue timers keep a game idling, and there are no more of them than turns to miss. -/
theorem idle_run {state : ActiveGameplayAggregateState} {contexts : List GameplayCommandContext}
    {state' : GameplayAggregateState} (hi : Idling state)
    (h : Run IdleStep (.inProgress state) contexts state') :
    (∀ active, state' = .inProgress active → Idling active) ∧
      (contexts.length : ℤ) + state'.idleTurns ≤ idleTurns state.players := by
  have hkeeps : ∀ s context s', (∀ active, s = .inProgress active → Idling active) →
      IdleStep s context s' → ∀ active, s' = .inProgress active → Idling active := by
    intro s context s' hs hstep
    cases s with
    | finished finished => exact (not_idleStep_finished _ _ _ hstep).elim
    | inProgress before => exact (hstep.spec (hs before rfl)).1
  have hfalls : ∀ s context s', (∀ active, s = .inProgress active → Idling active) →
      IdleStep s context s' → s'.idleTurns + 1 ≤ s.idleTurns := by
    intro s context s' hs hstep
    cases s with
    | finished finished => exact (not_idleStep_finished _ _ _ hstep).elim
    | inProgress before => exact (hstep.spec (hs before rfl)).2
  have hstart : ∀ active, GameplayAggregateState.inProgress state = .inProgress active →
      Idling active := by
    intro active hactive
    cases hactive
    exact hi
  exact ⟨h.invariant hkeeps hstart, h.length_add_le hkeeps hfalls hstart⟩

/-- An idle game ends: there are no more overdue timers than turns to miss, fewer while it lasts,
and the next one is accepted as long as the versions and the clock reach that far. -/
theorem idle_game_ends (state : ActiveGameplayAggregateState)
    (contexts : List GameplayCommandContext) (state' : GameplayAggregateState)
    (hreach : ReachableGame (.inProgress state))
    (hvalid : isValidActiveGameplayAggregateState state = true)
    (hnone : state.bankruptcyRequiredSeatIndex = none)
    (hrun : Run IdleStep (.inProgress state) contexts state') :
    (contexts.length : ℤ) ≤ idleTurns state.players ∧
    ∀ active, state' = .inProgress active →
      (contexts.length : ℤ) < idleTurns state.players ∧
      ∀ context, TurnOverdue active context → IsSafeInteger (context.nowMs + 90000) →
        (Accepted active (.timeout .handleTurnTimeout) context ↔
          active.stateVersion < maxStateVersion) := by
  have hi : Idling state :=
    ⟨isValidActive_iff.1 hvalid, playable_of_reachable hreach, hnone⟩
  obtain ⟨hkeeps, hlength⟩ := idle_run hi hrun
  have hlasts : ∀ active, state' = .inProgress active → 2 ≤ state'.idleTurns := by
    rintro active rfl
    exact (hkeeps active rfl).playable.two_le_idleTurns
  refine ⟨?_, fun active hactive => ⟨?_, fun context hdue hsafe => ?_⟩⟩
  · cases state' with
    | finished finished => simpa [GameplayAggregateState.idleTurns] using hlength
    | inProgress active =>
      have := hlasts active rfl
      omega
  · have := hlasts active hactive
    omega
  · obtain ⟨hv, hp, hsolvent⟩ := hkeeps active hactive
    have hstart : active.turn.startedAtMs ≤ context.nowMs := by
      have hturn := hv.turn.turn_valid.1
      have hpolicy : 0 ≤ GameplayPolicy.turnTimeoutMs := by decide
      have := hdue.deadline_le
      omega
    rw [accepted_timer_iff hv hp hdue.internal hdue.safe hstart fun _ => hsafe]
    simp only [hsolvent, true_and]
    exact and_iff_left ⟨fun _ => hdue.before_end, hdue.deadline_le⟩

/-- Alice misses the first turn of the game of two. -/
theorem idle_game_ends_firstTurn : ∃ state context state',
    ReachableGame (.inProgress state) ∧ IdleStep (.inProgress state) context state' ∧
    1 ≤ idleTurns state.players := by
  obtain ⟨state, state', events, hstart, hok, hcheck⟩ := exists_of_acceptedWith
    (twoPlayerGame []) (timer .handleTurnTimeout 1 90000)
    (fun state _ _ => isValidActiveGameplayAggregateState state &&
      decide (state.bankruptcyRequiredSeatIndex = none) && decide (state.stateVersion = 1) &&
      decide (state.turn.deadlineAtMs ≤ 90000) &&
      decide (∀ gameEndAtMs ∈ state.gameEndAtMs, 90000 < gameEndAtMs)) (by decide +kernel)
  simp only [Bool.and_eq_true, decide_eq_true_eq] at hcheck
  obtain ⟨⟨⟨⟨hvalid, hnone⟩, hversion⟩, hdeadline⟩, hend⟩ := hcheck
  have hreach := reachable_of_twoPlayerGame hstart
  have hstep : IdleStep (.inProgress state) (timer .handleTurnTimeout 1 90000).2 state' :=
    ⟨state, events, rfl, ⟨rfl, hdeadline, hend, by decide⟩, by rw [hversion]; exact hok⟩
  refine ⟨state, _, state', hreach, hstep, ?_⟩
  simpa using (idle_game_ends state [_] state' hreach hvalid hnone (.cons hstep (.nil _))).1

/-- Whether `state` is valid, solvent, and refuses the overdue turn timer at `nowMs`. -/
def refusesTimeout (nowMs : ℤ) (state : ActiveGameplayAggregateState) : Bool :=
  isValidActiveGameplayAggregateState state &&
  decide (state.bankruptcyRequiredSeatIndex = none) &&
  decide (state.turn.deadlineAtMs ≤ nowMs) &&
  decide (∀ gameEndAtMs ∈ state.gameEndAtMs, nowMs < gameEndAtMs) &&
  !(transitionGameplay (.inProgress state) (timer .handleTurnTimeout state.stateVersion nowMs).1
    (timer .handleTurnTimeout state.stateVersion nowMs).2).toOption.isSome

/-- A game at its last version refuses the timer, and so does one whose next deadline the clock
does not reach. -/
theorem not_idle_game_ends :
    (¬ ∀ state context, ReachableGame (.inProgress state) →
      isValidActiveGameplayAggregateState state = true →
      state.bankruptcyRequiredSeatIndex = none → TurnOverdue state context →
      IsSafeInteger (context.nowMs + 90000) →
      Accepted state (.timeout .handleTurnTimeout) context) ∧
    ¬ ∀ state context, ReachableGame (.inProgress state) →
      isValidActiveGameplayAggregateState state = true →
      state.bankruptcyRequiredSeatIndex = none → TurnOverdue state context →
      state.stateVersion < maxStateVersion →
      Accepted state (.timeout .handleTurnTimeout) context := by
  have hrefuses : ∀ state nowMs, refusesTimeout nowMs state = true → IsSafeInteger nowMs →
      isValidActiveGameplayAggregateState state = true ∧
      state.bankruptcyRequiredSeatIndex = none ∧
      TurnOverdue state (timer .handleTurnTimeout state.stateVersion nowMs).2 ∧
      ¬ Accepted state (.timeout .handleTurnTimeout)
        (timer .handleTurnTimeout state.stateVersion nowMs).2 := by
    intro state nowMs h hsafe
    simp only [refusesTimeout, Bool.and_eq_true, decide_eq_true_eq] at h
    obtain ⟨⟨⟨⟨hvalid, hnone⟩, hdeadline⟩, hend⟩, hrefused⟩ := h
    refine ⟨hvalid, hnone, ⟨rfl, hdeadline, hend, hsafe⟩, ?_⟩
    rintro ⟨state', events, hok⟩
    have hsome : transitionGameplay (.inProgress state)
        (timer .handleTurnTimeout state.stateVersion nowMs).1
        (timer .handleTurnTimeout state.stateVersion nowMs).2 = .ok (state', events) := hok
    rw [hsome] at hrefused
    cases hrefused
  constructor
  · intro h
    obtain ⟨state, hgame, hcheck⟩ := exists_of_inProgressWith
      (gameOf { twoPlayerLobby with stateVersion := maxStateVersion }) (refusesTimeout 90000)
      (by decide +kernel)
    obtain ⟨hvalid, hnone, hdue, hnot⟩ := hrefuses state 90000 hcheck (by decide)
    exact hnot (h state _ (reachable_of_gameOf hgame) hvalid hnone hdue
      (show IsSafeInteger (90000 + 90000) by decide))
  · intro h
    obtain ⟨state, hgame, hcheck⟩ := exists_of_inProgressWith
      (gameOf { twoPlayerLobby with timeLimitMs := none, gameEndAtMs := none })
      (fun state => refusesTimeout 9007199254740990 state &&
        decide (state.stateVersion < maxStateVersion)) (by decide +kernel)
    rw [Bool.and_eq_true, decide_eq_true_eq] at hcheck
    obtain ⟨hvalid, hnone, hdue, hnot⟩ := hrefuses state _ hcheck.1 (by decide)
    exact hnot (h state _ (reachable_of_gameOf hgame) hvalid hnone hdue hcheck.2)

/-! ### The time limit -/

/-- Commands of the server alone finish the game. -/
def ServerEnds (state : ActiveGameplayAggregateState) : Prop :=
  ∃ commands finished, (∀ accepted ∈ commands, accepted.context.actor = .internal) ∧
    Run Accepts (.inProgress state) commands (.finished finished)

/-- While a bankruptcy is pending, a command is accepted from its player only, to declare it. -/
theorem pending_accepts {state : ActiveGameplayAggregateState} {accepted : AcceptedCommand}
    {state' : GameplayAggregateState} (h : Accepts (.inProgress state) accepted state')
    (hpending : state.bankruptcyRequiredSeatIndex ≠ none) :
    accepted.command.body = .declareBankruptcy ∧ ∃ current, IsCurrent state current ∧
      accepted.context.actor = .player current.playerId := by
  obtain ⟨command, context, events⟩ := accepted
  obtain ⟨hadm, hstep⟩ := transitionGameplay_step h
  have hphase : state.turn.phase = .awaitingBankruptcy := by
    obtain ⟨hnone, -⟩ | ⟨-, hphase⟩ := hadm.valid.turn.bankruptcy
    · exact (hpending hnone).elim
    · exact hphase
  obtain ⟨expected, body⟩ := command
  have hbody : body = .declareBankruptcy := by
    cases hstep with
    | turn command current active _ hc hstep =>
      cases hstep with
      | endTurn turn hend hpass => simp [hphase] at hend
      | roll _ dice rng _ _ hne hroll hdraw hstep => simp [hphase] at hroll
    | property command current active _ hnone hc hstep => exact (hpending hnone).elim
    | jail command current active _ hjail hc hstep => simp [hphase] at hjail
    | card command current cardId rng resolution active _ hcard hc hdraw hres hstep =>
      simp [hphase] at hcard
    | bankruptcy current resolution _ _ _ hc helim hstep => rfl
    | trade command active _ hnone hstep => exact (hpending hnone).elim
    | timeout command current _ _ hactor hnone hlimit hc hstep => exact (hpending hnone).elim
  subst hbody
  refine ⟨rfl, ?_⟩
  simp only [Accepts, transitionGameplay, routeGameplay, bind_eq_ok] at h
  obtain ⟨-, -, -, -, h⟩ := h
  obtain ⟨-, -, current, resolution, hc, hactor, -⟩ := transitionGameplayBankruptcy_step h
  exact ⟨current, hc, hactor⟩

/-- The first command of the server needs a solvent player and a version to move on to. -/
theorem ServerEnds.solvent {state : ActiveGameplayAggregateState} (h : ServerEnds state) :
    state.bankruptcyRequiredSeatIndex = none ∧ state.stateVersion < maxStateVersion := by
  obtain ⟨commands, finished, hinternal, hrun⟩ := h
  cases hrun with
  | cons hfirst _ =>
    refine ⟨?_, (transitionGameplay_step hfirst).1.version_lt⟩
    by_contra hpending
    obtain ⟨-, current, -, hactor⟩ := pending_accepts hfirst hpending
    rw [hinternal _ (List.mem_cons_self ..)] at hactor
    cases hactor

/-- The server ends a timed game exactly when no bankruptcy is pending, unless the game has used
up its versions; a pending bankruptcy waits for the player who has to declare it. -/
theorem serverEnds_iff (state : ActiveGameplayAggregateState)
    (hreach : ReachableGame (.inProgress state))
    (hvalid : isValidActiveGameplayAggregateState state = true)
    (htimed : state.gameEndAtMs ≠ none) :
    (ServerEnds state ↔
      state.bankruptcyRequiredSeatIndex = none ∧ state.stateVersion < maxStateVersion) ∧
    (state.bankruptcyRequiredSeatIndex ≠ none → ∀ accepted state',
      Accepts (.inProgress state) accepted state' →
      accepted.command.body = .declareBankruptcy ∧ ∃ current, IsCurrent state current ∧
        accepted.context.actor = .player current.playerId) := by
  have hv := isValidActive_iff.1 hvalid
  refine ⟨⟨ServerEnds.solvent, ?_⟩, fun hpending accepted state' h => pending_accepts h hpending⟩
  · rintro ⟨hnone, hversion⟩
    obtain ⟨gameEndAtMs, hend⟩ := Option.ne_none_iff_exists'.1 htimed
    -- the first moment at which the limit has passed and the turn has begun
    let nowMs := max gameEndAtMs state.turn.startedAtMs
    let context := (timer .enforceGameTimeLimit state.stateVersion nowMs).2
    have hsafe : IsSafeInteger nowMs := by
      have hlimit := (hv.header.gameEndAt gameEndAtMs hend).1
      have hstarted := hv.turn.turn_valid.1.2.1
      rcases max_choice gameEndAtMs state.turn.startedAtMs with h | h
      · rwa [show nowMs = gameEndAtMs from h]
      · rwa [show nowMs = state.turn.startedAtMs from h]
    have haccepted : Accepted state (.timeout .enforceGameTimeLimit) context := by
      rw [accepted_timer_iff hv (playable_of_reachable hreach) rfl hsafe (le_max_right ..)
        (by simp)]
      exact ⟨hversion, hnone, by simp, gameEndAtMs, hend, le_max_left ..⟩
    obtain ⟨state', events, hok⟩ := haccepted
    obtain ⟨-, hstep⟩ := transitionGameplay_step hok
    cases hstep with
    | timeout _ current _ _ hactor _ hlimit hc hstep =>
      cases hstep with
      | timeLimit => exact ⟨[⟨_, context, _⟩], _, by simp [context, timer], .cons hok (.nil _)⟩
      | warning _ seconds turn hseconds => cases hseconds

/-- The server can end the game of two before its first roll. -/
theorem serverEnds_iff_started : ∃ state, ReachableGame (.inProgress state) ∧
    ServerEnds state := by
  obtain ⟨state, hgame, hcheck⟩ := exists_of_inProgressWith (twoPlayerGame [])
    (fun state => isValidActiveGameplayAggregateState state &&
      decide (state.gameEndAtMs = some 3600000) &&
      decide (state.bankruptcyRequiredSeatIndex = none) &&
      decide (state.stateVersion < maxStateVersion)) (by decide +kernel)
  simp only [Bool.and_eq_true, decide_eq_true_eq] at hcheck
  obtain ⟨⟨⟨hvalid, hend⟩, hnone⟩, hversion⟩ := hcheck
  have hreach := reachable_of_twoPlayerGame hgame
  exact ⟨state, hreach, (serverEnds_iff state hreach hvalid (by simp [hend])).1.2
    ⟨hnone, hversion⟩⟩

/-- Alice gives her money to Bob and lands on a tax that she cannot pay. -/
def unpaidTax : Option GameplayAggregateState :=
  twoPlayerGame [plays "alice" (.trade (.createTrade "bob" (.moneyOnly 1500 1))) 1 10,
    plays "bob" (.trade (.acceptTrade "trade")) 2 20, rolls 1 3 3 30,
    plays "alice" (.property .payMevTax) 4 40]

/-- The server cannot end a game that waits for a bankruptcy, nor one at its last version. -/
theorem not_serverEnds :
    (¬ ∀ state, ReachableGame (.inProgress state) →
      isValidActiveGameplayAggregateState state = true → state.gameEndAtMs ≠ none →
      state.stateVersion < maxStateVersion → ServerEnds state) ∧
    ¬ ∀ state, ReachableGame (.inProgress state) →
      isValidActiveGameplayAggregateState state = true → state.gameEndAtMs ≠ none →
      state.bankruptcyRequiredSeatIndex = none → ServerEnds state := by
  constructor
  · intro h
    obtain ⟨state, hgame, hcheck⟩ := exists_of_inProgressWith unpaidTax
      (fun state => isValidActiveGameplayAggregateState state && state.gameEndAtMs.isSome &&
        decide (state.stateVersion < maxStateVersion) &&
        state.bankruptcyRequiredSeatIndex.isSome) (by decide +kernel)
    simp only [Bool.and_eq_true, decide_eq_true_eq, Option.isSome_iff_ne_none] at hcheck
    obtain ⟨⟨⟨hvalid, hend⟩, hversion⟩, hpending⟩ := hcheck
    exact hpending (h state (reachable_of_twoPlayerGame hgame) hvalid hend hversion).solvent.1
  · intro h
    obtain ⟨state, hgame, hcheck⟩ := exists_of_inProgressWith
      (gameOf { twoPlayerLobby with stateVersion := maxStateVersion })
      (fun state => isValidActiveGameplayAggregateState state && state.gameEndAtMs.isSome &&
        decide (state.bankruptcyRequiredSeatIndex = none) &&
        decide (¬ state.stateVersion < maxStateVersion)) (by decide +kernel)
    simp only [Bool.and_eq_true, decide_eq_true_eq, Option.isSome_iff_ne_none] at hcheck
    obtain ⟨⟨⟨hvalid, hend⟩, hnone⟩, hlast⟩ := hcheck
    exact hlast (h state (reachable_of_gameOf hgame) hvalid hend hnone).solvent.2

end Pootown
