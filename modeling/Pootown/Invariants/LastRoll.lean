import Mathlib.Tactic
import Pootown.Invariants.JailRelease
import Pootown.Invariants.TurnOrder

/-!
# The last roll

The stored dice decide how a turn continues.  They are the current player's own roll of this turn,
unless a roll has just sent its player away: then they are handed on with the turn, until the next
player rolls.

* `diceRolls`: the rolls that events announce; `names`: who sits where;
* `PassingRoll`: the rolls that pass the turn on; `passingRoll_of_passes`;
* `GameplayStep.lastDice`: what one command does to the stored dice;
* `LastRollOwn`, `last_roll_own`.
-/

namespace Pootown

open Fallible Runs Slots

/-! ### Who sits where -/

/-- The identity of each occupant. -/
def names (players : List (Option GameplayPlayerState)) : List (Option String) :=
  mapSlots (fun _ player => player.playerId) players

theorem names_mapSlots {f : ℕ → GameplayPlayerState → GameplayPlayerState}
    {players : List (Option GameplayPlayerState)}
    (h : ∀ i p, (f i p).playerId = p.playerId) :
    names (mapSlots f players) = names players := by
  unfold names
  rw [mapSlots_mapSlots]
  exact mapSlots_congr fun i p _ => h i p

theorem names_updateSlot (seat : ℕ) {f : GameplayPlayerState → GameplayPlayerState}
    (players : List (Option GameplayPlayerState)) (h : ∀ p, (f p).playerId = p.playerId) :
    names (updateSlot seat f players) = names players := by
  refine names_mapSlots fun i p => ?_
  split_ifs
  · exact h p
  · rfl

/-- Nobody changes seats. -/
theorem GameplayStep.names {state active : ActiveGameplayAggregateState}
    {body : GameplayCommandBody} {context : GameplayCommandContext}
    {events : List GameplayDomainEvent}
    (h : GameplayStep state context body (.inProgress active) events) :
    names active.players = names state.players := by
  cases h with
  | turn command current _ _ hc hstep =>
    cases hstep with
    | endTurn => exact names_updateSlot _ _ fun _ => rfl
    | roll _ dice rng _ _ hcommand hphase hdraw hroll =>
      cases hroll <;> exact names_updateSlot _ _ fun _ => rfl
  | property command current _ _ hnone hc hstep =>
    cases hstep with
    | decline | bankruptcy => rfl
    | buy | tax | building => exact names_updateSlot _ _ fun _ => rfl
    | rent =>
      refine names_mapSlots fun i p => ?_
      split_ifs <;> rfl
  | jail command current _ _ hphase hc hstep =>
    cases hstep with
    | bankruptcy => rfl
    | released => exact names_updateSlot _ _ fun _ => rfl
  | card command current cardId rng resolution _ _ hphase hc hdraw hres hstep =>
    cases hstep <;> exact names_updateSlot _ _ fun _ => rfl
  | bankruptcy current resolution _ _ hphase hc helim hstep =>
    cases hstep with
    | continued => exact names_updateSlot _ _ fun _ => rfl
  | trade command _ _ hnone hstep =>
    cases hstep with
    | accepted => exact names_mapSlots fun _ _ => rfl
    | cleanup | created | rejected | cancelled => rfl
  | timeout command current _ _ hactor hnone hlimit hc hstep =>
    cases hstep with
    | warning => rfl
    | turnAdvanced => exact names_updateSlot _ _ fun _ => rfl
    | forfeitContinued =>
      refine (names_updateSlot _ _ fun _ => ?_).trans (names_updateSlot _ _ fun _ => ?_) <;> rfl

/-! ### Rolls -/

/-- The rolls that events announce, with their players. -/
def diceRolls (events : List GameplayDomainEvent) : List (String × DiceRoll) :=
  events.filterMap fun event => match event with
    | .diceRolled playerId dice => some (playerId, dice)
    | _ => none

theorem diceRolls_append (events events' : List GameplayDomainEvent) :
    diceRolls (events ++ events') = diceRolls events ++ diceRolls events' :=
  List.filterMap_append

/-- The dice send the player away: to stay in jail, or to go there. -/
def SentAway (current : GameplayPlayerState) (dice : DiceRoll) : Prop :=
  (current.inJail = true ∧ dice.isDoubles = false ∧ current.jailTurns < 2) ∨
  (current.inJail = false ∧ ((current.consecutiveDoubles = 2 ∧ dice.isDoubles = true) ∨
    ∃ movement, moveBy current.position dice.total = some movement ∧
      movement.toPosition = GameplayPolicy.goToJailPosition))

/-- The command rolls dice that send the current player away. -/
def PassingRoll (state : ActiveGameplayAggregateState) (body : GameplayCommandBody)
    (randomSource : RandomSource) : Prop :=
  (∃ command, body = .turn command ∧ command ≠ .endTurn) ∧ ∃ current dice rng,
    IsCurrent state current ∧ drawGameplayDice state randomSource = .ok (dice, rng) ∧
    SentAway current dice

/-- The steps that do not roll the current player away. -/
def KeepsRoller (state : GameplayAggregateState) (accepted : AcceptedCommand) : Prop :=
  ∀ active, state = .inProgress active →
    ¬ PassingRoll active accepted.command.body accepted.context.randomSource

section Rolls

variable {state state' : ActiveGameplayAggregateState} {current : GameplayPlayerState}
  {dice : DiceRoll} {rng : RandomCheckpoint} {nowMs : ℤ} {events : List GameplayDomainEvent}

theorem transitionFreeRoll_passes {doubles : DoublesResult} (hc : IsCurrent state current)
    (hv : ValidActive state) (hin : current.inJail = false)
    (hd : applyDoubles current.consecutiveDoubles dice = some doubles)
    (h : transitionFreeRoll state current dice doubles rng nowMs = .ok (state', events))
    (hpass : state'.turn.currentSeatIndex ≠ state.turn.currentSeatIndex) :
    SentAway current dice := by
  simp only [transitionFreeRoll, hc.seatIndex_eq hv, ite_eq_ok, bind_eq_ok, requireSome_eq_ok,
    pure_eq_ok, Prod.exists, Prod.mk.injEq] at h
  obtain ⟨hsent, -⟩ | ⟨-, movement, hmove, cash, -, ⟨hjail, -⟩ | ⟨-, turn, hturn, rfl, rfl⟩⟩ := h
  · exact .inr ⟨hin, .inl ((applyDoubles_eq_some hd).2.2 hsent)⟩
  · exact .inr ⟨hin, .inr ⟨movement, hmove, hjail⟩⟩
  · exact absurd (landing_seat hturn) hpass

theorem transitionJailedRoll_passes (hc : IsCurrent state current) (hv : ValidActive state)
    (hin : current.inJail = true)
    (h : transitionJailedRoll state current dice rng nowMs = .ok (state', events))
    (hpass : state'.turn.currentSeatIndex ≠ state.turn.currentSeatIndex) :
    SentAway current dice := by
  cases transitionJailedRoll_step hc hv hin h with
  | jailRemains turn _ hno hlt => exact .inl ⟨hin, hno, hlt⟩
  | jailBankruptcy => exact absurd rfl hpass
  | jailRelease cash method movement turn _ _ _ hturn => exact absurd (landing_seat hturn) hpass
  | threeDoubles _ hout | goToJail _ _ _ hout | moved _ _ _ _ hout =>
    rw [hin] at hout
    cases hout

/-- A roll that leaves the turn with another seat has sent its player away. -/
theorem transitionGameplayTurn_passes {command : GameplayTurnCommand} {expected : ℤ}
    {context : GameplayCommandContext} (hcommand : command ≠ .endTurn)
    (h : transitionGameplayTurn state command expected context = .ok (state', events))
    (hpass : state'.turn.currentSeatIndex ≠ state.turn.currentSeatIndex) :
    PassingRoll state (.turn command) context.randomSource := by
  simp only [transitionGameplayTurn, bind_eq_ok, require_eq_ok, requireSome_eq_ok, exists_const,
    checkCommand_eq_ok, activeGameplayPlayer_eq_some] at h
  obtain ⟨⟨-, hadm⟩, current, hc, -, h⟩ := h
  have hroll : transitionRoll state current context = .ok (state', events) := by
    cases command with
    | endTurn => exact absurd rfl hcommand
    | rollDice => exact h
    | resolveRandomDice => exact h
  simp only [transitionRoll, bind_eq_ok, require_eq_ok, requireSome_eq_ok, Prod.exists,
    exists_const, ite_eq_ok, Bool.not_eq_true] at hroll
  obtain ⟨-, dice, rng, hdraw, doubles, hd, hroll⟩ := hroll
  refine ⟨⟨command, rfl, hcommand⟩, current, dice, rng, hc, hdraw, ?_⟩
  obtain ⟨hin, hroll⟩ | ⟨hin, hroll⟩ := hroll
  · exact transitionJailedRoll_passes hc hadm.valid hin hroll hpass
  · exact transitionFreeRoll_passes hc hadm.valid hin hd hroll hpass

/-- The same for the entry point. -/
theorem passingRoll_of_passes {active : ActiveGameplayAggregateState} {command : GameplayCommand}
    {body : GameplayTurnCommand} {context : GameplayCommandContext}
    (h : transitionGameplay (.inProgress state) command context = .ok (.inProgress active, events))
    (hbody : command.body = .turn body) (hne : body ≠ .endTurn)
    (hpass : active.turn.currentSeatIndex ≠ state.turn.currentSeatIndex) :
    PassingRoll state command.body context.randomSource := by
  simp only [transitionGameplay, routeGameplay, hbody, bind_eq_ok, require_eq_ok,
    exists_const] at h
  obtain ⟨-, -, h⟩ := h
  obtain ⟨_, hturn, hactive⟩ := keepsPlaying_eq_ok.1 h
  cases hactive
  exact hbody ▸ transitionGameplayTurn_passes hne hturn hpass

end Rolls

/-! ### What a command does to the stored dice -/

/-- The ways a command can leave the stored dice: cleared, kept within a turn that has not been
set back to the roll, or replaced by the roll it announces. -/
inductive DiceAfter (state active : ActiveGameplayAggregateState) (body : GameplayCommandBody)
    (events : List GameplayDomainEvent) : Prop
  | cleared : active.lastDice = none → DiceAfter state active body events
  | kept : active.lastDice = state.lastDice →
      active.turn.currentSeatIndex = state.turn.currentSeatIndex → diceRolls events = [] →
      (state.turn.phase = .awaitingRoll → active.turn.phase = .awaitingRoll) →
      DiceAfter state active body events
  | rolled (command : GameplayTurnCommand) (current : GameplayPlayerState) (dice : DiceRoll) :
      body = .turn command → command ≠ .endTurn → IsCurrent state current →
      active.lastDice = some dice → diceRolls events = [(current.playerId, dice)] →
      (active.turn.currentSeatIndex ≠ state.turn.currentSeatIndex →
        active.turn.phase = .awaitingRoll) →
      DiceAfter state active body events

theorem diceRolls_expired (expired : List String) (event : GameplayDomainEvent)
    (h : diceRolls [event] = []) :
    diceRolls (expired.map .tradeExpired ++ [event]) = [] := by
  rw [diceRolls_append, h, List.append_nil, diceRolls, List.filterMap_map]
  exact List.filterMap_eq_nil_iff.2 fun _ _ => rfl

section Steps

variable {state active : ActiveGameplayAggregateState} {current : GameplayPlayerState} {nowMs : ℤ}
  {events : List GameplayDomainEvent}

theorem RollStep.diceAfter {command : GameplayTurnCommand} {dice : DiceRoll}
    {rng : RandomCheckpoint} (h : RollStep state current nowMs dice rng active events)
    (hne : command ≠ .endTurn) (hc : IsCurrent state current) :
    DiceAfter state active (.turn command) events := by
  have hphase : ∀ {turn : ActiveGameplayAggregateTurn}, PassesTurn state nowMs turn →
      turn.phase = .awaitingRoll := by
    rintro _ ⟨next, -, -, -, rfl⟩
    rfl
  cases h with
  | jailRemains turn hin hno hlt hpass =>
    exact .rolled command current dice rfl hne hc rfl rfl fun _ => hphase hpass
  | threeDoubles turn hin htwo hdoubles hpass =>
    exact .rolled command current dice rfl hne hc rfl rfl fun _ => hphase hpass
  | goToJail cash movement turn hin hmove hbooks hle hpass =>
    exact .rolled command current dice rfl hne hc rfl rfl fun _ => hphase hpass
  | jailBankruptcy => exact .rolled command current dice rfl hne hc rfl rfl fun h => absurd rfl h
  | jailRelease cash method movement turn hin hpay hmove hturn =>
    exact .rolled command current dice rfl hne hc rfl rfl fun h => absurd (landing_seat hturn) h
  | moved cash movement doubles turn hin hd hmove hbooks hle hturn =>
    exact .rolled command current dice rfl hne hc rfl rfl fun h => absurd (landing_seat hturn) h

theorem PropertyStep.diceAfter {body : GameplayCommandBody}
    (h : PropertyStep state current nowMs active events) :
    DiceAfter state active body events := by
  have hpending : ∀ {phase}, state.turn.phase = phase → phase ≠ .awaitingRoll →
      ∀ {next : TurnPhase}, state.turn.phase = .awaitingRoll → next = .awaitingRoll :=
    fun hphase hne _ hroll => absurd (hphase.symm.trans hroll) hne
  cases h with
  | decline position price lastDice hphase => exact .kept rfl rfl rfl (hpending hphase (by simp))
  | buy position property definition lastDice hphase =>
    exact .kept rfl rfl rfl (hpending hphase (by simp))
  | bankruptcy hphase =>
    obtain ⟨position, hphase⟩ | hphase := hphase
    · exact .kept rfl rfl rfl (hpending hphase (by simp))
    · exact .kept rfl rfl rfl (hpending hphase (by simp))
  | rent position ownerSeat owner amount lastDice hphase =>
    exact .kept rfl rfl rfl (hpending hphase (by simp))
  | tax taxKind lastDice hphase => exact .kept rfl rfl rfl (hpending hphase (by simp))
  | building action =>
    refine .kept rfl rfl ?_ fun hroll => hroll
    cases action <;> rfl

theorem CardStep.diceAfter {body : GameplayCommandBody} {deck : CardDeck} {rng : RandomCheckpoint}
    {resolution : CardResolution}
    (h : CardStep state current nowMs deck rng resolution active events)
    (hphase : state.turn.phase = .awaitingCardDraw deck) : DiceAfter state active body events := by
  have hpending : ∀ {next : TurnPhase}, state.turn.phase = .awaitingRoll →
      next = .awaitingRoll := fun hroll => nomatch hphase.symm.trans hroll
  cases h with
  | bankruptcy => exact .kept rfl rfl rfl hpending
  | continued turn hsolvent hturn =>
    have hseat : turn.currentSeatIndex = state.turn.currentSeatIndex := by
      unfold continuationTurn at hturn
      split_ifs at hturn
      · exact landing_seat hturn
      · obtain ⟨-, -, rfl⟩ := createClockedGameplayTurn_eq_some.1 hturn
        rfl
    refine .kept rfl hseat ?_ hpending
    unfold cardEvents
    split <;> rfl

/-- What an accepted command does to the stored dice. -/
theorem GameplayStep.lastDice {body : GameplayCommandBody} {context : GameplayCommandContext}
    (h : GameplayStep state context body (.inProgress active) events) :
    DiceAfter state active body events := by
  cases h with
  | turn command current _ _ hc hstep =>
    cases hstep with
    | endTurn => exact .cleared rfl
    | roll _ dice rng _ _ hcommand hphase hdraw hroll => exact hroll.diceAfter hcommand hc
  | property command current _ _ hnone hc hstep => exact hstep.diceAfter
  | jail command current _ _ hphase hc hstep => cases hstep <;> exact .cleared rfl
  | card command current cardId rng resolution _ _ hphase hc hdraw hres hstep =>
    exact hstep.diceAfter hphase
  | bankruptcy current resolution _ _ hphase hc helim hstep =>
    cases hstep with
    | continued => exact .cleared rfl
  | trade command _ _ hnone hstep =>
    cases hstep with
    | cleanup trades expired =>
      refine .kept rfl rfl ?_ fun hroll => hroll
      rw [diceRolls, List.filterMap_map]
      exact List.filterMap_eq_nil_iff.2 fun _ _ => rfl
    | created | accepted | rejected | cancelled =>
      exact .kept rfl rfl (diceRolls_expired _ _ rfl) fun hroll => hroll
  | timeout command current _ _ hactor hnone hlimit hc hstep =>
    cases hstep with
    | warning _ seconds turn hcommand hturn =>
      obtain ⟨-, -, -, -, -, -, -, rfl⟩ := emitTimeoutWarning_eq_ok.1 hturn
      exact .kept rfl rfl rfl fun hroll => hroll
    | turnAdvanced => exact .cleared rfl
    | forfeitContinued => exact .cleared rfl

end Steps

/-! ### Along a run -/

/-- The stored dice, if any, are those of the last roll announced in `commands`; the player whose
turn it is rolled them, and the turn has been theirs since. -/
def LastRollOwn (start : GameplayAggregateState) (commands : List AcceptedCommand)
    (state : ActiveGameplayAggregateState) : Prop :=
  ∀ dice, state.lastDice = some dice → ∃ playerId before roll after m m',
    slotAt (names state.players) state.turn.currentSeatIndex = some playerId ∧
    (diceRolls (commands.flatMap AcceptedCommand.events)).getLast? = some (playerId, dice) ∧
    commands = before ++ roll :: after ∧ Run Accepts start before m ∧
    (playerId, dice) ∈ diceRolls roll.events ∧
    WithinTurn m roll m' ∧ Run WithinTurn m' after (.inProgress state)

section Runs

variable {start : GameplayAggregateState} {past : List AcceptedCommand}
  {accepted : AcceptedCommand} {state active : ActiveGameplayAggregateState}

theorem flatMap_events_snoc (past : List AcceptedCommand) (accepted : AcceptedCommand) :
    diceRolls ((past ++ [accepted]).flatMap AcceptedCommand.events)
      = diceRolls (past.flatMap AcceptedCommand.events) ++ diceRolls accepted.events := by
  rw [List.flatMap_append, diceRolls_append, List.flatMap_singleton]

/-- Dice that are kept within the turn stay the player's own. -/
theorem LastRollOwn.kept (h : LastRollOwn start past state)
    (hwithin : WithinTurn (.inProgress state) accepted (.inProgress active))
    (hnames : names active.players = names state.players)
    (hdice : active.lastDice = state.lastDice) (hrolls : diceRolls accepted.events = []) :
    LastRollOwn start (past ++ [accepted]) active := by
  intro dice hlast
  obtain ⟨playerId, before, roll, after, m, m', hslot, hget, rfl, hbefore, hmem, hroll, hafter⟩ :=
    h dice (hdice ▸ hlast)
  refine ⟨playerId, before, roll, after ++ [accepted], m, m', ?_, ?_, by simp, hbefore, hmem, hroll,
    hafter.snoc hwithin⟩
  · rw [hnames, Option.some.inj hwithin.2]
    exact hslot
  · rw [flatMap_events_snoc, hrolls, List.append_nil]
    exact hget

/-- Dice rolled within the turn are the player's own. -/
theorem LastRollOwn.rolled {current : GameplayPlayerState} {dice : DiceRoll}
    (hrun : Run Accepts start past (.inProgress state))
    (hwithin : WithinTurn (.inProgress state) accepted (.inProgress active))
    (hnames : names active.players = names state.players) (hc : IsCurrent state current)
    (hdice : active.lastDice = some dice)
    (hrolls : diceRolls accepted.events = [(current.playerId, dice)]) :
    LastRollOwn start (past ++ [accepted]) active := by
  intro dice' hlast
  rw [hdice, Option.some.injEq] at hlast
  subst hlast
  refine ⟨current.playerId, past, accepted, [], _, _, ?_, ?_, rfl, hrun, ?_, hwithin, .nil _⟩
  · rw [hnames, Option.some.inj hwithin.2, names, slotAt_mapSlots, hc.1]
    rfl
  · rw [flatMap_events_snoc, hrolls, List.getLast?_concat]
  · rw [hrolls]
    exact List.mem_singleton_self _

/-- The step lemma: the dice are the player's own after a step, if they are where the step keeps
them, unless the step rolls its player away. -/
theorem lastRollOwn_step (hrun : Run Accepts start past (.inProgress state))
    (haccepts : Accepts (.inProgress state) accepted (.inProgress active))
    (hown : (state.turn.phase = .awaitingRoll → active.turn.phase = .awaitingRoll) →
      LastRollOwn start past state) :
    LastRollOwn start (past ++ [accepted]) active ∨
      (PassingRoll state accepted.command.body accepted.context.randomSource ∧
        active.turn.phase = .awaitingRoll) := by
  obtain ⟨-, hstep⟩ := transitionGameplay_step haccepts
  cases hstep.lastDice with
  | cleared hnone =>
    left
    intro dice hlast
    rw [hnone] at hlast
    cases hlast
  | kept hdice hseat hrolls hphase =>
    exact .inl ((hown hphase).kept ⟨haccepts, congrArg some hseat⟩ hstep.names hdice hrolls)
  | rolled command current dice hbody hne hc hdice hrolls hphase =>
    by_cases hseat : active.turn.currentSeatIndex = state.turn.currentSeatIndex
    · exact .inl (.rolled hrun ⟨haccepts, congrArg some hseat⟩ hstep.names hc hdice hrolls)
    · exact .inr ⟨passingRoll_of_passes haccepts hbody hne hseat, hphase hseat⟩

/-- In a started game nobody has rolled. -/
theorem lastRollOwn_started (hstart : StartedGame (.inProgress state)) :
    LastRollOwn (.inProgress state) [] state := by
  obtain ⟨lobby, first, hinit, hfirst⟩ := hstart
  cases hfirst
  intro dice hlast
  unfold initializeGameplayAggregate at hinit
  split_ifs at hinit
  cases hinit
  cases hlast

end Runs

/-- The stored dice are the current player's own last roll, of this turn: in every state of a run in
which no player is rolled away, and, in any run, whenever the turn is past its roll. -/
theorem last_roll_own (start state : ActiveGameplayAggregateState)
    (commands : List AcceptedCommand) (hstart : StartedGame (.inProgress start)) :
    (Run (Guarded KeepsRoller Accepts) (.inProgress start) commands (.inProgress state) →
      LastRollOwn (.inProgress start) commands state) ∧
    (Run Accepts (.inProgress start) commands (.inProgress state) →
      state.turn.phase ≠ .awaitingRoll → LastRollOwn (.inProgress start) commands state) := by
  have hfirst := lastRollOwn_started hstart
  constructor
  · intro hrun
    have hnil : Run Accepts (.inProgress start) [] (.inProgress start) ∧ ∀ state,
        GameplayAggregateState.inProgress start = .inProgress state →
          LastRollOwn (.inProgress start) [] state :=
      ⟨.nil _, fun state hs => by cases hs; exact hfirst⟩
    have hall := hrun.history (J := fun past s => Run Accepts (.inProgress start) past s ∧
        ∀ state, s = .inProgress state → LastRollOwn (.inProgress start) past state)
      (fun past s accepted s' hJ hstep => ?_) hnil
    · exact hall.2 state rfl
    · obtain ⟨hrun, hown⟩ := hJ
      obtain ⟨haccepts, hguard⟩ := hstep
      refine ⟨hrun.snoc haccepts, fun active hactive => ?_⟩
      subst hactive
      cases s with
      | finished finished => exact (not_accepts_finished _ _ _ haccepts).elim
      | inProgress before =>
        exact (lastRollOwn_step hrun haccepts fun _ => hown before rfl).resolve_right
          fun hpassing => hguard before rfl hpassing.1
  · intro hrun
    have hnil : Run Accepts (.inProgress start) [] (.inProgress start) ∧ ∀ state,
        GameplayAggregateState.inProgress start = .inProgress state → state.turn.phase ≠ .awaitingRoll →
          LastRollOwn (.inProgress start) [] state :=
      ⟨.nil _, fun state hs _ => by cases hs; exact hfirst⟩
    have hall := hrun.history (J := fun past s => Run Accepts (.inProgress start) past s ∧
        ∀ state, s = .inProgress state → state.turn.phase ≠ .awaitingRoll →
          LastRollOwn (.inProgress start) past state)
      (fun past s accepted s' hJ haccepts => ?_) hnil
    · exact hall.2 state rfl
    · obtain ⟨hrun, hown⟩ := hJ
      refine ⟨hrun.snoc haccepts, fun active hactive hphase => ?_⟩
      subst hactive
      cases s with
      | finished finished => exact (not_accepts_finished _ _ _ haccepts).elim
      | inProgress before =>
        refine (lastRollOwn_step hrun haccepts fun himp => ?_).resolve_right
          fun hpassing => hphase hpassing.2
        exact hown before rfl fun hroll => hphase (himp hroll)

/-- A roll outside jail that is no third double and stays off the go-to-jail space keeps the
roller. -/
theorem keepsRoller_of_lands {active : ActiveGameplayAggregateState} {accepted : AcceptedCommand}
    {current : GameplayPlayerState}
    (hslot : slotAt active.players active.turn.currentSeatIndex = some current)
    (hjail : current.inJail = false) (hdoubles : current.consecutiveDoubles ≠ 2)
    (hlands : ∀ dice rng movement,
      drawGameplayDice active accepted.context.randomSource = .ok (dice, rng) →
      moveBy current.position dice.total = some movement →
      movement.toPosition ≠ GameplayPolicy.goToJailPosition) :
    KeepsRoller (.inProgress active) accepted := by
  rintro _ ⟨⟩ ⟨-, current', dice, rng, hcurrent, hdraw, haway⟩
  obtain rfl : current = current' := Option.some.inj (hslot.symm.trans hcurrent.1)
  rcases haway with ⟨hin, -⟩ | ⟨-, ⟨htwo, -⟩ | ⟨movement, hmoves, hto⟩⟩
  · rw [hjail] at hin
    cases hin
  · exact hdoubles htwo
  · exact hlands dice rng movement hdraw hmoves hto

/-- Alice's first roll stays hers while she decides about the space she landed on, and while she is
to roll again. -/
theorem last_roll_own_firstRoll : ∃ start commands state, StartedGame (.inProgress start) ∧
    Run (Guarded KeepsRoller Accepts) (.inProgress start) commands (.inProgress state) ∧
    state.turn.phase = .awaitingRoll ∧ state.lastDice ≠ none ∧
    LastRollOwn (.inProgress start) commands state := by
  obtain ⟨start, hstart, hcheck⟩ := exists_of_inProgressWith (twoPlayerGame [])
    (fun start => decide (start.turn.currentSeatIndex = 0) &&
      ((slotAt start.players 0).any fun alice => !alice.inJail && alice.consecutiveDoubles == 0 &&
        alice.position == 0) &&
      ((drawGameplayDice start (rolls 3 3 1 10).2.randomSource).toOption.any fun drawn =>
        drawn.1.total == 6) &&
      (nextState (.inProgress start) (rolls 3 3 1 10)).any fun rolled =>
        (nextState rolled (plays "alice" (.property (.declineProperty 6)) 2 20)).any fun last =>
          inProgressWith (some last) fun state => decide (state.turn.phase = .awaitingRoll) &&
            decide (state.lastDice ≠ none)) (by decide +kernel)
  simp only [Bool.and_eq_true, decide_eq_true_eq] at hcheck
  obtain ⟨⟨⟨hseat, halice⟩, hdice⟩, hplay⟩ := hcheck
  obtain ⟨rolled, hrolled, hplay⟩ := (Option.any_eq_true _ _).1 hplay
  obtain ⟨last, hlast, hplay⟩ := (Option.any_eq_true _ _).1 hplay
  obtain ⟨state, heq, hshape⟩ := exists_of_inProgressWith _ _ hplay
  obtain rfl := Option.some.inj heq
  obtain ⟨rollEvents, hrolls⟩ := nextState_eq_some.1 hrolled
  obtain ⟨events, hdeclines⟩ := nextState_eq_some.1 hlast
  simp only [Bool.and_eq_true, decide_eq_true_eq] at hshape
  have hkeeps : KeepsRoller (.inProgress start)
      ⟨(rolls 3 3 1 10).1, (rolls 3 3 1 10).2, rollEvents⟩ := by
    obtain ⟨alice, hslot, hfree⟩ := (Option.any_eq_true _ _).1 halice
    simp only [Bool.and_eq_true, Bool.not_eq_true', beq_iff_eq] at hfree
    obtain ⟨⟨hjail, hdoubles⟩, hposition⟩ := hfree
    rw [← hseat] at hslot
    refine keepsRoller_of_lands hslot hjail (by rw [hdoubles]; decide) ?_
    intro dice rng movement hdraw hmoves
    have htotal : dice.total = 6 := by
      simpa [hdraw, Except.toOption] using hdice
    rw [hposition, htotal] at hmoves
    cases hmoves
    decide
  have hdecides : KeepsRoller rolled ⟨(plays "alice" (.property (.declineProperty 6)) 2 20).1,
      (plays "alice" (.property (.declineProperty 6)) 2 20).2, events⟩ := by
    rintro _ - ⟨⟨command, hbody, -⟩, -⟩
    cases hbody
  have hrun : Run (Guarded KeepsRoller Accepts) (.inProgress start) _ (.inProgress state) :=
    .cons ⟨hrolls, hkeeps⟩ (.cons ⟨hdeclines, hdecides⟩ (.nil _))
  have hstarted := started_of_twoPlayerGame hstart
  exact ⟨start, _, state, hstarted, hrun, hshape.1, hshape.2,
    (last_roll_own start state _ hstarted).1 hrun⟩

/-- Alice rolls double fives three times and goes to jail; her dice are bob's as his turn
begins. -/
theorem not_last_roll_own : ¬ ∀ (start state : ActiveGameplayAggregateState)
    (commands : List AcceptedCommand), StartedGame (.inProgress start) →
    Run Accepts (.inProgress start) commands (.inProgress state) →
    LastRollOwn (.inProgress start) commands state := by
  intro h
  obtain ⟨start, hstart, hcheck⟩ := exists_of_inProgressWith (twoPlayerGame [])
    (fun start => (record (.inProgress start)
      [rolls 5 5 1 10, rolls 5 5 2 20, rolls 5 5 3 30]).any fun recorded =>
      recorded.2.active?.any fun state => decide (state.lastDice ≠ none) &&
        decide (slotAt (names state.players) state.turn.currentSeatIndex = some "bob") &&
        decide ((diceRolls (recorded.1.flatMap AcceptedCommand.events)).getLast?.map Prod.fst
          = some "alice")) (by decide +kernel)
  obtain ⟨⟨commands, last⟩, hrecord, hcheck⟩ := (Option.any_eq_true _ _).1 hcheck
  obtain ⟨state, hlast, hcheck⟩ := (Option.any_eq_true _ _).1 hcheck
  simp only [Bool.and_eq_true, decide_eq_true_eq] at hcheck
  obtain ⟨⟨hsome, hbob⟩, halice⟩ := hcheck
  have hrun := run_of_record hrecord
  cases last with
  | finished finished => cases hlast
  | inProgress last =>
    cases hlast
    obtain ⟨dice, hdice⟩ := Option.ne_none_iff_exists'.1 hsome
    obtain ⟨playerId, -, -, -, -, -, hslot, hget, -⟩ :=
      h start state commands (started_of_twoPlayerGame hstart) hrun dice hdice
    rw [hbob, Option.some.injEq] at hslot
    rw [hget, Option.map_some, Option.some.injEq, ← hslot] at halice
    exact absurd (show "bob" = "alice" from halice) (by decide)

end Pootown
