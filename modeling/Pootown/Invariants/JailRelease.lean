import Mathlib.Tactic
import Pootown.Invariants.Turns
import Pootown.Transition.Play

/-!
# Leaving jail by doubles

Doubles that open the jail earn no further roll: the landing that follows is clocked as if no
doubles had been rolled.  But the dice are stored, and whatever settles that landing reads them
again, and hands out another roll.

* `WithinTurn`: the accepted commands that leave the turn with its seat;
* `SettlesAgain`: the commands whose continuation is recomputed from stored doubles;
* `awaitsRoll_step`: no other command of the same turn brings the roll back.
-/

namespace Pootown

open Fallible Runs Slots

/-- The current player is to roll. -/
def AwaitsRoll : GameplayAggregateState → Prop
  | .inProgress state => state.turn.phase = .awaitingRoll
  | .finished _ => False

/-- An accepted command after which it is still the turn of the same seat. -/
def WithinTurn (state : GameplayAggregateState) (accepted : AcceptedCommand)
    (state' : GameplayAggregateState) : Prop :=
  Accepts state accepted state' ∧ state'.currentSeat = state.currentSeat

/-- The events release a player from jail by doubles. -/
def releasesByDoubles (events : List GameplayDomainEvent) : Bool :=
  events.any fun event => match event with
    | .jailExited _ .doubles => true
    | _ => false

/-! ### Settling a landing from the stored dice -/

/-- What the current landing asks for is within the means of the current player. -/
def Affordable (state : ActiveGameplayAggregateState) (current : GameplayPlayerState) : Prop :=
  match state.turn.phase with
  | .awaitingPropertyDecision _ => True
  | .awaitingRentPayment position => ∃ roll ∈ state.lastDice, ∃ amount,
      calculateRent state.properties position roll.total = some amount ∧ amount ≤ current.cash
  | .awaitingTaxPayment taxKind => taxKind.amount ≤ current.cash
  | _ => False

/-- Nothing is to be done on `position`: a corner, an own space or a mortgaged one. -/
def NothingDue (properties : List PropertyState) (position seat : ℕ) : Prop :=
  ∃ definition ∈ boardSpaces[position]?, definition.propertyType = .corner ∨
    (isOwnableSpace definition = true ∧ ∃ property ∈ properties[position]?,
      property.ownerSeatIndex ≠ none ∧
      (property.ownerSeatIndex = some seat ∨ property.mortgaged = true))

/-- The card drawn leaves the current player solvent, on a space where nothing is due. -/
def SettledByCard (state : ActiveGameplayAggregateState) (current : GameplayPlayerState)
    (deck : CardDeck) (randomSource : RandomSource) : Prop :=
  ∃ cardId rng resolution, drawGameplayCard state randomSource = .ok (cardId, rng) ∧
    resolveCard deck cardId current.toCard (occupants state.players).length = .ok resolution ∧
    resolution.bankruptcyRequired = false ∧
    (resolution.movement = none ∨
      NothingDue state.properties resolution.state.position state.turn.currentSeatIndex)

/-- The command settles what the landing asks for while the stored dice are doubles. -/
def SettlesAgain (state : ActiveGameplayAggregateState) (body : GameplayCommandBody)
    (randomSource : RandomSource) : Prop :=
  (∃ roll ∈ state.lastDice, roll.isDoubles = true) ∧ ∃ current, IsCurrent state current ∧
    (((∃ command, body = .property command) ∧ Affordable state current) ∨
      ∃ command, body = .card command ∧
        SettledByCard state current (commandDeck command) randomSource)

/-- The steps that do not settle a landing while the stored dice are doubles. -/
def LeavesDoublesAlone (state : GameplayAggregateState) (accepted : AcceptedCommand) : Prop :=
  ∀ active, state = .inProgress active →
    ¬ SettlesAgain active accepted.command.body accepted.context.randomSource

/-! ### One step -/

section Steps

variable {state active : ActiveGameplayAggregateState} {current : GameplayPlayerState}
  {nowMs : ℤ} {events : List GameplayDomainEvent}

theorem settledPhase_eq_awaitingRoll {rolledDoubles : Bool} :
    settledPhase rolledDoubles = .awaitingRoll ↔ rolledDoubles = true := by
  unfold settledPhase
  split_ifs with h <;> simp [h]

/-- A landing leads to another roll only after doubles, and where nothing is due. -/
theorem landingPhase_awaitingRoll {properties : List PropertyState}
    {definition : BoardSpaceDefinition} {position seat : ℕ} {rolledDoubles : Bool}
    (hd : boardSpaces[position]? = some definition)
    (h : landingPhase properties definition position seat (settledPhase rolledDoubles)
      = some .awaitingRoll) : rolledDoubles = true ∧ NothingDue properties position seat := by
  have hownable : isOwnableSpace definition = true →
      ((properties[position]?).map fun property =>
        if property.ownerSeatIndex = none then .awaitingPropertyDecision position
        else if property.ownerSeatIndex ≠ some seat ∧ property.mortgaged = false then
          .awaitingRentPayment position
        else settledPhase rolledDoubles) = some .awaitingRoll →
      rolledDoubles = true ∧ NothingDue properties position seat := by
    intro hown hmap
    obtain ⟨property, hp, hphase⟩ := Option.map_eq_some_iff.1 hmap
    split_ifs at hphase with hnone hrent
    refine ⟨settledPhase_eq_awaitingRoll.1 hphase, definition, hd, .inr ⟨hown, property, hp,
      hnone, ?_⟩⟩
    by_cases howner : property.ownerSeatIndex = some seat
    · exact .inl howner
    · exact .inr (by simpa [howner] using hrent)
  unfold landingPhase at h
  cases htype : definition.propertyType with
  | street => exact hownable (by simp [isOwnableSpace, htype]) (by simpa only [htype] using h)
  | railroad => exact hownable (by simp [isOwnableSpace, htype]) (by simpa only [htype] using h)
  | utility => exact hownable (by simp [isOwnableSpace, htype]) (by simpa only [htype] using h)
  | chance => simp [htype] at h
  | communityChest => simp [htype] at h
  | tax => simp [htype] at h
  | corner =>
    simp only [htype, Option.some.injEq] at h
    exact ⟨settledPhase_eq_awaitingRoll.1 h, definition, hd, .inl htype⟩

/-- A landing clocked without doubles never awaits a roll. -/
theorem landing_without_doubles {position seat : ℕ} {turn : ActiveGameplayAggregateTurn}
    (h : createGameplayLandingTurn state position seat nowMs false = some turn) :
    turn.phase ≠ .awaitingRoll := by
  obtain ⟨definition, phase, hd, -, hphase, rfl⟩ := createGameplayLandingTurn_eq_some h
  rintro rfl
  exact absurd (landingPhase_awaitingRoll hd hphase).1 (by simp)

/-- The roll that releases by doubles keeps the seat and does not await another roll. -/
theorem RollStep.released {dice : DiceRoll} {rng : RandomCheckpoint}
    (h : RollStep state current nowMs dice rng active events)
    (hrelease : releasesByDoubles events = true) :
    active.turn.phase ≠ .awaitingRoll ∧
      active.turn.currentSeatIndex = state.turn.currentSeatIndex := by
  cases h with
  | jailRelease cash method movement turn hin hpay hmove hturn =>
    refine ⟨landing_without_doubles hturn, ?_⟩
    obtain ⟨definition, phase, -, -, -, rfl⟩ := createGameplayLandingTurn_eq_some hturn
    rfl
  | _ => simp [releasesByDoubles] at hrelease

/-- A property command brings the roll back only by settling a landing after doubles. -/
theorem PropertyStep.awaitsRoll (h : PropertyStep state current nowMs active events)
    (hphase : state.turn.phase ≠ .awaitingRoll) (hroll : active.turn.phase = .awaitingRoll) :
    (∃ roll ∈ state.lastDice, roll.isDoubles = true) ∧ Affordable state current := by
  cases h with
  | decline position price lastDice hdecision hdice htime =>
    refine ⟨⟨lastDice, hdice, settledPhase_eq_awaitingRoll.1 hroll⟩, ?_⟩
    simp [Affordable, hdecision]
  | buy position property definition lastDice hdecision hdice htime hp hd howner hown hle =>
    refine ⟨⟨lastDice, hdice, settledPhase_eq_awaitingRoll.1 hroll⟩, ?_⟩
    simp [Affordable, hdecision]
  | bankruptcy _ htime => cases hroll
  | rent position ownerSeat owner amount lastDice hrent hdice htime hslot hactive hne hamount hle
      hmax =>
    refine ⟨⟨lastDice, hdice, settledPhase_eq_awaitingRoll.1 hroll⟩, ?_⟩
    simp only [Affordable, hrent]
    exact ⟨lastDice, hdice, amount, hamount, hle⟩
  | tax taxKind lastDice htax hdice htime hle =>
    refine ⟨⟨lastDice, hdice, settledPhase_eq_awaitingRoll.1 hroll⟩, ?_⟩
    simpa only [Affordable, htax] using hle
  | building action position property result _ htime hresult => exact absurd hroll hphase

/-- A card brings the roll back only by settling a landing after doubles. -/
theorem CardStep.awaitsRoll {deck : CardDeck} {rng : RandomCheckpoint}
    {resolution : CardResolution}
    (h : CardStep state current nowMs deck rng resolution active events)
    (hroll : active.turn.phase = .awaitingRoll) :
    (∃ roll ∈ state.lastDice, roll.isDoubles = true) ∧ resolution.bankruptcyRequired = false ∧
      (resolution.movement = none ∨
        NothingDue state.properties resolution.state.position state.turn.currentSeatIndex) := by
  cases h with
  | bankruptcy _ htime => cases hroll
  | continued turn hsolvent hturn =>
    have hdoubles : state.lastDice.any DiceRoll.isDoubles = true →
        ∃ roll ∈ state.lastDice, roll.isDoubles = true := by
      intro hany
      exact (Option.any_eq_true _ _).1 hany
    unfold continuationTurn at hturn
    dsimp only at hturn
    split_ifs at hturn with hmoved
    · obtain ⟨definition, phase, hd, -, hlanding, rfl⟩ := createGameplayLandingTurn_eq_some hturn
      have hphase : phase = .awaitingRoll := hroll
      subst hphase
      obtain ⟨hany, hdue⟩ := landingPhase_awaitingRoll hd hlanding
      exact ⟨hdoubles hany, hsolvent, .inr hdue⟩
    · obtain ⟨-, -, rfl⟩ := createClockedGameplayTurn_eq_some.1 hturn
      exact ⟨hdoubles (settledPhase_eq_awaitingRoll.1 hroll), hsolvent,
        .inl (by simpa using hmoved)⟩

/-- The next seat to play is another one. -/
theorem PassesTurn.seat_ne {turn : ActiveGameplayAggregateTurn} (h : PassesTurn state nowMs turn) :
    turn.currentSeatIndex ≠ state.turn.currentSeatIndex := by
  obtain ⟨next, -, hne, -, rfl⟩ := h
  exact hne

/-- After the elimination of a seat the turn goes to another one. -/
theorem Eliminated.next_ne {seat next : ℕ} {players : List (Option GameplayPlayerState)}
    {player : GameplayPlayerState} {resolution : BankruptcyResolution}
    (h : Eliminated state seat players player resolution)
    (hnext : nextActiveSeat BankruptcyPlayerState.status resolution.players seat = some next) :
    next ≠ seat := by
  rintro rfl
  obtain ⟨-, p, hp, hactive⟩ := nextActiveSeat_spec hnext
  rw [h.players_eq, slotAt_bankruptcyPlayers, slotAt_updateSlot_self, h.slot] at hp
  cases hp
  cases hactive

/-- Within a turn, a roll comes back only when a landing is settled from stored doubles. -/
theorem GameplayStep.awaitsRoll {body : GameplayCommandBody} {context : GameplayCommandContext}
    (h : GameplayStep state context body (.inProgress active) events)
    (hphase : state.turn.phase ≠ .awaitingRoll)
    (hseat : active.turn.currentSeatIndex = state.turn.currentSeatIndex)
    (hroll : active.turn.phase = .awaitingRoll) :
    SettlesAgain state body context.randomSource := by
  cases h with
  | turn command current _ _ hc hstep =>
    cases hstep with
    | endTurn turn hend hpass => exact absurd hseat hpass.seat_ne
    | roll _ dice rng _ _ hne hawaits hdraw hrolled => exact absurd hawaits hphase
  | property command current _ _ hnone hc hstep =>
    obtain ⟨hdoubles, hafford⟩ := hstep.awaitsRoll hphase hroll
    exact ⟨hdoubles, current, hc, .inl ⟨⟨command, rfl⟩, hafford⟩⟩
  | jail command current _ _ hawaits hc hstep => exact absurd hawaits hphase
  | card command current cardId rng resolution _ _ hdraws hc hdraw hres hstep =>
    obtain ⟨hdoubles, hsolvent, hdue⟩ := hstep.awaitsRoll hroll
    exact ⟨hdoubles, current, hc, .inr ⟨command, rfl, cardId, rng, resolution, hdraw, hres,
      hsolvent, hdue⟩⟩
  | bankruptcy current resolution _ _ _ hc helim hstep =>
    cases hstep with
    | continued turn hend hpass => exact absurd hseat hpass.seat_ne
  | trade command _ _ hnone hstep => cases hstep <;> exact absurd hroll hphase
  | timeout command current _ _ hactor hnone hlimit hc hstep =>
    cases hstep with
    | warning => exact absurd hroll hphase
    | turnAdvanced turn next hdeadline hlt hpass hslot => exact absurd hseat hpass.seat_ne
    | forfeitContinued bankruptcy nextSeat next hdeadline htwo helim hend hnext htime hslot =>
      exact absurd hseat (helim.next_ne hnext)

end Steps

/-- The step lemma: such a command of the same turn leaves the roll away. -/
theorem awaitsRoll_step (state : GameplayAggregateState) (accepted : AcceptedCommand)
    (state' : GameplayAggregateState) (hnot : ¬ AwaitsRoll state)
    (h : Guarded LeavesDoublesAlone WithinTurn state accepted state') : ¬ AwaitsRoll state' := by
  obtain ⟨⟨haccepts, hseat⟩, hguard⟩ := h
  intro hroll
  cases state with
  | finished finished => exact (not_accepts_finished _ _ _ haccepts).elim
  | inProgress before =>
    cases state' with
    | finished finished => exact hroll
    | inProgress active =>
      obtain ⟨-, hstep⟩ := transitionGameplay_step haccepts
      exact hguard before rfl (hstep.awaitsRoll hnot (Option.some.inj hseat) hroll)

/-- After a release by doubles the roll does not come back within the turn, along every run of
commands that do not settle a landing from stored doubles. -/
theorem no_roll_after_jail_doubles (start : GameplayAggregateState) (release : AcceptedCommand)
    (s₁ : GameplayAggregateState) (commands : List AcceptedCommand) (s' : GameplayAggregateState)
    (hrelease : Accepts start release s₁) (hdice : ∃ command, release.command.body = .turn command)
    (hdoubles : releasesByDoubles release.events = true)
    (hrun : Run (Guarded LeavesDoublesAlone WithinTurn) s₁ commands s') : ¬ AwaitsRoll s' := by
  refine hrun.invariant (I := fun state => ¬ AwaitsRoll state) awaitsRoll_step ?_
  obtain ⟨command, hbody⟩ := hdice
  obtain ⟨_, context, events⟩ := release
  cases start with
  | finished finished => exact (not_accepts_finished _ _ _ hrelease).elim
  | inProgress before =>
    obtain ⟨-, hstep⟩ := transitionGameplay_step hrelease
    dsimp only at hbody hdoubles hstep
    rw [hbody] at hstep
    cases hstep with
    | turn _ current active _ hc hstep =>
      cases hstep with
      | endTurn => simp [releasesByDoubles] at hdoubles
      | roll _ dice rng _ _ hne hphase hdraw hroll => exact (hroll.released hdoubles).1

/-- Alice is in jail, back at the start of her turn. -/
def aliceInJail : Option GameplayAggregateState :=
  twoPlayerGame [rolls 2 2 1 10, plays "alice" (.property .payMevTax) 2 20, rolls 3 3 3 30,
    rolls 1 1 4 40, rolls 1 2 5 50, plays "bob" (.property (.declineProperty 3)) 6 60,
    plays "bob" (.turn .endTurn) 7 70]

/-- She leaves jail by double ones, which take her to space 12; then `input` keeps her turn going,
and what it leads to passes `check`. -/
def releasedThen (input : GameplayCommand × GameplayCommandContext)
    (check : GameplayAggregateState → Bool) : Bool :=
  acceptedWith aliceInJail (rolls 1 1 8 80) fun _ released events =>
    releasesByDoubles events &&
      match transitionGameplay released input.1 input.2 with
      | .ok (state', _) => decide (state'.currentSeat = released.currentSeat) && check state'
      | .error _ => false

theorem exists_of_releasedThen (input : GameplayCommand × GameplayCommandContext)
    (check : GameplayAggregateState → Bool) (h : releasedThen input check = true) :
    ∃ start release released accepted state', aliceInJail = some start ∧
      Accepts start release released ∧ (∃ command, release.command.body = .turn command) ∧
      releasesByDoubles release.events = true ∧ accepted.command = input.1 ∧
      WithinTurn released accepted state' ∧ check state' = true := by
  obtain ⟨state, released, events, hstart, hok, hcheck⟩ :=
    exists_of_acceptedWith aliceInJail (rolls 1 1 8 80) _ h
  simp only [Bool.and_eq_true] at hcheck
  obtain ⟨hdoubles, hcheck⟩ := hcheck
  split at hcheck
  next state' events' hok' =>
    simp only [Bool.and_eq_true, decide_eq_true_eq] at hcheck
    exact ⟨.inProgress state, ⟨_, _, events⟩, released, ⟨input.1, input.2, events'⟩, state', hstart,
      hok, ⟨.resolveRandomDice, rfl⟩, hdoubles, rfl, ⟨hok', hcheck.1⟩, hcheck.2⟩
  · cases hcheck

/-- A warning after the release leaves the roll away. -/
theorem no_roll_after_jail_doubles_warned : ∃ start release s₁ accepted s',
    aliceInJail = some start ∧ Accepts start release s₁ ∧
    releasesByDoubles release.events = true ∧ WithinTurn s₁ accepted s' ∧ ¬ AwaitsRoll s' := by
  obtain ⟨start, release, s₁, accepted, s', hstart, hrelease, hdice, hdoubles, hcommand, hwithin,
    -⟩ := exists_of_releasedThen (timer .warnTurnThirtySeconds 9 60080) (fun _ => true)
      (by decide +kernel)
  refine ⟨start, release, s₁, accepted, s', hstart, hrelease, hdoubles, hwithin,
    no_roll_after_jail_doubles start release s₁ [accepted] s' hrelease hdice hdoubles
      (.cons ⟨hwithin, ?_⟩ (.nil s'))⟩
  rintro active - ⟨-, current, -, ⟨⟨command, hbody⟩, -⟩ | ⟨command, hbody, -⟩⟩ <;>
    simp [hcommand, timer] at hbody

/-- Declining the space she landed on gives Alice another roll. -/
theorem not_no_roll_after_jail_doubles : ¬ ∀ (start : GameplayAggregateState)
    (release : AcceptedCommand) (s₁ : GameplayAggregateState) (commands : List AcceptedCommand)
    (s' : GameplayAggregateState), ReachableGame start → Accepts start release s₁ →
    (∃ command, release.command.body = .turn command) →
    releasesByDoubles release.events = true → Run WithinTurn s₁ commands s' →
    ¬ AwaitsRoll s' := by
  intro h
  obtain ⟨start, release, s₁, accepted, s', hstart, hrelease, hdice, hdoubles, -, hwithin,
    hcheck⟩ := exists_of_releasedThen (plays "alice" (.property (.declineProperty 12)) 9 90)
      (fun state => match state with
        | .inProgress state => decide (state.turn.phase = .awaitingRoll)
        | .finished _ => false) (by decide +kernel)
  refine h start release s₁ [accepted] s' (reachable_of_twoPlayerGame hstart) hrelease hdice
    hdoubles (.cons hwithin (.nil s')) ?_
  cases s' with
  | inProgress state =>
    simp only [decide_eq_true_eq] at hcheck
    exact hcheck
  | finished finished => cases hcheck

end Pootown
