import Mathlib.Tactic
import Pootown.Invariants.Reachable

/-!
# Streaks of doubles

A seat counts its doubles only while it plays.  Every way a turn passes clears the count of the
seat it leaves, but one: a turn timeout that does not forfeit.

* `StreaksCleared`: no seat but the current one counts doubles;
* `KeepsStreak`: the timeouts that carry a count out of its turn;
* `streaksCleared_step`: every other command keeps the other counts at zero.
-/

namespace Pootown

open Fallible Runs Slots

/-- No seat but the current one counts doubles. -/
def StreaksCleared (state : ActiveGameplayAggregateState) : Prop :=
  ∀ i p, i ≠ state.turn.currentSeatIndex → slotAt state.players i = some p →
    p.consecutiveDoubles = 0

/-- A turn timeout of a current player who counts doubles and does not forfeit by it. -/
def KeepsStreak (state : ActiveGameplayAggregateState) (body : GameplayCommandBody) : Prop :=
  body = .timeout .handleTurnTimeout ∧ ∃ current, IsCurrent state current ∧
    current.consecutiveDoubles ≠ 0 ∧ current.missedTurns ≠ 2

/-- The steps that do not carry a count out of its turn. -/
def ClearsStreak (state : GameplayAggregateState) (accepted : AcceptedCommand) : Prop :=
  ∀ active, state = .inProgress active → ¬ KeepsStreak active accepted.command.body

/-! ### One step -/

section Steps

variable {state active : ActiveGameplayAggregateState} {current : GameplayPlayerState}
  {nowMs : ℤ} {events : List GameplayDomainEvent}

/-- While the seat stays, it is enough to leave the other counts alone. -/
theorem StreaksCleared.stay {f : ℕ → GameplayPlayerState → GameplayPlayerState}
    (h : StreaksCleared state) (hplayers : active.players = mapSlots f state.players)
    (hseat : active.turn.currentSeatIndex = state.turn.currentSeatIndex)
    (hf : ∀ i p, i ≠ state.turn.currentSeatIndex →
      (f i p).consecutiveDoubles = p.consecutiveDoubles) : StreaksCleared active := by
  intro i p hi hslot
  rw [hseat] at hi
  rw [hplayers, slotAt_mapSlots] at hslot
  obtain ⟨q, hq, rfl⟩ := Option.map_eq_some_iff.1 hslot
  rw [hf i q hi]
  exact h i q hi hq

/-- When the turn passes, the seat it leaves must have its count cleared. -/
theorem StreaksCleared.pass {f : GameplayPlayerState → GameplayPlayerState}
    (h : StreaksCleared state) (hc : IsCurrent state current)
    (hplayers : active.players = updateSlot state.turn.currentSeatIndex f state.players)
    (hf : (f current).consecutiveDoubles = 0) : StreaksCleared active := by
  intro i p _ hslot
  rw [hplayers, slotAt_updateSlot] at hslot
  split_ifs at hslot with hi
  · subst hi
    rw [hc.1] at hslot
    cases hslot
    exact hf
  · exact h i p hi hslot

theorem updateSlot_other {f : GameplayPlayerState → GameplayPlayerState} (i : ℕ)
    (p : GameplayPlayerState) (hi : i ≠ state.turn.currentSeatIndex) :
    (if i = state.turn.currentSeatIndex then f p else p).consecutiveDoubles
      = p.consecutiveDoubles := by
  rw [if_neg hi]

theorem landing_seat {position : ℕ} {rolledDoubles : Bool} {turn : ActiveGameplayAggregateTurn}
    (h : createGameplayLandingTurn state position state.turn.currentSeatIndex nowMs rolledDoubles
      = some turn) : turn.currentSeatIndex = state.turn.currentSeatIndex := by
  obtain ⟨definition, phase, -, -, -, rfl⟩ := createGameplayLandingTurn_eq_some h
  rfl

theorem RollStep.streaks {dice : DiceRoll} {rng : RandomCheckpoint}
    (h : RollStep state current nowMs dice rng active events) (hs : StreaksCleared state)
    (hv : ValidActive state) (hc : IsCurrent state current) : StreaksCleared active := by
  cases h with
  | jailRemains turn hin hno hlt hpass =>
    -- a jailed player counts no doubles
    refine hs.pass hc rfl ?_
    have hjail := (hc.rules hv).jail
    simp only [JailCoupled, hin, if_true] at hjail
    exact hjail.2.2
  | jailBankruptcy hin hno hge hcash htime => exact hs.stay rfl rfl updateSlot_other
  | jailRelease cash method movement turn hin hpay hmove hturn =>
    exact hs.stay rfl (landing_seat hturn) updateSlot_other
  | threeDoubles turn hin htwo hdoubles hpass => exact hs.pass hc rfl rfl
  | goToJail cash movement turn hin hmove hcash hle hpass => exact hs.pass hc rfl rfl
  | moved cash movement doubles turn hin hdoubles hmove hcash hle hturn =>
    exact hs.stay rfl (landing_seat hturn) updateSlot_other

theorem PropertyStep.streaks (h : PropertyStep state current nowMs active events)
    (hs : StreaksCleared state) : StreaksCleared active := by
  cases h with
  | decline | bankruptcy => exact hs
  | buy | tax | building => exact hs.stay rfl rfl updateSlot_other
  | rent =>
    refine hs.stay rfl rfl fun i p hi => ?_
    rw [if_neg hi]
    split_ifs <;> rfl

theorem CardStep.streaks {deck : CardDeck} {rng : RandomCheckpoint} {resolution : CardResolution}
    (h : CardStep state current nowMs deck rng resolution active events)
    (hs : StreaksCleared state) : StreaksCleared active := by
  cases h with
  | bankruptcy _ htime => exact hs.stay rfl rfl updateSlot_other
  | continued turn _ hturn =>
    refine hs.stay rfl ?_ updateSlot_other
    unfold continuationTurn at hturn
    dsimp only at hturn
    split_ifs at hturn
    · exact landing_seat hturn
    · obtain ⟨-, -, rfl⟩ := createClockedGameplayTurn_eq_some.1 hturn
      rfl

theorem TradeStep.streaks {command : GameplayTradeCommand}
    (h : TradeStep state nowMs command active events) (hs : StreaksCleared state) :
    StreaksCleared active := by
  cases h with
  | accepted => exact hs.stay rfl rfl fun _ _ _ => rfl
  | cleanup | created | rejected | cancelled => exact hs

/-- Every command but such a timeout keeps the counts of the other seats at zero. -/
theorem GameplayStep.streaks {body : GameplayCommandBody} {context : GameplayCommandContext}
    (h : GameplayStep state context body (.inProgress active) events) (hs : StreaksCleared state)
    (hv : ValidActive state) (hguard : ¬ KeepsStreak state body) : StreaksCleared active := by
  cases h with
  | turn command current _ _ hc hstep =>
    cases hstep with
    | endTurn turn hphase hpass => exact hs.pass hc rfl rfl
    | roll _ dice rng _ _ hne hphase hdraw hroll => exact hroll.streaks hs hv hc
  | property command current _ _ hnone hc hstep => exact hstep.streaks hs
  | jail command current _ _ hphase hc hstep =>
    cases hstep with
    | bankruptcy => exact hs
    | released cash cards method turn hin hpay hpass => exact hs.pass hc rfl rfl
  | card command current cardId rng resolution _ _ hphase hc hdraw hres hstep =>
    exact hstep.streaks hs
  | bankruptcy current resolution _ _ hphase hc helim hstep =>
    cases hstep with
    | continued turn hend hpass => exact hs.pass hc rfl rfl
  | trade command _ _ hnone hstep => exact hstep.streaks hs
  | timeout command current _ _ hactor hnone hlimit hc hstep =>
    cases hstep with
    | warning _ seconds turn hseconds hemit =>
      obtain ⟨-, -, -, -, -, -, -, rfl⟩ := emitTimeoutWarning_eq_ok.1 hemit
      exact hs
    | turnAdvanced turn next hdeadline hlt hpass hslot =>
      refine hs.pass hc rfl ?_
      by_contra hcount
      exact hguard ⟨rfl, current, hc, hcount, by omega⟩
    | forfeitContinued bankruptcy nextSeat next hdeadline htwo helim hend hseat htime hslot =>
      intro i p hi hslot'
      simp only [afterElimination, afterMissedTurn, slotAt_updateSlot] at hslot'
      split_ifs at hslot' with hcur
      · obtain ⟨q, -, rfl⟩ := Option.map_eq_some_iff.1 hslot'
        rfl
      · exact hs i p hcur hslot'

end Steps

/-- Every game in progress, as an invariant of runs. -/
def AllStreaksCleared (state : GameplayAggregateState) : Prop :=
  ∀ active, state = .inProgress active → StreaksCleared active

theorem streaksCleared_step (state : GameplayAggregateState) (accepted : AcceptedCommand)
    (state' : GameplayAggregateState) (hs : AllStreaksCleared state)
    (h : Guarded ClearsStreak Accepts state accepted state') : AllStreaksCleared state' := by
  obtain ⟨haccepts, hguard⟩ := h
  rintro active rfl
  cases state with
  | finished finished => exact (not_accepts_finished _ _ _ haccepts).elim
  | inProgress before =>
    obtain ⟨hadm, hstep⟩ := transitionGameplay_step haccepts
    exact hstep.streaks (hs before rfl) hadm.valid (hguard before rfl)

/-- Nobody has rolled in a started game. -/
theorem streaksCleared_started {state : GameplayAggregateState} (h : StartedGame state) :
    AllStreaksCleared state := by
  obtain ⟨lobby, first, hinit, rfl⟩ := h
  rintro active ⟨⟩
  intro i p _ hslot
  rw [(initialized_opening hinit).players_eq, slotAt_mapSlots] at hslot
  obtain ⟨seat, -, rfl⟩ := Option.map_eq_some_iff.1 hslot
  rfl

/-- Doubles are counted within one turn, along every run in which no turn timeout carries a count
out of its turn. -/
theorem doubles_within_turn (start : GameplayAggregateState) (commands : List AcceptedCommand)
    (active : ActiveGameplayAggregateState) (hstart : StartedGame start)
    (hrun : Run (Guarded ClearsStreak Accepts) start commands (.inProgress active)) :
    StreaksCleared active :=
  hrun.invariant streaksCleared_step (streaksCleared_started hstart) active rfl

/-- Without turn timeouts no count is carried out of its turn. -/
theorem clearing_of_record {state : GameplayAggregateState}
    {inputs : List (GameplayCommand × GameplayCommandContext)}
    {recorded : List AcceptedCommand × GameplayAggregateState}
    (h : record state inputs = some recorded)
    (hne : ∀ input ∈ inputs, input.1.body ≠ .timeout .handleTurnTimeout) :
    Run (Guarded ClearsStreak Accepts) state recorded.1 recorded.2 :=
  guarded_of_record h fun _ hmem _ _ _ hkeeps => hne _ hmem hkeeps.1

/-- Alice rolls doubles and counts them alone; she decides, rolls again, and ends her turn: bob
begins with none. -/
theorem doubles_within_turn_firstRoll : ∃ start counting active first rest,
    StartedGame (.inProgress start) ∧
    Run (Guarded ClearsStreak Accepts) (.inProgress start) first (.inProgress counting) ∧
    (∃ alice, slotAt counting.players 0 = some alice ∧ alice.consecutiveDoubles = 1) ∧
    Run (Guarded ClearsStreak Accepts) (.inProgress counting) rest (.inProgress active) ∧
    active.turn.currentSeatIndex = 1 ∧ StreaksCleared counting ∧ StreaksCleared active := by
  obtain ⟨start, hstart, hcheck⟩ := exists_of_inProgressWith (twoPlayerGame [])
    (fun start => (record (.inProgress start) [rolls 3 3 1 10]).any fun first =>
      inProgressWith (some first.2) fun counting =>
        ((slotAt counting.players 0).any fun alice => alice.consecutiveDoubles == 1) &&
        (record (.inProgress counting) [plays "alice" (.property (.declineProperty 6)) 2 20,
          rolls 1 3 3 30, plays "alice" (.turn .endTurn) 4 40]).any fun rest =>
            inProgressWith (some rest.2) fun active => active.turn.currentSeatIndex == 1)
    (by decide +kernel)
  obtain ⟨⟨first, _⟩, hfirst, hcheck⟩ := (Option.any_eq_true _ _).1 hcheck
  obtain ⟨counting, heq, hcheck⟩ := exists_of_inProgressWith _ _ hcheck
  obtain rfl := Option.some.inj heq
  obtain ⟨hcount, hcheck⟩ := Bool.and_eq_true_iff.1 hcheck
  obtain ⟨alice, halice, hone⟩ := (Option.any_eq_true _ _).1 hcount
  obtain ⟨⟨rest, _⟩, hrest, hcheck⟩ := (Option.any_eq_true _ _).1 hcheck
  obtain ⟨active, heq, hseat⟩ := exists_of_inProgressWith _ _ hcheck
  obtain rfl := Option.some.inj heq
  have hstarted := started_of_twoPlayerGame hstart
  have hfirstRun := clearing_of_record hfirst (by simp [rolls])
  have hrestRun := clearing_of_record hrest (by simp [rolls, plays])
  exact ⟨start, counting, active, first, rest, hstarted, hfirstRun,
    ⟨alice, halice, beq_iff_eq.1 hone⟩, hrestRun, beq_iff_eq.1 hseat,
    doubles_within_turn _ _ _ hstarted hfirstRun,
    doubles_within_turn _ _ _ hstarted (hfirstRun.append hrestRun)⟩

/-- Alice rolls doubles and lets her turn time out: she counts one double into bob's turn. -/
theorem not_doubles_within_turn : ¬ ∀ active : ActiveGameplayAggregateState,
    ReachableGame (.inProgress active) → StreaksCleared active := by
  intro h
  obtain ⟨active, hplay, hcheck⟩ := exists_of_inProgressWith
    (twoPlayerGame [rolls 1 1 1 10, timer .handleTurnTimeout 2 90010])
    (fun active => decide (active.turn.currentSeatIndex = 1) &&
      (slotAt active.players 0).any fun player => player.consecutiveDoubles == 1)
    (by decide +kernel)
  simp only [Bool.and_eq_true, decide_eq_true_eq, Option.any_eq_true, beq_iff_eq] at hcheck
  obtain ⟨hseat, player, hslot, hcount⟩ := hcheck
  have hzero := h active (reachable_of_twoPlayerGame hplay) 0 player (by simp [hseat]) hslot
  rw [hcount] at hzero
  cases hzero

end Pootown
