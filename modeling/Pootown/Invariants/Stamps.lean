import Mathlib.Tactic
import Pootown.Invariants.TradeBook
import Pootown.Invariants.Turns

/-!
# The times a game records

A command records no time but its own: what a game has stored of the past is not after it.

* `stamps`: the times stored in a game, the players' joining, its start, the start of the turn or
  its end, and the opening of its trades;
* `clock`: the start of the turn, or the end, after an accepted command;
* `StampedBy`: no stored time is later than a given one, and what an accepted command does to it.
-/

namespace Pootown

open Slots

/-- The start of the turn, or the end of the game. -/
def GameplayAggregateState.clock : GameplayAggregateState → ℤ
  | .inProgress state => state.turn.startedAtMs
  | .finished state => state.terminal.endedAtMs

/-- The times of the past that are stored in a game. -/
def GameplayAggregateState.stamps (state : GameplayAggregateState) : List ℤ :=
  state.base.startedAtMs :: state.clock ::
    (occupants state.base.players).map GameplayPlayerState.joinedAtMs ++
    state.base.activeTrades.map PendingTrade.createdAtMs

def StampedBy (bound : ℤ) (state : GameplayAggregateState) : Prop :=
  ∀ stamp ∈ state.stamps, stamp ≤ bound

/-! ### The clock after a command -/

section Steps

variable {state active : ActiveGameplayAggregateState} {current : GameplayPlayerState} {nowMs : ℤ}
  {events : List GameplayDomainEvent}

theorem PassesTurn.startedAtMs {turn : ActiveGameplayAggregateTurn}
    (h : PassesTurn state nowMs turn) : turn.startedAtMs = nowMs := by
  obtain ⟨_, -, -, -, rfl⟩ := h
  rfl

theorem createGameplayLandingTurn_startedAtMs {position seat : ℕ} {rolledDoubles : Bool}
    {turn : ActiveGameplayAggregateTurn}
    (h : createGameplayLandingTurn state position seat nowMs rolledDoubles = some turn) :
    turn.startedAtMs = nowMs := by
  obtain ⟨_, _, -, -, -, rfl⟩ := createGameplayLandingTurn_eq_some h
  rfl

theorem RollStep.startedAtMs {dice : DiceRoll} {rng : RandomCheckpoint}
    (h : RollStep state current nowMs dice rng active events) :
    active.turn.startedAtMs = nowMs := by
  cases h with
  | jailRemains turn _ _ _ hpass => exact hpass.startedAtMs
  | jailBankruptcy => rfl
  | jailRelease cash method movement turn _ _ _ hturn =>
    exact createGameplayLandingTurn_startedAtMs hturn
  | threeDoubles turn _ _ _ hpass => exact hpass.startedAtMs
  | goToJail cash movement turn _ _ _ _ hpass => exact hpass.startedAtMs
  | moved cash movement doubles turn _ _ _ _ _ hturn =>
    exact createGameplayLandingTurn_startedAtMs hturn

theorem TurnStep.startedAtMs {randomSource : RandomSource} {command : GameplayTurnCommand}
    (h : TurnStep state current nowMs randomSource command active events) :
    active.turn.startedAtMs = nowMs := by
  cases h with
  | endTurn turn _ hpass => exact hpass.startedAtMs
  | roll _ dice rng _ _ _ _ _ hroll => exact hroll.startedAtMs

theorem PropertyStep.startedAtMs (h : PropertyStep state current nowMs active events) :
    active.turn.startedAtMs = nowMs := by
  cases h <;> rfl

theorem JailStep.startedAtMs (h : JailStep state current nowMs active events) :
    active.turn.startedAtMs = nowMs := by
  cases h with
  | bankruptcy => rfl
  | released cash cards method turn _ _ hpass => exact hpass.startedAtMs

theorem CardStep.startedAtMs {deck : CardDeck} {rng : RandomCheckpoint}
    {resolution : CardResolution}
    (h : CardStep state current nowMs deck rng resolution active events) :
    active.turn.startedAtMs = nowMs := by
  cases h with
  | bankruptcy => rfl
  | continued turn _ hturn =>
    unfold continuationTurn at hturn
    split_ifs at hturn
    · exact createGameplayLandingTurn_startedAtMs hturn
    · obtain ⟨-, -, rfl⟩ := createClockedGameplayTurn_eq_some.1 hturn
      rfl

theorem endedAtMs_of_derived {players : List (Option TerminalPlayerState)}
    {properties : List PropertyState} {reason : TerminalEndReason} {terminal : TerminalOutcome}
    (h : deriveRankedTerminalOutcome players properties reason nowMs = .ok terminal) :
    terminal.endedAtMs = nowMs := by
  obtain ⟨-, -, -, ranked, -, rfl⟩ := deriveRankedTerminalOutcome_eq_ok.1 h
  rfl

theorem BankruptcyStep.clock {resolution : BankruptcyResolution} {state' : GameplayAggregateState}
    (h : BankruptcyStep state current nowMs resolution state' events) : state'.clock = nowMs := by
  cases h with
  | continued turn _ hpass => exact hpass.startedAtMs
  | finished terminal winner ranking _ hterminal => exact endedAtMs_of_derived hterminal

/-- A warning is the one timer that leaves the turn as it started. -/
theorem TimeoutStep.clock {command : GameplayTimeoutCommand} {state' : GameplayAggregateState}
    (h : TimeoutStep state current nowMs command state' events) :
    state'.clock = nowMs ∨ state'.clock = state.turn.startedAtMs := by
  cases h with
  | timeLimit gameEndAtMs terminal winner ranking _ _ hterminal =>
    exact .inl (endedAtMs_of_derived hterminal)
  | warning _ seconds turn _ hwarning =>
    obtain ⟨-, -, -, -, -, -, -, rfl⟩ := emitTimeoutWarning_eq_ok.1 hwarning
    exact .inr rfl
  | turnAdvanced turn next _ _ hpass => exact .inl hpass.startedAtMs
  | forfeitContinued => exact .inl rfl
  | forfeitFinished bankruptcy terminal winner ranking _ _ _ _ hterminal =>
    exact .inl (endedAtMs_of_derived hterminal)

/-- The clock after a command is the command's time, or is left alone. -/
theorem GameplayStep.clock {context : GameplayCommandContext} {body : GameplayCommandBody}
    {state' : GameplayAggregateState} (h : GameplayStep state context body state' events) :
    state'.clock = context.nowMs ∨ state'.clock = state.turn.startedAtMs := by
  cases h with
  | turn command current active _ _ hstep => exact .inl hstep.startedAtMs
  | property command current active _ _ _ hstep => exact .inl hstep.startedAtMs
  | jail command current active _ _ _ hstep => exact .inl hstep.startedAtMs
  | card command current cardId rng resolution active _ _ _ _ _ hstep => exact .inl hstep.startedAtMs
  | bankruptcy current resolution _ _ _ _ _ hstep => exact .inl hstep.clock
  | trade command active _ _ hstep => exact .inr (by cases hstep <;> rfl)
  | timeout command current _ _ _ _ _ _ hstep => exact hstep.clock

/-- A trade of the book after a command was there before, or is opened by it. -/
theorem BookAfter.mem {state' : GameplayAggregateState} {trade : PendingTrade}
    (h : BookAfter state nowMs state' events) (htrade : trade ∈ state'.base.activeTrades) :
    trade ∈ state.activeTrades ∨ trade.createdAtMs = nowMs := by
  cases h with
  | traded active _ hbook =>
    change trade ∈ active.activeTrades at htrade
    generalize active.activeTrades = trades at hbook htrade
    cases hbook with
    | cleaned => exact .inl (List.mem_of_mem_filter htrade)
    | opened other event _ _ hcreated =>
      rcases List.mem_append.1 htrade with hold | hnew
      · exact .inl (List.mem_of_mem_filter hold)
      · rw [List.mem_singleton.1 hnew]
        exact .inr hcreated
    | closed other event =>
      exact .inl (List.mem_of_mem_filter (List.mem_of_mem_filter htrade))
  | kept active _ hsame =>
    change trade ∈ active.activeTrades at htrade
    exact .inl (hsame ▸ htrade)
  | eliminated active _ hsame =>
    change trade ∈ active.activeTrades at htrade
    rw [hsame] at htrade
    exact .inl (List.mem_of_mem_filter htrade)
  | finished finished _ hnone =>
    change trade ∈ finished.activeTrades at htrade
    rw [hnone] at htrade
    cases htrade

end Steps

/-! ### Stored times -/

/-- The validator keeps the joining of the players before the start, and the start before the
clock. -/
theorem stampedBy_iff {bound : ℤ} {state : GameplayAggregateState}
    (hvalid : isValidGameplayAggregateState state = true) : StampedBy bound state ↔
      state.clock ≤ bound ∧ ∀ trade ∈ state.base.activeTrades, trade.createdAtMs ≤ bound := by
  have hstart : state.base.startedAtMs ≤ state.clock ∧
      ∀ player ∈ occupants state.base.players, player.joinedAtMs ≤ state.base.startedAtMs := by
    have hjoined : ∀ {base : GameplayAggregateStateBase},
        ValidTable base.players base.properties base.inventory base.bankCash base.startedAtMs →
        ∀ player ∈ occupants base.players, player.joinedAtMs ≤ base.startedAtMs := by
      intro base htable player hplayer
      obtain ⟨index, hslot⟩ := mem_occupants.1 hplayer
      exact (htable.player index player hslot).slot.2.2.2.2
    cases state with
    | inProgress active =>
      have hv := isValidActive_iff.1 hvalid
      exact ⟨hv.turn.started_le, hjoined hv.table⟩
    | finished finished =>
      have hv := isValidFinished_iff.1 hvalid
      exact ⟨hv.terminal.2.2.1, hjoined hv.table⟩
  simp only [StampedBy, GameplayAggregateState.stamps, List.cons_append, List.forall_mem_cons,
    List.forall_mem_append, List.forall_mem_map]
  constructor
  · rintro ⟨-, hclock, -, htrades⟩
    exact ⟨hclock, htrades⟩
  · rintro ⟨hclock, htrades⟩
    exact ⟨hstart.1.trans hclock, hclock,
      fun player hplayer => (hstart.2 player hplayer).trans (hstart.1.trans hclock), htrades⟩

/-- After a command, no stored time is later than the command, when none was before it. -/
theorem stampedBy_transitionGameplay {state : ActiveGameplayAggregateState}
    {state' : GameplayAggregateState} {command : GameplayCommand}
    {context : GameplayCommandContext} {events : List GameplayDomainEvent}
    (h : transitionGameplay (.inProgress state) command context = .ok (state', events))
    (hvalid : isValidGameplayAggregateState state' = true)
    (hstamped : StampedBy context.nowMs (.inProgress state)) :
    StampedBy context.nowMs state' := by
  have hclock : state.turn.startedAtMs ≤ context.nowMs :=
    hstamped _ (by simp [GameplayAggregateState.stamps, GameplayAggregateState.clock])
  refine (stampedBy_iff hvalid).2 ⟨?_, fun trade htrade => ?_⟩
  · rcases (transitionGameplay_step h).2.clock with hnow | hold
    · exact hnow.le
    · exact hold.trans_le hclock
  · rcases (transitionGameplay_book h).mem htrade with hold | hnew
    · refine hstamped _ (List.mem_append_right _ ?_)
      exact List.mem_map.2 ⟨trade, hold, rfl⟩
    · exact hnew.le

end Pootown
