import Mathlib.Tactic
import Pootown.Transition.Card
import Pootown.Transition.Jail
import Pootown.Transition.Property
import Pootown.Transition.Timeout
import Pootown.Transition.Trade

/-!
# The entry point

`transitionGameplay` routes every command to its transition.

* `GameplayStep`: the accepted outcomes of all commands, and `transitionGameplay_step`;
* `transitionGameplay_finished`: a finished game accepts nothing, and is handed back.
-/

namespace Pootown

open Fallible Slots

def validContext (context : GameplayCommandContext) : Bool :=
  decide (IsSafeInteger context.nowMs ∧ 0 ≤ context.nowMs) &&
  match context.actor with
  | .internal => true
  | .player playerId => validOpaqueId playerId

/-- A transition that stays in progress, as one of the aggregate. -/
def keepsPlaying (result : GameplayTransitionResult) : GameplayAggregateTransitionResult :=
  result.map fun (state, events) => (.inProgress state, events)

/-- The routing of a well-formed command on a valid aggregate in progress. -/
def routeGameplay (active : ActiveGameplayAggregateState) (command : GameplayCommand)
    (context : GameplayCommandContext) : GameplayAggregateTransitionResult :=
  match command.body with
  | .turn body =>
    keepsPlaying (transitionGameplayTurn active body command.expectedStateVersion context)
  | .property body =>
    keepsPlaying (transitionGameplayProperty active body command.expectedStateVersion context)
  | .jail body =>
    keepsPlaying (transitionGameplayJail active body command.expectedStateVersion context)
  | .card body =>
    keepsPlaying (transitionGameplayCard active body command.expectedStateVersion context)
  | .declareBankruptcy =>
    transitionGameplayBankruptcy active command.expectedStateVersion context
  | .trade body =>
    keepsPlaying (transitionGameplayTrade active body command.expectedStateVersion context)
  | .timeout body =>
    transitionGameplayTimeout active body command.expectedStateVersion context

def transitionGameplay (state : GameplayAggregateState) (command : GameplayCommand)
    (context : GameplayCommandContext) : GameplayAggregateTransitionResult :=
  match state with
  | .finished finished =>
    if isValidFinishedGameplayAggregateState finished then
      .error ⟨state, .invalidPhase, "finished games cannot accept commands", false⟩
    else .error ⟨state, .invalidState, "gameplay aggregate is invalid", false⟩
  | .inProgress active => do
    require (isValidActiveGameplayAggregateState active = true)
      (reject active .invalidState "gameplay aggregate is invalid")
    require (validContext context = true)
      (reject active .invalidCommand "gameplay command context is invalid")
    routeGameplay active command context

/-! ### Accepted outcomes -/

/-- The accepted outcomes of a command in `context`. -/
inductive GameplayStep (state : ActiveGameplayAggregateState)
    (context : GameplayCommandContext) : GameplayCommandBody → GameplayAggregateState →
    List GameplayDomainEvent → Prop
  | turn (command : GameplayTurnCommand) (current : GameplayPlayerState)
      (state' : ActiveGameplayAggregateState) (events : List GameplayDomainEvent) :
      IsCurrent state current →
      TurnStep state current context.nowMs context.randomSource command state' events →
      GameplayStep state context (.turn command) (.inProgress state') events
  | property (command : GameplayPropertyCommand) (current : GameplayPlayerState)
      (state' : ActiveGameplayAggregateState) (events : List GameplayDomainEvent) :
      state.bankruptcyRequiredSeatIndex = none → IsCurrent state current →
      PropertyStep state current context.nowMs state' events →
      GameplayStep state context (.property command) (.inProgress state') events
  | jail (command : GameplayJailCommand) (current : GameplayPlayerState)
      (state' : ActiveGameplayAggregateState) (events : List GameplayDomainEvent) :
      state.turn.phase = .awaitingRoll → IsCurrent state current →
      JailStep state current context.nowMs state' events →
      GameplayStep state context (.jail command) (.inProgress state') events
  | card (command : GameplayCardCommand) (current : GameplayPlayerState) (cardId : ℕ)
      (rng : RandomCheckpoint) (resolution : CardResolution)
      (state' : ActiveGameplayAggregateState) (events : List GameplayDomainEvent) :
      state.turn.phase = .awaitingCardDraw (commandDeck command) → IsCurrent state current →
      drawGameplayCard state context.randomSource = .ok (cardId, rng) →
      resolveCard (commandDeck command) cardId current.toCard (occupants state.players).length
        = .ok resolution →
      CardStep state current context.nowMs (commandDeck command) rng resolution state' events →
      GameplayStep state context (.card command) (.inProgress state') events
  | bankruptcy (current : GameplayPlayerState) (resolution : BankruptcyResolution)
      (state' : GameplayAggregateState) (events : List GameplayDomainEvent) :
      state.turn.phase = .awaitingBankruptcy → IsCurrent state current →
      Eliminated state state.turn.currentSeatIndex state.players current resolution →
      BankruptcyStep state current context.nowMs resolution state' events →
      GameplayStep state context .declareBankruptcy state' events
  | trade (command : GameplayTradeCommand) (state' : ActiveGameplayAggregateState)
      (events : List GameplayDomainEvent) : state.bankruptcyRequiredSeatIndex = none →
      TradeStep state context.nowMs command state' events →
      GameplayStep state context (.trade command) (.inProgress state') events
  | timeout (command : GameplayTimeoutCommand) (current : GameplayPlayerState)
      (state' : GameplayAggregateState) (events : List GameplayDomainEvent) :
      context.actor = .internal → state.bankruptcyRequiredSeatIndex = none →
      (command ≠ .enforceGameTimeLimit →
        ∀ gameEndAtMs ∈ state.gameEndAtMs, context.nowMs < gameEndAtMs) →
      IsCurrent state current →
      TimeoutStep state current context.nowMs command state' events →
      GameplayStep state context (.timeout command) state' events

theorem keepsPlaying_eq_ok {result : GameplayTransitionResult} {state' : GameplayAggregateState}
    {events : List GameplayDomainEvent} : keepsPlaying result = .ok (state', events) ↔
      ∃ active, result = .ok (active, events) ∧ state' = .inProgress active := by
  cases result with
  | error rejection => simp [keepsPlaying, Except.map]
  | ok accepted =>
    obtain ⟨active, events'⟩ := accepted
    simp only [keepsPlaying, Except.map, Except.ok.injEq, Prod.mk.injEq]
    constructor
    · rintro ⟨rfl, rfl⟩
      exact ⟨active, ⟨rfl, rfl⟩, rfl⟩
    · rintro ⟨_, ⟨rfl, rfl⟩, rfl⟩
      exact ⟨rfl, rfl⟩

/-- An accepted command was admitted, and did one of the listed things. -/
theorem transitionGameplay_step {state : ActiveGameplayAggregateState}
    {state' : GameplayAggregateState} {command : GameplayCommand}
    {context : GameplayCommandContext} {events : List GameplayDomainEvent}
    (h : transitionGameplay (.inProgress state) command context = .ok (state', events)) :
    Admitted state command.expectedStateVersion context.nowMs ∧
      GameplayStep state context command.body state' events := by
  simp only [transitionGameplay, bind_eq_ok, require_eq_ok, exists_const] at h
  obtain ⟨-, -, h⟩ := h
  unfold routeGameplay at h
  split at h
  next body hbody =>
    obtain ⟨active, hturn, rfl⟩ := keepsPlaying_eq_ok.1 h
    obtain ⟨hadm, current, hc, -, hstep⟩ := transitionGameplayTurn_step hturn
    exact ⟨hadm, hbody ▸ .turn body current active events hc hstep⟩
  next body hbody =>
    obtain ⟨active, hproperty, rfl⟩ := keepsPlaying_eq_ok.1 h
    obtain ⟨hadm, hnone, current, hc, hstep⟩ := transitionGameplayProperty_step hproperty
    exact ⟨hadm, hbody ▸ .property body current active events hnone hc hstep⟩
  next body hbody =>
    obtain ⟨active, hjail, rfl⟩ := keepsPlaying_eq_ok.1 h
    obtain ⟨hadm, hphase, current, hc, hstep⟩ := transitionGameplayJail_step hjail
    exact ⟨hadm, hbody ▸ .jail body current active events hphase hc hstep⟩
  next body hbody =>
    obtain ⟨active, hcard, rfl⟩ := keepsPlaying_eq_ok.1 h
    obtain ⟨hadm, hphase, current, cardId, rng, resolution, hc, hdraw, hres, hstep⟩ :=
      transitionGameplayCard_step hcard
    exact ⟨hadm, hbody ▸
      .card body current cardId rng resolution active events hphase hc hdraw hres hstep⟩
  next hbody =>
    obtain ⟨hadm, hphase, current, resolution, hc, -, helim, hstep⟩ :=
      transitionGameplayBankruptcy_step h
    exact ⟨hadm, hbody ▸ .bankruptcy current resolution state' events hphase hc helim hstep⟩
  next body hbody =>
    obtain ⟨active, htrade, rfl⟩ := keepsPlaying_eq_ok.1 h
    obtain ⟨hadm, hnone, hstep⟩ := transitionGameplayTrade_step htrade
    exact ⟨hadm, hbody ▸ .trade body active events hnone hstep⟩
  next body hbody =>
    obtain ⟨hadm, hactor, hnone, hlimit, current, hc, hstep⟩ := transitionGameplayTimeout_step h
    exact ⟨hadm, hbody ▸ .timeout body current state' events hactor hnone hlimit hc hstep⟩

/-! ### Rejections -/

/-- A finished aggregate rejects every command, unchanged. -/
theorem transitionGameplay_finished (finished : FinishedGameplayAggregateState)
    (command : GameplayCommand) (context : GameplayCommandContext) : ∃ error,
      transitionGameplay (.finished finished) command context
        = .error ⟨.finished finished, error⟩ := by
  simp only [transitionGameplay]
  split_ifs
  · exact ⟨_, rfl⟩
  · exact ⟨_, rfl⟩

end Pootown
