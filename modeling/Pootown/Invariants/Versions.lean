import Mathlib.Tactic
import Pootown.Invariants.CashLedger
import Pootown.Invariants.Reachable
import Pootown.Library.Optimistic

/-!
# One command for each version

* `HandsBack`: what every transition does with the state of a command it refuses, one lemma for each
  of the seven; `transitionGameplay_handsBack`;
* `gameplayAttempts`: players and timers submitting commands to a shared state;
* `one_command_per_version`, and a race for one version.
-/

namespace Pootown

open Fallible Slots

/-- The rejection hands `state` back. -/
def HandsBack (state : ActiveGameplayAggregateState) (rejection : GameplayRejection) : Prop :=
  rejection.state = .inProgress state

section Rejections

variable {state : ActiveGameplayAggregateState} {current : GameplayPlayerState} {nowMs : ℤ}
  {context : GameplayCommandContext}

theorem HandsBack.reject (code : GameCoreErrorCode) (message : String) (retryable : Bool) :
    HandsBack state (reject state code message retryable) := rfl

/-! ### Turns -/

theorem drawGameplayDice_handsBack (randomSource : RandomSource) :
    RejectsOnly (HandsBack state) (drawGameplayDice state randomSource) :=
  .bind (.requireSome rfl) fun _ => .bind (.requireSome rfl) fun _ =>
    .bind (.requireSome rfl) fun _ => .bind (.require rfl) fun _ => .pure _

theorem transitionEndTurn_handsBack : RejectsOnly (HandsBack state) (transitionEndTurn state nowMs) :=
  .bind (.require rfl) fun _ => .bind (.require rfl) fun _ => .bind (.require rfl) fun _ =>
    .bind (.requireSome rfl) fun _ => .pure _

theorem transitionJailedRoll_handsBack (dice : DiceRoll) (rng : RandomCheckpoint) :
    RejectsOnly (HandsBack state) (transitionJailedRoll state current dice rng nowMs) := by
  unfold transitionJailedRoll
  dsimp only
  split
  · exact .error rfl
  · split
    · exact .bind (.requireSome rfl) fun _ => .pure _
    · exact .bind (.requireSome rfl) fun _ => .pure _
    · exact .bind (.requireSome rfl) fun _ => .bind (.requireSome rfl) fun _ =>
        .bind (.requireSome rfl) fun _ => .pure _

theorem transitionFreeRoll_handsBack (dice : DiceRoll) (doubles : DoublesResult)
    (rng : RandomCheckpoint) :
    RejectsOnly (HandsBack state) (transitionFreeRoll state current dice doubles rng nowMs) := by
  unfold transitionFreeRoll
  dsimp only
  split
  · exact .bind (.requireSome rfl) fun _ => .pure _
  · refine .bind (.requireSome rfl) fun movement => .bind (.requireSome rfl) fun _ => ?_
    split
    · exact .bind (.requireSome rfl) fun _ => .pure _
    · exact .bind (.requireSome rfl) fun _ => .pure _

theorem transitionGameplayTurn_handsBack (command : GameplayTurnCommand) (expected : ℤ) :
    RejectsOnly (HandsBack state) (transitionGameplayTurn state command expected context) := by
  refine .bind (checkCommand_rejects _ _ _ _) fun _ => .bind (.requireSome rfl) fun current =>
    .bind (.require rfl) fun _ => ?_
  have hroll : RejectsOnly (HandsBack state) (transitionRoll state current context) := by
    refine .bind (.require rfl) fun _ => .bind (drawGameplayDice_handsBack _) fun _ =>
      .bind (.requireSome rfl) fun _ => ?_
    exact .ite (transitionJailedRoll_handsBack _ _) (transitionFreeRoll_handsBack _ _ _)
  cases command with
  | endTurn => exact transitionEndTurn_handsBack
  | rollDice => exact hroll
  | resolveRandomDice => exact hroll

/-! ### Properties -/

theorem requireBankruptcy_handsBack :
    RejectsOnly (HandsBack state) (requireBankruptcy state current nowMs) :=
  .bind (.requireSome rfl) fun _ => .pure _

theorem checkPropertyDecision_handsBack (position : ℕ) :
    RejectsOnly (HandsBack state) (checkPropertyDecision state position nowMs) :=
  .bind (.require rfl) fun _ => .bind (.requireSome rfl) fun _ => .bind (.requireSome rfl) fun _ =>
    .bind (.require rfl) fun _ => .bind (.requireSome rfl) fun _ => .pure _

theorem transitionPayRent_handsBack (position : ℕ) :
    RejectsOnly (HandsBack state) (transitionPayRent state current position nowMs) := by
  refine .bind (.require rfl) fun _ => .bind (.requireSome rfl) fun _ =>
    .bind (.requireSome rfl) fun owner => .bind (.require rfl) fun _ =>
    .bind (.requireSome rfl) fun amount => .bind (.requireSome rfl) fun _ => ?_
  split
  · exact requireBankruptcy_handsBack
  · exact .bind (.requireSome rfl) fun _ => .pure _

theorem transitionPayTax_handsBack (taxKind : TaxKind) :
    RejectsOnly (HandsBack state) (transitionPayTax state current taxKind nowMs) := by
  refine .bind (.require rfl) fun _ => .bind (.require rfl) fun _ => ?_
  split
  · exact .bind (.require rfl) fun _ => requireBankruptcy_handsBack
  · exact .bind (.requireSome rfl) fun _ => .pure _

theorem transitionBuilding_handsBack (action : BuildingAction) (position : ℕ) :
    RejectsOnly (HandsBack state) (transitionBuilding state current action position nowMs) := by
  refine .bind (.requireSome rfl) fun _ => ?_
  split
  next code _ => exact .error (by cases code <;> rfl)
  · exact .bind (.requireSome rfl) fun _ => .pure _

theorem transitionGameplayProperty_handsBack (command : GameplayPropertyCommand) (expected : ℤ) :
    RejectsOnly (HandsBack state) (transitionGameplayProperty state command expected context) := by
  refine .bind (checkCommand_rejects _ _ _ _) fun _ => .bind (.requireSome rfl) fun current =>
    .bind (.require rfl) fun _ => .bind (.require rfl) fun _ => ?_
  cases command with
  | declineProperty position =>
    exact .bind (checkPropertyDecision_handsBack _) fun _ => .pure _
  | buyProperty position =>
    exact .bind (checkPropertyDecision_handsBack _) fun _ => .bind (.requireSome rfl) fun _ =>
      .pure _
  | payRent position => exact transitionPayRent_handsBack _
  | payMevTax => exact transitionPayTax_handsBack _
  | payPriorityFeeTax => exact transitionPayTax_handsBack _
  | buildHouse position => exact transitionBuilding_handsBack _ _
  | buildHotel position => exact transitionBuilding_handsBack _ _
  | sellBuilding position buildingType => exact transitionBuilding_handsBack _ _

/-! ### Jail and cards -/

theorem transitionGameplayJail_handsBack (command : GameplayJailCommand) (expected : ℤ) :
    RejectsOnly (HandsBack state) (transitionGameplayJail state command expected context) := by
  refine .bind (checkCommand_rejects _ _ _ _) fun _ => .bind (.requireSome rfl) fun _ =>
    .bind (.require rfl) fun _ => .bind (.require rfl) fun _ => ?_
  dsimp only
  split
  · exact .error rfl
  · exact .ite (.bind (.requireSome rfl) fun _ => .pure _)
      (.bind (.require rfl) fun _ => .bind (.requireSome rfl) fun _ =>
        .bind (.requireSome rfl) fun _ => .pure _)

theorem drawGameplayCard_handsBack (randomSource : RandomSource) :
    RejectsOnly (HandsBack state) (drawGameplayCard state randomSource) :=
  .bind (.requireSome rfl) fun _ => .bind (.requireSome rfl) fun _ =>
    .bind (.requireSome rfl) fun _ => .bind (.require rfl) fun _ => .pure _

theorem transitionGameplayCard_handsBack (command : GameplayCardCommand) (expected : ℤ) :
    RejectsOnly (HandsBack state) (transitionGameplayCard state command expected context) := by
  refine .bind (checkCommand_rejects _ _ _ _) fun _ => .bind (.requireSome rfl) fun current =>
    .bind (.require rfl) fun _ => .bind (.require rfl) fun _ =>
    .bind (drawGameplayCard_handsBack _) fun drawn => ?_
  dsimp only
  split
  · exact .error rfl
  · exact .ite (.bind (.requireSome rfl) fun _ => .pure _) (.bind (.requireSome rfl) fun _ => .pure _)

/-! ### Trades -/

theorem checkTradeResult_handsBack (result : TradeMutationResult) :
    RejectsOnly (HandsBack state) (checkTradeResult state result) := by
  cases result with
  | ok mutation => exact .ok _
  | error code => cases code <;> exact .error rfl

theorem tradeActor_handsBack : RejectsOnly (HandsBack state) (tradeActor state context) := by
  unfold tradeActor
  split
  · exact .error rfl
  · exact .requireSome rfl

theorem transitionSettleTrade_handsBack (tradeId : String) (mutate : ℕ → TradeMutationResult)
    (event : GameplayPlayerState → String × String → PendingTrade → GameplayDomainEvent) :
    RejectsOnly (HandsBack state) (transitionSettleTrade state tradeId mutate event context) :=
  .bind tradeActor_handsBack fun _ => .bind (checkTradeResult_handsBack _) fun _ =>
    .bind (.requireSome rfl) fun _ => .bind (.requireSome rfl) fun _ =>
    .bind (.requireSome rfl) fun _ => .pure _

theorem transitionGameplayTrade_handsBack (command : GameplayTradeCommand) (expected : ℤ) :
    RejectsOnly (HandsBack state) (transitionGameplayTrade state command expected context) := by
  refine .bind (checkCommand_rejects _ _ _ _) fun _ => .bind (.require rfl) fun _ => ?_
  cases command with
  | cleanupExpiredTrades =>
    exact .bind (.require rfl) fun _ => .bind (.requireSome rfl) fun _ =>
      .bind (.require rfl) fun _ => .pure _
  | createTrade receiverId terms =>
    exact .bind tradeActor_handsBack fun _ => .bind (.requireSome rfl) fun _ =>
      .bind (.requireSome rfl) fun _ => .bind (checkTradeResult_handsBack _) fun _ =>
      .bind (.requireSome rfl) fun _ => .bind (.requireSome rfl) fun _ => .pure _
  | acceptTrade tradeId => exact transitionSettleTrade_handsBack _ _ _
  | rejectTrade tradeId => exact transitionSettleTrade_handsBack _ _ _
  | cancelTrade tradeId => exact transitionSettleTrade_handsBack _ _ _

/-! ### Bankruptcies and timers -/

theorem transitionGameplayBankruptcy_handsBack (expected : ℤ) :
    RejectsOnly (HandsBack state) (transitionGameplayBankruptcy state expected context) := by
  refine .bind (checkCommand_rejects _ _ _ _) fun _ => .bind (.requireSome rfl) fun current =>
    .bind (.require rfl) fun _ => .bind (.require rfl) fun _ => ?_
  split
  · exact .error rfl
  · refine .bind (.requireSome rfl) fun players =>
      .ite (.bind (.requireSome rfl) fun _ => .pure _) ?_
    split
    · exact .error rfl
    · exact .bind (.requireSome rfl) fun _ => .bind (.requireSome rfl) fun _ => .pure _

theorem transitionEnforceGameTimeLimit_handsBack :
    RejectsOnly (HandsBack state) (transitionEnforceGameTimeLimit state nowMs) := by
  unfold transitionEnforceGameTimeLimit
  split
  · exact .error rfl
  · exact .bind (.requireSome rfl) fun _ => .pure _

theorem transitionTimeoutWarning_handsBack (seconds : TimeoutWarningSeconds) :
    RejectsOnly (HandsBack state) (transitionTimeoutWarning state current seconds nowMs) := by
  unfold transitionTimeoutWarning
  split
  · exact .error rfl
  · exact .ok _

theorem transitionTimeoutForfeit_handsBack (bankruptcy : BankruptcyResolution)
    (turn : Option TimeoutTurnState) : RejectsOnly (HandsBack state)
      (transitionTimeoutForfeit state current bankruptcy turn nowMs) := by
  refine .bind (.requireSome rfl) fun players =>
    .ite (.bind (.requireSome rfl) fun _ => .bind (.requireSome rfl) fun _ => .pure _) ?_
  split
  · exact .error rfl
  · exact .bind (.requireSome rfl) fun _ => .pure _

theorem transitionTurnTimeout_handsBack :
    RejectsOnly (HandsBack state) (transitionTurnTimeout state current nowMs) := by
  unfold transitionTurnTimeout
  split
  · exact .error rfl
  · exact .bind (.requireSome rfl) fun _ => .bind (.requireSome rfl) fun _ => .pure _
  · exact transitionTimeoutForfeit_handsBack _ _

theorem transitionGameplayTimeout_handsBack (command : GameplayTimeoutCommand) (expected : ℤ) :
    RejectsOnly (HandsBack state) (transitionGameplayTimeout state command expected context) := by
  refine .bind (checkCommand_rejects _ _ _ _) fun _ => .bind (.require rfl) fun _ =>
    .bind (.require rfl) fun _ => .bind (.require rfl) fun _ => ?_
  cases command with
  | enforceGameTimeLimit => exact transitionEnforceGameTimeLimit_handsBack
  | warnTurnThirtySeconds =>
    exact .bind (.requireSome rfl) fun _ => transitionTimeoutWarning_handsBack _
  | warnTurnTenSeconds =>
    exact .bind (.requireSome rfl) fun _ => transitionTimeoutWarning_handsBack _
  | handleTurnTimeout => exact .bind (.requireSome rfl) fun _ => transitionTurnTimeout_handsBack

/-! ### The entry point -/

theorem transitionGameplay_handsBack (s : GameplayAggregateState) (command : GameplayCommand) :
    RejectsOnly (fun rejection => rejection.state = s) (transitionGameplay s command context) := by
  cases s with
  | finished finished =>
    obtain ⟨error, herror⟩ := transitionGameplay_finished finished command context
    rw [herror]
    exact .error rfl
  | inProgress state =>
    refine .bind (.require rfl) fun _ => .bind (.require rfl) fun _ => ?_
    unfold routeGameplay
    split
    · exact (transitionGameplayTurn_handsBack _ _).map _
    · exact (transitionGameplayProperty_handsBack _ _).map _
    · exact (transitionGameplayJail_handsBack _ _).map _
    · exact (transitionGameplayCard_handsBack _ _).map _
    · exact transitionGameplayBankruptcy_handsBack _
    · exact (transitionGameplayTrade_handsBack _ _).map _
    · exact transitionGameplayTimeout_handsBack _ _

end Rejections

/-! ### A shared state -/

/-- What is accepted was made for the version of a valid aggregate in progress, and moves it on. -/
theorem transitionGameplay_version {s s' : GameplayAggregateState} {command : GameplayCommand}
    {context : GameplayCommandContext} {events : List GameplayDomainEvent}
    (h : transitionGameplay s command context = .ok (s', events)) : ∃ state,
      s = .inProgress state ∧ isValidActiveGameplayAggregateState state = true ∧
      command.expectedStateVersion = state.stateVersion ∧
      s'.base.stateVersion = state.stateVersion + 1 ∧ s'.base.stateVersion ≤ maxStateVersion := by
  cases s with
  | finished finished =>
    obtain ⟨error, herror⟩ := transitionGameplay_finished finished command context
    rw [herror] at h
    cases h
  | inProgress state =>
    obtain ⟨hadm, hstep⟩ := transitionGameplay_step h
    have hversion := hstep.version
    have hlt := hadm.version_lt
    exact ⟨state, rfl, isValidActive_iff.2 hadm.valid, hadm.expected_eq, hversion, by omega⟩

/-- A command submitted to a shared state, which takes the state that comes back. -/
def submitGameplay (s : GameplayAggregateState)
    (attempt : GameplayCommand × GameplayCommandContext) : Bool × GameplayAggregateState :=
  match transitionGameplay s attempt.1 attempt.2 with
  | .ok (s', _) => (true, s')
  | .error rejection => (false, rejection.state)

/-- Players and timers submitting commands. -/
def gameplayAttempts :
    Optimistic.System GameplayAggregateState (GameplayCommand × GameplayCommandContext) where
  version s := s.base.stateVersion
  expected attempt := attempt.1.expectedStateVersion
  submit := submitGameplay
  accepted s attempt h := by
    unfold submitGameplay at h ⊢
    split at h
    next s' events hok =>
      obtain ⟨state, rfl, -, hexpected, hversion, -⟩ := transitionGameplay_version hok
      exact ⟨hexpected, hversion⟩
    · cases h
  refused s attempt h := by
    unfold submitGameplay at h ⊢
    split at h
    · cases h
    next rejection hrejected => exact transitionGameplay_handsBack s attempt.1 rejection hrejected

/-- A command is accepted only at the version it names, of a valid game in progress, and moves it on
by one; a rejection hands the state back.  So of any commands, in any order of arrival, those that
are accepted name consecutive versions, each of them once. -/
theorem one_command_per_version :
    (∀ s command context s' events, transitionGameplay s command context = .ok (s', events) →
      ∃ state, s = .inProgress state ∧ isValidActiveGameplayAggregateState state = true ∧
        command.expectedStateVersion = state.stateVersion ∧
        s'.base.stateVersion = state.stateVersion + 1 ∧ s'.base.stateVersion ≤ 2147483647) ∧
    (∀ s command context rejection, transitionGameplay s command context = .error rejection →
      rejection.state = s) ∧
    ∀ s attempts,
      ((gameplayAttempts.acceptedOf s attempts).map fun a => a.1.expectedStateVersion)
        = (List.range (gameplayAttempts.acceptedOf s attempts).length).map
            (fun i : ℕ => s.base.stateVersion + i) ∧
      ((gameplayAttempts.acceptedOf s attempts).map fun a => a.1.expectedStateVersion).Nodup ∧
      (gameplayAttempts.after s attempts).base.stateVersion
        = s.base.stateVersion + (gameplayAttempts.acceptedOf s attempts).length :=
  ⟨fun _ _ _ _ _ h => transitionGameplay_version h,
    fun s command _ rejection h => transitionGameplay_handsBack s command rejection h,
    fun s attempts => ⟨gameplayAttempts.expected_acceptedOf s attempts,
      gameplayAttempts.nodup_expected s attempts, gameplayAttempts.version_after s attempts⟩⟩

/-- Two rolls are tried at version one: the first is accepted, and the other handed back. -/
theorem one_command_per_version_race : ∃ start next events rejection,
    twoPlayerGame [] = some (.inProgress start) ∧
    transitionGameplay (.inProgress start) (rolls 1 2 1 10).1 (rolls 1 2 1 10).2
      = .ok (next, events) ∧ next.base.stateVersion = 2 ∧
    transitionGameplay next (rolls 5 6 1 11).1 (rolls 5 6 1 11).2 = .error rejection ∧
    rejection.state = next ∧
    ((gameplayAttempts.acceptedOf (.inProgress start) [rolls 1 2 1 10, rolls 5 6 1 11]).map
      fun a => a.1.expectedStateVersion) = [1] := by
  obtain ⟨haccepts, hrejects, hattempts⟩ := one_command_per_version
  obtain ⟨start, next, events, hstart, hok, hcheck⟩ := exists_of_acceptedWith (twoPlayerGame [])
    (rolls 1 2 1 10) (fun start next _ => decide (start.stateVersion = 1) &&
      (transitionGameplay next (rolls 5 6 1 11).1 (rolls 5 6 1 11).2).toOption.isNone &&
      decide ((gameplayAttempts.acceptedOf (.inProgress start)
        [rolls 1 2 1 10, rolls 5 6 1 11]).length = 1)) (by decide +kernel)
  simp only [Bool.and_eq_true, decide_eq_true_eq] at hcheck
  obtain ⟨⟨hversion, hnone⟩, hone⟩ := hcheck
  obtain ⟨state, hstate, -, -, hnext, -⟩ := haccepts _ _ _ _ _ hok
  cases hstate
  rw [hversion] at hnext
  cases hlost : transitionGameplay next (rolls 5 6 1 11).1 (rolls 5 6 1 11).2 with
  | ok outcome =>
    rw [hlost] at hnone
    cases hnone
  | error rejection =>
    refine ⟨start, next, events, rejection, hstart, hok, hnext, hlost, hrejects _ _ _ _ hlost, ?_⟩
    rw [(hattempts _ _).1, hone]
    show [start.stateVersion + ((0 : ℕ) : ℤ)] = [1]
    rw [hversion]
    rfl

end Pootown
