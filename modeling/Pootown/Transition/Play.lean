import Mathlib.Tactic
import Pootown.Library.Runs
import Pootown.Transition.Gameplay

/-!
# Play

The game as a transition system: a started game, and the accepted commands that lead on from it.

* `Accepts`, `StartedGame`, `ReachableGame`;
* `playOn`, an executable replay of commands, and `playOn_run`; `record`, the same with the events
  on the way; `gameOf`, the start of a game;
* `twoPlayerLobby`: a started game of two, with short names for the commands played on it.
-/

namespace Pootown

open Runs Slots

/-- An accepted command, with the context it was handled in and the events it emitted. -/
structure AcceptedCommand where
  command : GameplayCommand
  context : GameplayCommandContext
  events : List GameplayDomainEvent

/-- The command of `accepted` leads from `state` to `state'`. -/
def Accepts (state : GameplayAggregateState) (accepted : AcceptedCommand)
    (state' : GameplayAggregateState) : Prop :=
  transitionGameplay state accepted.command accepted.context = .ok (state', accepted.events)

/-- The first aggregate of a game a lobby has started. -/
def StartedGame (state : GameplayAggregateState) : Prop :=
  ∃ lobby active, initializeGameplayAggregate lobby = some active ∧ state = .inProgress active

/-- Some accepted commands lead to `state` from a started game. -/
abbrev ReachableGame (state : GameplayAggregateState) : Prop :=
  Reachable StartedGame Accepts state

/-- A finished game accepts nothing. -/
theorem not_accepts_finished (finished : FinishedGameplayAggregateState)
    (accepted : AcceptedCommand) (state' : GameplayAggregateState) :
    ¬ Accepts (.finished finished) accepted state' := by
  intro h
  obtain ⟨error, hrejected⟩ := transitionGameplay_finished finished accepted.command
    accepted.context
  rw [Accepts, hrejected] at h
  cases h

/-- The seat whose turn it is, in a game in progress. -/
def GameplayAggregateState.currentSeat : GameplayAggregateState → Option ℕ
  | .inProgress state => some state.turn.currentSeatIndex
  | .finished _ => none

/-- The state after one command, none when it is rejected. -/
def nextState (state : GameplayAggregateState)
    (input : GameplayCommand × GameplayCommandContext) : Option GameplayAggregateState :=
  (transitionGameplay state input.1 input.2).toOption.map Prod.fst

/-- The state after all the commands, none when one is rejected. -/
def playOn (state : GameplayAggregateState)
    (inputs : List (GameplayCommand × GameplayCommandContext)) : Option GameplayAggregateState :=
  replay nextState state inputs

theorem nextState_eq_some {state state' : GameplayAggregateState}
    {input : GameplayCommand × GameplayCommandContext} :
    nextState state input = some state' ↔
      ∃ events, Accepts state ⟨input.1, input.2, events⟩ state' := by
  simp only [nextState, Accepts]
  cases transitionGameplay state input.1 input.2 with
  | error rejection => simp [Except.toOption]
  | ok accepted =>
    obtain ⟨state'', events⟩ := accepted
    simp [Except.toOption]

theorem playOn_run {state state' : GameplayAggregateState}
    {inputs : List (GameplayCommand × GameplayCommandContext)}
    (h : playOn state inputs = some state') : ∃ accepted, Run Accepts state accepted state' :=
  run_of_replay (fun _ _ _ hnext =>
    let ⟨events, hstep⟩ := nextState_eq_some.1 hnext
    ⟨⟨_, _, events⟩, hstep⟩) h

/-- What is played from a started game is reachable. -/
theorem reachable_of_playOn {state state' : GameplayAggregateState}
    {inputs : List (GameplayCommand × GameplayCommandContext)} (hstart : StartedGame state)
    (h : playOn state inputs = some state') : ReachableGame state' := by
  obtain ⟨accepted, hrun⟩ := playOn_run h
  exact (Reachable.initial hstart).run hrun

/-- The inputs with the events they cause, and the state they lead to; none when one is
rejected. -/
def record (state : GameplayAggregateState) :
    List (GameplayCommand × GameplayCommandContext) →
      Option (List AcceptedCommand × GameplayAggregateState)
  | [] => some ([], state)
  | input :: rest =>
    (transitionGameplay state input.1 input.2).toOption.bind fun outcome =>
      (record outcome.1 rest).map fun recorded =>
        (⟨input.1, input.2, outcome.2⟩ :: recorded.1, recorded.2)

theorem run_of_record {state : GameplayAggregateState}
    {inputs : List (GameplayCommand × GameplayCommandContext)}
    {recorded : List AcceptedCommand × GameplayAggregateState}
    (h : record state inputs = some recorded) : Run Accepts state recorded.1 recorded.2 := by
  induction inputs generalizing state recorded with
  | nil =>
    cases h
    exact .nil state
  | cons input rest ih =>
    obtain ⟨outcome, hout, hrest⟩ := Option.bind_eq_some_iff.1 h
    obtain ⟨tail, htail, rfl⟩ := Option.map_eq_some_iff.1 hrest
    have hok : transitionGameplay state input.1 input.2 = .ok outcome := by
      cases hresult : transitionGameplay state input.1 input.2 with
      | error rejection => rw [hresult] at hout; cases hout
      | ok result => rw [hresult] at hout; cases hout; rfl
    exact .cons (m := outcome.1) hok (ih htail)

theorem record_inputs {state : GameplayAggregateState}
    {inputs : List (GameplayCommand × GameplayCommandContext)}
    {recorded : List AcceptedCommand × GameplayAggregateState}
    (h : record state inputs = some recorded) :
    recorded.1.map (fun accepted => (accepted.command, accepted.context)) = inputs := by
  induction inputs generalizing state recorded with
  | nil =>
    cases h
    rfl
  | cons input rest ih =>
    obtain ⟨outcome, -, hrest⟩ := Option.bind_eq_some_iff.1 h
    obtain ⟨tail, htail, rfl⟩ := Option.map_eq_some_iff.1 hrest
    rw [List.map_cons, ih htail]

/-- What is recorded of inputs that all meet a condition, whatever the state, is a guarded run. -/
theorem guarded_of_record {state : GameplayAggregateState}
    {inputs : List (GameplayCommand × GameplayCommandContext)}
    {recorded : List AcceptedCommand × GameplayAggregateState}
    {C : GameplayAggregateState → AcceptedCommand → Prop} (h : record state inputs = some recorded)
    (hC : ∀ accepted : AcceptedCommand, (accepted.command, accepted.context) ∈ inputs →
      ∀ s, C s accepted) :
    Run (Guarded C Accepts) state recorded.1 recorded.2 :=
  (run_of_record h).guarded fun accepted hmem =>
    hC accepted (record_inputs h ▸ List.mem_map_of_mem hmem)

/-- Whether `input` is accepted in a game in progress, with an outcome that passes `check`. -/
def acceptedWith (start : Option GameplayAggregateState)
    (input : GameplayCommand × GameplayCommandContext)
    (check : ActiveGameplayAggregateState → GameplayAggregateState → List GameplayDomainEvent →
      Bool) : Bool :=
  match start with
  | some (.inProgress state) =>
    match transitionGameplay (.inProgress state) input.1 input.2 with
    | .ok (state', events) => check state state' events
    | .error _ => false
  | _ => false

theorem exists_of_acceptedWith (start : Option GameplayAggregateState)
    (input : GameplayCommand × GameplayCommandContext)
    (check : ActiveGameplayAggregateState → GameplayAggregateState → List GameplayDomainEvent →
      Bool) (h : acceptedWith start input check = true) :
    ∃ state state' events, start = some (.inProgress state) ∧
      transitionGameplay (.inProgress state) input.1 input.2 = .ok (state', events) ∧
      check state state' events = true := by
  unfold acceptedWith at h
  split at h
  next state =>
    split at h
    next state' events hok => exact ⟨state, state', events, rfl, hok, h⟩
    · cases h
  · cases h

/-- Whether `start` is a game in progress that passes `check`. -/
def inProgressWith (start : Option GameplayAggregateState)
    (check : ActiveGameplayAggregateState → Bool) : Bool :=
  match start with
  | some (.inProgress state) => check state
  | _ => false

theorem exists_of_inProgressWith (start : Option GameplayAggregateState)
    (check : ActiveGameplayAggregateState → Bool) (h : inProgressWith start check = true) :
    ∃ state, start = some (.inProgress state) ∧ check state = true := by
  unfold inProgressWith at h
  split at h
  next state => exact ⟨state, rfl, h⟩
  · cases h

/-- A game that `lobby` has started. -/
def gameOf (lobby : InProgressGameState) : Option GameplayAggregateState :=
  (initializeGameplayAggregate lobby).map .inProgress

theorem reachable_of_gameOf {lobby : InProgressGameState} {state : GameplayAggregateState}
    (h : gameOf lobby = some state) : ReachableGame state := by
  obtain ⟨active, hinit, rfl⟩ := Option.map_eq_some_iff.1 h
  exact .initial ⟨lobby, active, hinit, rfl⟩

/-! ### A game of two -/

/-- Two players around a table of four, an hour to play. -/
def twoPlayerLobby : InProgressGameState where
  stateVersion := 1
  gameId := "game"
  creatorId := "alice"
  minimumPlayers := 2
  maximumPlayers := 4
  seats := [some ⟨0, "alice", .active, 1500, 0, false, 0⟩,
    some ⟨1, "bob", .active, 1500, 0, false, 0⟩, none, none]
  bankCash := 1000000
  freeParkingPool := 0
  housesRemaining := 32
  hotelsRemaining := 12
  createdAtMs := 0
  startedAtMs := 0
  timeLimitMs := some 3600000
  gameEndAtMs := some 3600000
  turnTimeoutMs := 90000
  turn := ⟨0, 0, 90000⟩
  rng := ⟨"scripted", "0", 0, 0⟩

/-- The server rolls `first` and `second`. -/
def rolls (first second : UInt8) (version nowMs : ℤ) : GameplayCommand × GameplayCommandContext :=
  (⟨version, .turn .resolveRandomDice⟩,
    ⟨.internal, nowMs, scriptedSource [first - 1, second - 1] twoPlayerLobby.rng, none⟩)

/-- A player issues a command; a trade they open is named `trade`. -/
def plays (playerId : String) (body : GameplayCommandBody) (version nowMs : ℤ) :
    GameplayCommand × GameplayCommandContext :=
  (⟨version, body⟩, ⟨.player playerId, nowMs, scriptedSource [] twoPlayerLobby.rng, some "trade"⟩)

/-- A timer of the server fires. -/
def timer (body : GameplayTimeoutCommand) (version nowMs : ℤ) :
    GameplayCommand × GameplayCommandContext :=
  (⟨version, .timeout body⟩, ⟨.internal, nowMs, scriptedSource [] twoPlayerLobby.rng, none⟩)

/-- The game of two after some commands. -/
def twoPlayerGame (inputs : List (GameplayCommand × GameplayCommandContext)) :
    Option GameplayAggregateState :=
  (initializeGameplayAggregate twoPlayerLobby).bind fun state => playOn (.inProgress state) inputs

theorem started_of_twoPlayerGame {state : GameplayAggregateState}
    (h : twoPlayerGame [] = some state) : StartedGame state := by
  obtain ⟨active, hinit, hplay⟩ := Option.bind_eq_some_iff.1 h
  cases hplay
  exact ⟨twoPlayerLobby, active, hinit, rfl⟩

theorem reachable_of_twoPlayerGame {inputs : List (GameplayCommand × GameplayCommandContext)}
    {state : GameplayAggregateState} (h : twoPlayerGame inputs = some state) :
    ReachableGame state := by
  obtain ⟨active, hinit, hplay⟩ := Option.bind_eq_some_iff.1 h
  exact reachable_of_playOn ⟨twoPlayerLobby, active, hinit, rfl⟩ hplay

end Pootown
