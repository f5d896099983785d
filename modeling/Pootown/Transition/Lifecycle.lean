import Mathlib.Tactic
import Pootown.Model.Commands
import Pootown.Rules.Movement

/-!
# The lobby

A game before its first turn: players join, leave, cancel and start it.

* `GameState`: the fields of a lobby and its lifecycle;
* `transition`: the rules of the five lifecycle commands;
* `LobbyStep`: the accepted outcomes on an existing lobby, and `transition_step`;
* `joinGame_accepted_iff`: exactly when a player may join, and where they sit then.
-/

namespace Pootown

open Fallible Slots

/-! ### State -/

/-- The fields of a lobby that every lifecycle has. -/
structure GameStateBase where
  stateVersion : ℤ
  gameId : String
  creatorId : String
  minimumPlayers : ℕ
  maximumPlayers : ℕ
  seats : List (Option PlayerSeat)
  bankCash : ℤ
  freeParkingPool : ℤ
  housesRemaining : ℕ
  hotelsRemaining : ℕ
  createdAtMs : ℤ
  timeLimitMs : Option ℤ
  turnTimeoutMs : ℤ
  rng : RandomCheckpoint

inductive GameLifecycle
  | waitingForPlayers
  | inProgress (startedAtMs : ℤ) (gameEndAtMs : Option ℤ) (turn : InProgressTurn)
  | cancelled (cancelledAtMs : ℤ)
  | finished (startedAtMs gameEndAtMs : ℤ)

structure GameState extends GameStateBase where
  lifecycle : GameLifecycle

def GameLifecycle.startedAtMs : GameLifecycle → Option ℤ
  | .inProgress startedAtMs _ _ => some startedAtMs
  | .finished startedAtMs _ => some startedAtMs
  | _ => none

def GameLifecycle.cancelledAtMs : GameLifecycle → Option ℤ
  | .cancelled cancelledAtMs => some cancelledAtMs
  | _ => none

/-- A lobby in progress, as the first aggregate is built from it. -/
def GameState.toInProgress (state : GameState) : Option InProgressGameState :=
  match state.lifecycle with
  | .inProgress startedAtMs gameEndAtMs turn => some {
      stateVersion := state.stateVersion
      gameId := state.gameId
      creatorId := state.creatorId
      minimumPlayers := state.minimumPlayers
      maximumPlayers := state.maximumPlayers
      seats := state.seats
      bankCash := state.bankCash
      freeParkingPool := state.freeParkingPool
      housesRemaining := state.housesRemaining
      hotelsRemaining := state.hotelsRemaining
      createdAtMs := state.createdAtMs
      startedAtMs := startedAtMs
      timeLimitMs := state.timeLimitMs
      gameEndAtMs := gameEndAtMs
      turnTimeoutMs := state.turnTimeoutMs
      turn := turn
      rng := state.rng }
  | _ => none

/-! ### Commands, events and results -/

inductive GameCommandBody
  | createGame (gameId : String) (maximumPlayers : ℕ) (timeLimitMs : Option ℤ)
  | joinGame | leaveGame | cancelGame | startGame
  deriving DecidableEq

structure GameCommand where
  expectedStateVersion : ℤ
  body : GameCommandBody

inductive DomainEvent
  | gameCreated (creatorId : String)
  | playerJoined (playerId : String) (seatIndex totalPlayers : ℕ)
  | playerLeft (playerId : String) (seatIndex remainingPlayers : ℕ)
  | gameStarted (totalPlayers : ℕ)
  | gameCancelled (playersCount : ℕ)
  deriving DecidableEq

structure TransitionContext where
  actorId : String
  nowMs : ℤ
  randomSource : RandomSource

/-- A rejected command: the state the caller keeps, and the error. -/
structure TransitionRejection where
  state : Option GameState
  error : GameCoreError

abbrev TransitionResult := Except TransitionRejection (GameState × List DomainEvent)

def rejectLobby (state : Option GameState) (code : GameCoreErrorCode) (message : String)
    (retryable : Bool := false) : TransitionRejection :=
  ⟨state, ⟨code, message, retryable⟩⟩

/-! ### Helpers -/

def createSeat (playerId : String) (seatIndex : ℕ) (nowMs : ℤ) : PlayerSeat where
  seatIndex := seatIndex
  playerId := playerId
  status := .active
  cash := GameplayPolicy.startingMatchCash
  position := 0
  inJail := false
  joinedAtMs := nowMs

/-- The checkpoint of the source of a context, when it is admissible. -/
def contextCheckpoint (context : TransitionContext) : Option RandomCheckpoint :=
  readRandomCheckpoint context.randomSource context.randomSource.cursor

def canResumeRandomSource (context : TransitionContext) (checkpoint : RandomCheckpoint) : Bool :=
  canResumeGameplayCheckpoint context.randomSource context.randomSource.cursor checkpoint

/-- The latest time a lobby has recorded. -/
def latestObservedAtMs (state : GameState) : ℤ :=
  ((occupants state.seats).map PlayerSeat.joinedAtMs ++
    [state.lifecycle.startedAtMs.getD 0, state.lifecycle.cancelledAtMs.getD 0]).foldl max
    state.createdAtMs

/-- The first empty seat below the maximum. -/
def firstFreeSeat (maximumPlayers : ℕ) (seats : List (Option PlayerSeat)) : Option ℕ :=
  (List.range seats.length).find? fun index =>
    decide (index < maximumPlayers ∧ slotAt seats index = none)

/-- The seat a player sits on. -/
def seatOf (playerId : String) (seats : List (Option PlayerSeat)) : Option ℕ :=
  (List.range seats.length).find? fun index =>
    (slotAt seats index).any fun seat => seat.playerId = playerId

/-! ### The rules -/

def createGame (gameId : String) (maximumPlayers : ℕ) (timeLimitMs : Option ℤ)
    (expectedStateVersion : ℤ) (context : TransitionContext) : TransitionResult := do
  require (expectedStateVersion = 0)
    (rejectLobby none .staleStateVersion "new games require state version zero")
  require (GameplayPolicy.minimumPlayers ≤ maximumPlayers ∧
      maximumPlayers ≤ GameplayPolicy.maximumPlayers)
    (rejectLobby none .invalidCommand "maximumPlayers must be between two and four")
  require (∀ limit ∈ timeLimitMs, 0 < limit ∧ limit ≤ 86400000)
    (rejectLobby none .invalidCommand
      "timeLimitMs must be null or between one millisecond and one day")
  let rng ← requireSome (contextCheckpoint context)
    (rejectLobby none .invalidState "random source returned an invalid checkpoint")
  return ({
    stateVersion := 1
    gameId := gameId
    creatorId := context.actorId
    minimumPlayers := GameplayPolicy.minimumPlayers
    maximumPlayers := maximumPlayers
    seats := [some (createSeat context.actorId 0 context.nowMs), none, none, none]
    bankCash := GameplayPolicy.startingBankCash
    freeParkingPool := 0
    housesRemaining := GameplayPolicy.totalHouses
    hotelsRemaining := GameplayPolicy.totalHotels
    createdAtMs := context.nowMs
    timeLimitMs := timeLimitMs
    turnTimeoutMs := GameplayPolicy.turnTimeoutMs
    rng := rng
    lifecycle := .waitingForPlayers }, [.gameCreated context.actorId])

def joinGame (state : GameState) (context : TransitionContext) : TransitionResult := do
  require (∀ seat ∈ occupants state.seats, seat.playerId ≠ context.actorId)
    (rejectLobby state .playerAlreadyJoined "player already occupies a seat")
  let seatIndex ← requireSome (firstFreeSeat state.maximumPlayers state.seats)
    (rejectLobby state .gameFull "maximum number of players reached")
  let seats := state.seats.set seatIndex (some (createSeat context.actorId seatIndex context.nowMs))
  let rng ← requireSome (contextCheckpoint context)
    (rejectLobby state .invalidState "random source returned an invalid checkpoint")
  return ({ state with seats := seats, stateVersion := state.stateVersion + 1, rng := rng },
    [.playerJoined context.actorId seatIndex (occupants seats).length])

def leaveGame (state : GameState) (context : TransitionContext) : TransitionResult := do
  require (context.actorId ≠ state.creatorId)
    (rejectLobby state .creatorCannotLeave "creator must cancel the game instead")
  let seatIndex ← requireSome (seatOf context.actorId state.seats)
    (rejectLobby state .playerNotFound "player does not occupy a seat")
  let seats := state.seats.set seatIndex none
  let rng ← requireSome (contextCheckpoint context)
    (rejectLobby state .invalidState "random source returned an invalid checkpoint")
  return ({ state with seats := seats, stateVersion := state.stateVersion + 1, rng := rng },
    [.playerLeft context.actorId seatIndex (occupants seats).length])

def cancelGame (state : GameState) (context : TransitionContext) : TransitionResult := do
  require (context.actorId = state.creatorId)
    (rejectLobby state .unauthorizedActor "only the creator can cancel the game")
  let rng ← requireSome (contextCheckpoint context)
    (rejectLobby state .invalidState "random source returned an invalid checkpoint")
  return ({ state with
    stateVersion := state.stateVersion + 1
    lifecycle := .cancelled context.nowMs
    rng := rng }, [.gameCancelled (occupants state.seats).length])

def startGame (state : GameState) (context : TransitionContext) : TransitionResult := do
  require (context.actorId = state.creatorId)
    (rejectLobby state .unauthorizedActor "only the creator can start the game")
  require (state.minimumPlayers ≤ (occupants state.seats).length)
    (rejectLobby state .minimumPlayersNotMet "at least two players are required")
  let gameEndAtMs := state.timeLimitMs.map fun timeLimitMs => context.nowMs + timeLimitMs
  let turnDeadlineAtMs := context.nowMs + state.turnTimeoutMs
  require ((∀ limit ∈ gameEndAtMs, IsSafeInteger limit) ∧ IsSafeInteger turnDeadlineAtMs)
    (rejectLobby state .invalidState "game deadline exceeds the supported timestamp range")
  let rng ← requireSome (contextCheckpoint context)
    (rejectLobby state .invalidState "random source returned an invalid checkpoint")
  return ({ state with
    stateVersion := state.stateVersion + 1
    lifecycle := .inProgress context.nowMs gameEndAtMs ⟨0, context.nowMs, turnDeadlineAtMs⟩
    rng := rng }, [.gameStarted (occupants state.seats).length])

/-- The checks every command on an existing lobby starts with. -/
def checkLobby (state : GameState) (expectedStateVersion : ℤ) (context : TransitionContext) :
    Except TransitionRejection Unit := do
  require (expectedStateVersion = state.stateVersion)
    (rejectLobby state .staleStateVersion "expected state version does not match" true)
  require (latestObservedAtMs state ≤ context.nowMs)
    (rejectLobby state .invalidState "command time predates the current state")
  require (state.stateVersion < maxStateVersion)
    (rejectLobby state .invalidState "state version cannot be incremented safely")
  require (canResumeRandomSource context state.rng = true)
    (rejectLobby state .invalidState "random source cannot resume the stored continuation")
  match state.lifecycle with
  | .waitingForPlayers => return ()
  | _ => .error (rejectLobby state .gameNotWaiting "command is only valid before the game starts")

def transition (state : Option GameState) (command : GameCommand) (context : TransitionContext) :
    TransitionResult := do
  require (IsSafeInteger context.nowMs ∧ 0 ≤ context.nowMs)
    (rejectLobby state .invalidCommand "nowMs must be a non-negative safe integer")
  match state, command.body with
  | none, .createGame gameId maximumPlayers timeLimitMs =>
    createGame gameId maximumPlayers timeLimitMs command.expectedStateVersion context
  | some state, .createGame _ _ _ =>
    .error (rejectLobby state .gameAlreadyExists "game state already exists")
  | none, _ => .error (rejectLobby none .gameNotFound "game state does not exist")
  | some state, body => do
    checkLobby state command.expectedStateVersion context
    match body with
    | .joinGame => joinGame state context
    | .leaveGame => leaveGame state context
    | .cancelGame => cancelGame state context
    | _ => startGame state context

/-! ### Accepted outcomes -/

/-- What the common checks establish. -/
structure LobbyAdmitted (state : GameState) (expectedStateVersion : ℤ)
    (context : TransitionContext) : Prop where
  safe : IsSafeInteger context.nowMs
  nonneg : 0 ≤ context.nowMs
  expected_eq : expectedStateVersion = state.stateVersion
  observed_le : latestObservedAtMs state ≤ context.nowMs
  version_lt : state.stateVersion < maxStateVersion
  resumable : canResumeRandomSource context state.rng = true
  waiting : state.lifecycle = .waitingForPlayers

theorem checkLobby_eq_ok {state : GameState} {expectedStateVersion : ℤ}
    {context : TransitionContext} {u : Unit} :
    checkLobby state expectedStateVersion context = .ok u ↔
      expectedStateVersion = state.stateVersion ∧ latestObservedAtMs state ≤ context.nowMs ∧
      state.stateVersion < maxStateVersion ∧ canResumeRandomSource context state.rng = true ∧
      state.lifecycle = .waitingForPlayers := by
  simp only [checkLobby, bind_eq_ok, require_eq_ok, exists_const]
  cases state.lifecycle <;> simp [pure, Except.pure]

/-- The accepted outcomes of a command on an existing lobby. -/
inductive LobbyStep (state : GameState) (context : TransitionContext) (rng : RandomCheckpoint) :
    GameCommandBody → GameState → List DomainEvent → Prop
  | join (seatIndex : ℕ) : (∀ seat ∈ occupants state.seats, seat.playerId ≠ context.actorId) →
      firstFreeSeat state.maximumPlayers state.seats = some seatIndex →
      LobbyStep state context rng .joinGame
        { state with
          seats := state.seats.set seatIndex
            (some (createSeat context.actorId seatIndex context.nowMs))
          stateVersion := state.stateVersion + 1
          rng := rng }
        [.playerJoined context.actorId seatIndex (occupants (state.seats.set seatIndex
          (some (createSeat context.actorId seatIndex context.nowMs)))).length]
  | leave (seatIndex : ℕ) : context.actorId ≠ state.creatorId →
      seatOf context.actorId state.seats = some seatIndex →
      LobbyStep state context rng .leaveGame
        { state with
          seats := state.seats.set seatIndex none
          stateVersion := state.stateVersion + 1
          rng := rng }
        [.playerLeft context.actorId seatIndex
          (occupants (state.seats.set seatIndex none)).length]
  | cancel : context.actorId = state.creatorId →
      LobbyStep state context rng .cancelGame
        { state with
          stateVersion := state.stateVersion + 1
          lifecycle := .cancelled context.nowMs
          rng := rng }
        [.gameCancelled (occupants state.seats).length]
  | start (gameEndAtMs : Option ℤ) : context.actorId = state.creatorId →
      state.minimumPlayers ≤ (occupants state.seats).length →
      gameEndAtMs = (state.timeLimitMs.map fun timeLimitMs => context.nowMs + timeLimitMs) →
      LobbyStep state context rng .startGame
        { state with
          stateVersion := state.stateVersion + 1
          lifecycle := .inProgress context.nowMs gameEndAtMs
            ⟨0, context.nowMs, context.nowMs + state.turnTimeoutMs⟩
          rng := rng }
        [.gameStarted (occupants state.seats).length]

/-- An accepted command was admitted, and did one of the listed things. -/
theorem transition_step {state state' : GameState} {command : GameCommand}
    {context : TransitionContext} {events : List DomainEvent}
    (h : transition (some state) command context = .ok (state', events)) :
    LobbyAdmitted state command.expectedStateVersion context ∧
      ∃ rng, contextCheckpoint context = some rng ∧
        LobbyStep state context rng command.body state' events := by
  simp only [transition, bind_eq_ok, require_eq_ok, exists_const] at h
  obtain ⟨⟨hsafe, hnonneg⟩, h⟩ := h
  cases hbody : command.body with
  | createGame gameId maximumPlayers timeLimitMs =>
    rw [hbody] at h
    cases h
  | joinGame =>
    simp only [hbody, joinGame, bind_eq_ok, checkLobby_eq_ok, require_eq_ok, requireSome_eq_ok,
      exists_const] at h
    obtain ⟨⟨hexp, hobs, hlt, hres, hwait⟩, hnew, seatIndex, hfree, rng, hrng, h⟩ := h
    cases h
    exact ⟨⟨hsafe, hnonneg, hexp, hobs, hlt, hres, hwait⟩, rng, hrng, .join seatIndex hnew hfree⟩
  | leaveGame =>
    simp only [hbody, leaveGame, bind_eq_ok, checkLobby_eq_ok, require_eq_ok, requireSome_eq_ok,
      exists_const] at h
    obtain ⟨⟨hexp, hobs, hlt, hres, hwait⟩, hcreator, seatIndex, hseat, rng, hrng, h⟩ := h
    cases h
    exact ⟨⟨hsafe, hnonneg, hexp, hobs, hlt, hres, hwait⟩, rng, hrng,
      .leave seatIndex hcreator hseat⟩
  | cancelGame =>
    simp only [hbody, cancelGame, bind_eq_ok, checkLobby_eq_ok, require_eq_ok, requireSome_eq_ok,
      exists_const] at h
    obtain ⟨⟨hexp, hobs, hlt, hres, hwait⟩, hcreator, rng, hrng, h⟩ := h
    cases h
    exact ⟨⟨hsafe, hnonneg, hexp, hobs, hlt, hres, hwait⟩, rng, hrng, .cancel hcreator⟩
  | startGame =>
    simp only [hbody, startGame, bind_eq_ok, checkLobby_eq_ok, require_eq_ok, requireSome_eq_ok,
      exists_const] at h
    obtain ⟨⟨hexp, hobs, hlt, hres, hwait⟩, hcreator, hmin, -, rng, hrng, h⟩ := h
    cases h
    exact ⟨⟨hsafe, hnonneg, hexp, hobs, hlt, hres, hwait⟩, rng, hrng, .start _ hcreator hmin rfl⟩

/-- Every accepted command raises the version by one. -/
theorem LobbyStep.version {state state' : GameState} {context : TransitionContext}
    {rng : RandomCheckpoint} {body : GameCommandBody} {events : List DomainEvent}
    (h : LobbyStep state context rng body state' events) :
    state'.stateVersion = state.stateVersion + 1 := by
  cases h <;> rfl

/-! ### Who may join -/

/-- The empty seats below the maximum, in order. -/
def freeSeats (maximumPlayers : ℕ) (seats : List (Option PlayerSeat)) : List ℕ :=
  (List.range seats.length).filter fun index =>
    decide (index < maximumPlayers ∧ slotAt seats index = none)

theorem firstFreeSeat_eq_head (maximumPlayers : ℕ) (seats : List (Option PlayerSeat)) :
    firstFreeSeat maximumPlayers seats = (freeSeats maximumPlayers seats).head? :=
  (List.head?_filter ..).symm

theorem mem_freeSeats {maximumPlayers index : ℕ} {seats : List (Option PlayerSeat)} :
    index ∈ freeSeats maximumPlayers seats ↔
      index < seats.length ∧ index < maximumPlayers ∧ slotAt seats index = none := by
  simp [freeSeats]

/-- Whoever takes the first free seat leaves the others free. -/
theorem freeSeats_set {maximumPlayers index : ℕ} {seats : List (Option PlayerSeat)}
    {seat : PlayerSeat} (h : firstFreeSeat maximumPlayers seats = some index) :
    freeSeats maximumPlayers (seats.set index (some seat)) = (freeSeats maximumPlayers seats).tail := by
  rw [firstFreeSeat_eq_head] at h
  obtain ⟨rest, hfree⟩ : ∃ rest, freeSeats maximumPlayers seats = index :: rest :=
    List.head?_eq_some_iff.1 h
  have hnodup : (freeSeats maximumPlayers seats).Nodup := List.nodup_range.filter _
  rw [hfree, List.nodup_cons] at hnodup
  have hlt : index < seats.length :=
    (mem_freeSeats.1 (hfree ▸ List.mem_cons_self : index ∈ freeSeats maximumPlayers seats)).1
  have hset : freeSeats maximumPlayers (seats.set index (some seat))
      = (freeSeats maximumPlayers seats).filter (· ≠ index) := by
    rw [freeSeats, freeSeats, List.length_set, List.filter_filter]
    refine List.filter_congr fun other hother => ?_
    by_cases heq : other = index
    · subst heq
      simp [slotAt, hlt]
    · have hsame : slotAt (seats.set index (some seat)) other = slotAt seats other := by
        simp [slotAt, List.getElem?_set_ne (Ne.symm heq)]
      simp [hsame, heq]
  rw [hset, hfree, List.tail_cons, List.filter_cons_of_neg (by simp)]
  refine List.filter_eq_self.2 fun other hother => ?_
  simpa using fun heq : other = index => hnodup.1 (heq ▸ hother)

theorem foldl_max_le {first bound : ℤ} {times : List ℤ} :
    times.foldl max first ≤ bound ↔ first ≤ bound ∧ ∀ time ∈ times, time ≤ bound := by
  induction times generalizing first with
  | nil => simp
  | cons time rest ih => simp [ih, and_assoc]

theorem latestObservedAtMs_le {state : GameState} {bound : ℤ} :
    latestObservedAtMs state ≤ bound ↔ state.createdAtMs ≤ bound ∧
      (∀ seat ∈ occupants state.seats, seat.joinedAtMs ≤ bound) ∧
      state.lifecycle.startedAtMs.getD 0 ≤ bound ∧ state.lifecycle.cancelledAtMs.getD 0 ≤ bound := by
  simp [latestObservedAtMs, foldl_max_le, and_assoc]

/-- A lobby that the actor of a context has joined. -/
def joinedLobby (state : GameState) (context : TransitionContext) (seatIndex : ℕ)
    (rng : RandomCheckpoint) : GameState :=
  { state with
    seats := state.seats.set seatIndex (some (createSeat context.actorId seatIndex context.nowMs))
    stateVersion := state.stateVersion + 1
    rng := rng }

theorem mem_occupants_set {seats : List (Option PlayerSeat)} {index : ℕ} {seat other : PlayerSeat}
    (hfree : slotAt seats index = none) (hlt : index < seats.length) :
    other ∈ occupants (seats.set index (some seat)) ↔ other = seat ∨ other ∈ occupants seats := by
  simp only [mem_occupants, slotAt]
  constructor
  · rintro ⟨place, hplace⟩
    by_cases heq : place = index
    · subst heq
      left
      simpa [hlt, eq_comm] using hplace
    · exact .inr ⟨place, by simpa [List.getElem?_set_ne (Ne.symm heq)] using hplace⟩
  · rintro (rfl | ⟨place, hplace⟩)
    · exact ⟨index, by simp [hlt]⟩
    · have hne : index ≠ place := by
        rintro rfl
        rw [slotAt] at hfree
        rw [hfree] at hplace
        cases hplace
      exact ⟨place, by simpa [List.getElem?_set_ne hne] using hplace⟩

/-- Who joins no earlier than the others did is the last to have been observed. -/
theorem latestObservedAtMs_joined {state : GameState} {context : TransitionContext}
    {seatIndex : ℕ} {rng : RandomCheckpoint} (hobserved : latestObservedAtMs state ≤ context.nowMs)
    (hfree : firstFreeSeat state.maximumPlayers state.seats = some seatIndex) :
    latestObservedAtMs (joinedLobby state context seatIndex rng) = context.nowMs := by
  have hmem : seatIndex ∈ freeSeats state.maximumPlayers state.seats :=
    List.mem_of_head? (firstFreeSeat_eq_head .. ▸ hfree)
  obtain ⟨hlt, -, hnone⟩ := mem_freeSeats.1 hmem
  have hall : ∀ bound, latestObservedAtMs (joinedLobby state context seatIndex rng) ≤ bound ↔
      latestObservedAtMs state ≤ bound ∧ context.nowMs ≤ bound := by
    intro bound
    simp only [latestObservedAtMs_le, joinedLobby, mem_occupants_set hnone hlt, forall_eq_or_imp,
      createSeat]
    tauto
  exact le_antisymm ((hall _).2 ⟨hobserved, le_rfl⟩) ((hall _).1 le_rfl).2

/-- A player may join when the command is admitted, they have no seat, and one is free. -/
theorem joinGame_accepted_iff {state : GameState} {expectedStateVersion : ℤ}
    {context : TransitionContext} {result : GameState × List DomainEvent} :
    transition (some state) ⟨expectedStateVersion, .joinGame⟩ context = .ok result ↔
      LobbyAdmitted state expectedStateVersion context ∧
      (∀ seat ∈ occupants state.seats, seat.playerId ≠ context.actorId) ∧
      ∃ seatIndex rng, firstFreeSeat state.maximumPlayers state.seats = some seatIndex ∧
        contextCheckpoint context = some rng ∧
        result = (joinedLobby state context seatIndex rng, [.playerJoined context.actorId seatIndex
          (occupants (joinedLobby state context seatIndex rng).seats).length]) := by
  simp only [transition, joinGame, bind_eq_ok, require_eq_ok, requireSome_eq_ok, exists_const,
    checkLobby_eq_ok]
  constructor
  · rintro ⟨⟨hsafe, hnonneg⟩, ⟨hexp, hobs, hlt, hres, hwait⟩, hnew, seatIndex, hfree, rng, hrng, h⟩
    cases h
    exact ⟨⟨hsafe, hnonneg, hexp, hobs, hlt, hres, hwait⟩, hnew, seatIndex, rng, hfree, hrng, rfl⟩
  · rintro ⟨hadmitted, hnew, seatIndex, rng, hfree, hrng, rfl⟩
    exact ⟨⟨hadmitted.safe, hadmitted.nonneg⟩, ⟨hadmitted.expected_eq, hadmitted.observed_le,
      hadmitted.version_lt, hadmitted.resumable, hadmitted.waiting⟩, hnew, seatIndex, hfree, rng,
      hrng, rfl⟩

end Pootown
