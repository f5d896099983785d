import Mathlib.Tactic
import Pootown.Server.RoomClock
import Pootown.Server.Store

/-!
# The command handler

The handler of a room keeps the room's state in memory. A call decides on a next state, commits it
to the store, and only then keeps it. The store may throw at either of its two calls.

* `RoomCommandHandler`, `HandlerState`: the handler, next to the store it commits to;
* `playerDecision`, `internalDecision`, `admissionDecision`: the next state and its events, or why
  there is none;
* `handleSerial`, `handleInternalSerial`, `ensureAdmittedPlayerSerial`: the three calls;
* `Handled`: the ways a call ends, and `handleWith_handled`, `ensureAdmittedPlayerSerial_handled`.
-/

namespace Pootown.Server

open Fallible Slots

/-! ### States -/

/-- The state of a room: a lobby, or a game. -/
inductive RoomGameState
  | lifecycle (state : GameState)
  | gameplay (state : GameplayAggregateState)

def GameplayAggregateState.base : GameplayAggregateState → GameplayAggregateStateBase
  | .inProgress state => state.toGameplayAggregateStateBase
  | .finished state => state.toGameplayAggregateStateBase

def RoomGameState.stateVersion : RoomGameState → ℤ
  | .lifecycle state => state.stateVersion
  | .gameplay state => (GameplayAggregateState.base state).stateVersion

def RoomGameState.rng : RoomGameState → RandomCheckpoint
  | .lifecycle state => state.rng
  | .gameplay state => (GameplayAggregateState.base state).rng

/-- The player on every seat. -/
def RoomGameState.players : RoomGameState → List (Option String)
  | .lifecycle state => mapSlots (fun _ seat => seat.playerId) state.seats
  | .gameplay state =>
    mapSlots (fun _ player => player.playerId) (GameplayAggregateState.base state).players

/-- No command of a room is handled at an earlier time than this. -/
def committedTimestampFloor : RoomGameState → ℤ
  | .gameplay (.finished state) => max state.startedAtMs state.terminal.endedAtMs
  | .gameplay (.inProgress state) => max state.startedAtMs state.turn.startedAtMs
  | .lifecycle state =>
    ((occupants state.seats).map PlayerSeat.joinedAtMs).foldl max
      (max (max state.createdAtMs (state.lifecycle.startedAtMs.getD state.createdAtMs))
        (state.lifecycle.cancelledAtMs.getD state.createdAtMs))

/-- What the handler takes from elsewhere: the digest, and snapshots as they are written and read. -/
structure RoomCodec where
  digest : String → List UInt8
  snapshotVersion : String → Option ℤ
  serialize : RoomGameState → String

def RoomCodec.toCodec (codec : RoomCodec) : Codec :=
  ⟨fun text => String.ofList ((codec.digest text).flatMap hexByte), codec.snapshotVersion⟩

structure AuthenticatedRoomPlayer where
  gameId : String
  playerId : String
  reservationId : String
  roomId : String
  seatIndex : ℕ
  userId : String

structure RoomCommandHandler where
  state : RoomGameState
  committedAtMs : ℤ
  lease : RoomLease

/-- A payload as it arrives: the request id it carries, if it is one, and the command it parses to,
which is a player's or one of the room itself. -/
structure RoomPayload (internal : Bool) where
  requestId : Option String
  command : Option RoomCommand
  parsed : ∀ command' ∈ command,
    command'.body.isInternal = internal ∧ requestId = some command'.requestId

/-- The store as the handler calls it. -/
structure RoomCommandStore (σ : Type) where
  findReplay : RoomLease → String → RoomCommand → ℤ →
    EStateM ServerError σ (Option CommandAcknowledgement)
  commit : RoomLease → CommandCommit → ℤ → EStateM ServerError σ CommandCommitResult

/-- What a call takes from outside: the clock of the room, the clock of the store, the generator
that continues a checkpoint, and the store as it behaves during the call. -/
structure HandlerCall (σ : Type) where
  clockMs : ℤ
  storeMs : ℤ
  randomSource : RandomCheckpoint → Option RandomSource
  store : RoomCommandStore σ

structure HandlerState (σ : Type) where
  handler : RoomCommandHandler
  store : σ

inductive RoomCommandHandlingResult
  | accepted (acknowledgement : CommandAcknowledgement) (events : List RoomEvent)
      (replayed : Bool)
  | rejected (rejection : CommandRejection)

/-! ### Events and proofs -/

def invalidRoomCommand (message : String) : ServerError := ⟨.invalidRoomCommand, message⟩

/-- The events of a command, numbered under its request id. -/
def envelopes (requestId : String) (stateVersion occurredAtMs : ℤ)
    (payloads : List RoomEventPayload) : List RoomEvent :=
  payloads.mapIdx fun index payload =>
    ⟨eventId requestId index, stateVersion, occurredAtMs, payload⟩

/-- An event as it is published: the final ranking names the players on the seats. -/
def gameplayPayload (state : GameplayAggregateState) :
    GameplayDomainEvent → Except ServerError GameplayDomainEvent
  | .gameEnded reason winnerId ranking => do
    let ranking ← ranking.mapM fun entry => do
      let player ← requireSome (slotAt (GameplayAggregateState.base state).players entry.seatIndex)
        (invalidRoomCommand "Terminal event references an empty seat")
      return { entry with playerId := player.playerId }
    return .gameEnded reason winnerId ranking
  | event => .ok event

def lifecycleEvents (events : List DomainEvent) (requestId : String)
    (stateVersion occurredAtMs : ℤ) : List RoomEvent :=
  envelopes requestId stateVersion occurredAtMs (events.map .lifecycle)

def gameplayEvents (events : List GameplayDomainEvent) (state : GameplayAggregateState)
    (requestId : String) (occurredAtMs : ℤ) : Except ServerError (List RoomEvent) := do
  let payloads ← events.mapM (gameplayPayload state)
  return envelopes requestId (GameplayAggregateState.base state).stateVersion occurredAtMs
    (payloads.map (.gameplay (GameplayAggregateState.base state).gameId))

def terminalProof : RoomGameState → Except ServerError (Option TerminalProof)
  | .gameplay (.finished state) => do
    let winner ← requireSome (slotAt state.players state.terminal.winnerSeatIndex)
      (invalidRoomCommand "Terminal winner is unavailable")
    return some ⟨state.terminal.reason, winner.playerId⟩
  | _ => .ok none

def finalizationActionText : FinalizationAction → String
  | .leave => "leave"
  | .cancel => "cancel"

def sessionFinalizationIdempotencyKey (codec : RoomCodec)
    (gameId roomId playerId requestId : String) (action : FinalizationAction) : String :=
  "realtime-finalize-" ++ codec.toCodec.sha256 (gameId ++ "\x00" ++ roomId ++ "\x00" ++ playerId ++
    "\x00" ++ requestId ++ "\x00" ++ finalizationActionText action)

/-- A player who leaves, or cancels, has the session finalized by the API. -/
def sessionFinalization (codec : RoomCodec) (authenticated : AuthenticatedRoomPlayer)
    (command : RoomCommand) : Option SessionFinalization :=
  (expectedFinalization command).map fun action => ⟨action,
    sessionFinalizationIdempotencyKey codec authenticated.gameId authenticated.roomId
      authenticated.playerId command.requestId action,
    authenticated.reservationId⟩

/-- The UUID that the first sixteen bytes of a digest are shaped into. -/
def digestUuid (digest : List UInt8) : String :=
  let bytes := (digest.take 16).mapIdx fun index byte =>
    if index = 6 then (byte &&& 0x0f) ||| 0x50
    else if index = 8 then (byte &&& 0x3f) ||| 0x80
    else byte
  let hex := bytes.flatMap hexByte
  let slice := fun first last => String.ofList ((hex.take last).drop first)
  slice 0 8 ++ "-" ++ slice 8 12 ++ "-" ++ slice 12 16 ++ "-" ++ slice 16 20 ++ "-" ++
    String.ofList (hex.drop 20)

def admissionRequestId (codec : RoomCodec) (authenticated : AuthenticatedRoomPlayer) : String :=
  digestUuid (codec.digest (authenticated.gameId ++ "\x00" ++ authenticated.playerId ++ "\x00" ++
    authenticated.reservationId ++ "\x00" ++ "admission"))

/-! ### Decisions -/

/-- Why a command has no next state: it is rejected, or its handling throws. -/
inductive Refusal
  | rejection (error : GameCoreError)
  | thrown (error : ServerError)

/-- What a call means to commit. -/
structure Proposal where
  nextState : RoomGameState
  events : List RoomEvent
  proof : Option TerminalProof

def refusal (code : GameCoreErrorCode) (message : String) : Refusal :=
  .rejection ⟨code, message, false⟩

def thrown {α : Type} : Except ServerError α → Except Refusal α
  | .ok a => .ok a
  | .error error => .error (.thrown error)

/-- A gameplay command on a game. -/
def gameplayDecision (state : GameplayAggregateState) (command : RoomCommand)
    (body : GameplayCommandBody) (context : GameplayCommandContext) :
    Except Refusal Proposal :=
  match transitionGameplay state ⟨command.expectedStateVersion, body⟩ context with
  | .error rejection => .error (.rejection rejection.error)
  | .ok (nextState, events) => do
    let events ← thrown (gameplayEvents events nextState command.requestId context.nowMs)
    let proof ← thrown (terminalProof (.gameplay nextState))
    return ⟨.gameplay nextState, events, proof⟩

/-- The state a lifecycle command leaves: a started lobby becomes a game. -/
def initialized (state : GameState) : Except Refusal RoomGameState :=
  match state.toInProgress with
  | some started => do
    let game ← requireSome (initializeGameplayAggregate started)
      (refusal .invalidState "Started lifecycle state cannot initialize gameplay")
    return .gameplay (.inProgress game)
  | none => return .lifecycle state

def lifecycleDecision (state : GameState) (command : RoomCommand) (body : GameCommandBody)
    (context : TransitionContext) : Except Refusal Proposal :=
  match transition (some state) ⟨command.expectedStateVersion, body⟩ context with
  | .error rejection => .error (.rejection rejection.error)
  | .ok (result, events) => do
    let nextState ← initialized result
    let proof ← thrown (terminalProof nextState)
    return ⟨nextState,
      lifecycleEvents events command.requestId nextState.stateVersion context.nowMs, proof⟩

def isCreateTrade : GameplayCommandBody → Bool
  | .trade (.createTrade _ _) => true
  | _ => false

def playerDecision (playerId : String) (state : RoomGameState) (command : RoomCommand)
    (nowMs : ℤ) : Option RandomSource → Except Refusal Proposal
  | none => .error (refusal .invalidState "Room random checkpoint cannot be resumed")
  | some randomSource =>
    match state, command.body with
    | .gameplay _, .lifecycle _ =>
      .error (refusal .invalidPhase "Lifecycle command is unavailable after gameplay starts")
    | .gameplay state, .gameplay body =>
      gameplayDecision state command body ⟨.player playerId, nowMs, randomSource,
        if isCreateTrade body then some (tradeId command.requestId) else none⟩
    | .lifecycle _, .gameplay _ =>
      .error (refusal .invalidPhase "Gameplay command is unavailable before the game starts")
    | .lifecycle state, .lifecycle body =>
      lifecycleDecision state command body ⟨playerId, nowMs, randomSource⟩

def internalDecision (state : RoomGameState) (command : RoomCommand) (nowMs : ℤ)
    (source : Option RandomSource) : Except Refusal Proposal :=
  match state, command.body, source with
  | .gameplay state, .gameplay body, some randomSource =>
    gameplayDecision state command body ⟨.internal, nowMs, randomSource, none⟩
  | .gameplay _, .gameplay _, none =>
    .error (refusal .invalidState "Room random checkpoint cannot be resumed")
  | _, _, _ => .error
    (refusal .invalidPhase "Internal gameplay command is unavailable before the game starts")

def GameLifecycle.isWaiting : GameLifecycle → Bool
  | .waitingForPlayers => true
  | _ => false

/-- The lobby a player is admitted to: nobody sits on the seat, and the player sits nowhere. -/
def admissionLobby (state : RoomGameState) (authenticated : AuthenticatedRoomPlayer) :
    Except ServerError GameState := do
  require (slotAt state.players authenticated.seatIndex = none)
    (invalidRoomCommand "Admission seat is occupied by another player")
  require (∀ playerId ∈ occupants state.players, playerId ≠ authenticated.playerId)
    (invalidRoomCommand "Admission player is bound to another seat")
  match state with
  | .lifecycle lobby => do
    require (GameLifecycle.isWaiting lobby.lifecycle = true)
      (invalidRoomCommand "Admission player is missing from a started room")
    return lobby
  | .gameplay _ => .error (invalidRoomCommand "Admission player is missing from a started room")

/-- Admit a player to a lobby: they join it, and have to end up on their seat. -/
def admissionDecision (authenticated : AuthenticatedRoomPlayer) (lobby : GameState)
    (command : RoomCommand) (joinedAtMs committedAtMs : ℤ) (randomSource : RandomSource) :
    Except ServerError Proposal :=
  match transition (some lobby) ⟨command.expectedStateVersion, .joinGame⟩
      ⟨authenticated.playerId, joinedAtMs, randomSource⟩ with
  | .error rejection => .error (invalidRoomCommand rejection.error.message)
  | .ok (result, events) => do
    require (GameLifecycle.isWaiting result.lifecycle = true)
      (invalidRoomCommand "Admission produced an invalid room state")
    require ((slotAt result.seats authenticated.seatIndex).map PlayerSeat.playerId
        = some authenticated.playerId)
      (invalidRoomCommand "Core admission seat does not match API authority")
    return ⟨.lifecycle result,
      lifecycleEvents events command.requestId result.stateVersion committedAtMs, none⟩

/-! ### The three calls -/

section Calls

variable {σ : Type} (codec : RoomCodec) (call : HandlerCall σ)

/-- A call of the store, with the handler left alone. -/
def onStore {α : Type} (x : EStateM ServerError σ α) : EStateM ServerError (HandlerState σ) α :=
  fun s => match x s.store with
    | .ok a store => .ok a { s with store := store }
    | .error error store => .error error { s with store := store }

def commandTimestampMs (handler : RoomCommandHandler) (clockMs : ℤ) : Except ServerError ℤ := do
  require (IsSafeInteger clockMs ∧ 0 ≤ clockMs)
    (invalidRoomCommand "Room clock returned an invalid timestamp")
  return max (max clockMs (committedTimestampFloor handler.state)) handler.committedAtMs

/-- What `proposal` commits. -/
def Proposal.toCommit (proposal : Proposal) (actorId : String) (command : RoomCommand)
    (finalization : Option SessionFinalization) : CommandCommit where
  acknowledgement := ⟨command.requestId, proposal.nextState.stateVersion,
    proposal.events.map RoomEvent.eventId⟩
  events := proposal.events
  playerId := actorId
  command := command
  serializedState := codec.serialize proposal.nextState
  stateVersion := proposal.nextState.stateVersion
  terminalProof := proposal.proof
  sessionFinalization := finalization

/-- Commit; the handler keeps the next state unless the command had been committed before. -/
def commitNext (proposal : Proposal) (value : CommandCommit) (storeMs committedAtMs : ℤ) :
    EStateM ServerError (HandlerState σ) CommandCommitResult := do
  let s ← get
  let committed ← onStore (call.store.commit s.handler.lease value storeMs)
  if committed.duplicate = false then
    modify fun s => { s with
      handler := { s.handler with state := proposal.nextState, committedAtMs := committedAtMs } }
  return committed

/-- A command of an actor, from its payload to its answer. -/
def handleWith {internal : Bool} (actorId : String) (payload : RoomPayload internal)
    (decide : RoomGameState → RoomCommand → ℤ → Option RandomSource → Except Refusal Proposal)
    (finalization : RoomCommand → Option SessionFinalization) :
    EStateM ServerError (HandlerState σ) RoomCommandHandlingResult := do
  let s ← get
  let state := s.handler.state
  match payload.command with
  | none =>
    match payload.requestId with
    | none => throw (invalidRoomCommand "Room command has no valid request ID")
    | some requestId => return .rejected ⟨requestId, state.stateVersion,
        ⟨.invalidCommand, "Room command payload is invalid", false⟩⟩
  | some command =>
    match commandTimestampMs s.handler call.clockMs with
    | .error error => throw error
    | .ok nowMs => do
      let replay ← onStore (call.store.findReplay s.handler.lease actorId command nowMs)
      match replay with
      | some acknowledgement => return .accepted acknowledgement [] true
      | none =>
        match decide state command nowMs (call.randomSource state.rng) with
        | .error (.rejection error) =>
          return .rejected ⟨command.requestId, state.stateVersion, error⟩
        | .error (.thrown error) => throw error
        | .ok proposal => do
          let value := proposal.toCommit codec actorId command (finalization command)
          let committed ← commitNext call proposal value nowMs nowMs
          if committed.duplicate then
            return .accepted committed.acknowledgement [] true
          else
            return .accepted value.acknowledgement proposal.events false

def handleSerial (authenticated : AuthenticatedRoomPlayer) (payload : RoomPayload false) :
    EStateM ServerError (HandlerState σ) RoomCommandHandlingResult :=
  handleWith codec call authenticated.playerId payload (playerDecision authenticated.playerId)
    (sessionFinalization codec authenticated)

def systemActorId : String := "system_timer"

def handleInternalSerial (payload : RoomPayload true) :
    EStateM ServerError (HandlerState σ) RoomCommandHandlingResult :=
  handleWith codec call systemActorId payload internalDecision fun _ => none

/-- The command that admits a player. -/
def admissionCommand (authenticated : AuthenticatedRoomPlayer) (state : RoomGameState) :
    RoomCommand :=
  ⟨admissionRequestId codec authenticated, state.stateVersion, .lifecycle .joinGame⟩

/-- Admit an authenticated player, unless they sit on their seat already. -/
def ensureAdmittedPlayerSerial (authenticated : AuthenticatedRoomPlayer) (joinedAtMs : ℤ) :
    EStateM ServerError (HandlerState σ) (List RoomEvent) := do
  let s ← get
  let state := s.handler.state
  if ¬ (IsSafeInteger joinedAtMs ∧ 0 ≤ joinedAtMs) then
    throw (invalidRoomCommand "Admission time is invalid")
  else if slotAt state.players authenticated.seatIndex = some authenticated.playerId then
    return []
  else
    match admissionLobby state authenticated, call.randomSource state.rng with
    | .error error, _ => throw error
    | .ok _, none => throw (invalidRoomCommand "Room random checkpoint cannot be resumed")
    | .ok lobby, some randomSource => do
      let command := admissionCommand codec authenticated state
      let replay ← onStore
        (call.store.findReplay s.handler.lease authenticated.playerId command call.storeMs)
      match replay with
      | some _ =>
        throw (invalidRoomCommand "Admission checkpoint is behind its committed command")
      | none =>
        let committedAtMs :=
          max (max joinedAtMs s.handler.committedAtMs) (committedTimestampFloor state)
        match admissionDecision authenticated lobby command joinedAtMs committedAtMs
            randomSource with
        | .error error => throw error
        | .ok proposal => do
          let value := proposal.toCommit codec authenticated.playerId command none
          let committed ← commitNext call proposal value call.storeMs committedAtMs
          if committed.duplicate then
            throw (invalidRoomCommand "Admission checkpoint did not restore a committed duplicate")
          else
            return proposal.events

end Calls

/-! ### The ways a call ends -/

/-- How a call ends, apart from the state it leaves. -/
inductive Ending
  | threw (error : ServerError)
  | rejected
  | accepted (acknowledgement : CommandAcknowledgement) (replayed : Bool)

/-- A recorded acknowledgement is passed on. -/
def Ending.PassesOn (acknowledgement : CommandAcknowledgement) (ending : Ending) : Prop :=
  ending = .accepted acknowledgement true

/-- A recorded acknowledgement is one too many. -/
def Ending.Throws (_ : CommandAcknowledgement) (ending : Ending) : Prop :=
  ∃ error, ending = .threw error

section Endings

variable {σ : Type} {codec : RoomCodec} {call : HandlerCall σ} {s s' : HandlerState σ}
  {ending : Ending}

/-- The ways a call of `actorId` ends that throws `refusals` of its own, has `asked` the store about
a command at a time, ends as `replies` says when the command is recorded, and else commits what is
`decided` on it. -/
inductive Handled (codec : RoomCodec) (call : HandlerCall σ) (actorId : String)
    (refusals : ServerError → Prop) (asked : RoomCommand → ℤ → Prop)
    (replies : CommandAcknowledgement → Ending → Prop)
    (decided : RoomCommand → ℤ → ℤ → Proposal → Prop)
    (finalization : RoomCommand → Option SessionFinalization) (s : HandlerState σ) :
    Ending → HandlerState σ → Prop
  | unasked (ending : Ending) : ending = .rejected ∨ (∃ error, refusals error ∧
        ending = .threw error) →
      Handled codec call actorId refusals asked replies decided finalization s ending s
  | replayThrew (command : RoomCommand) (storeMs : ℤ) (error : ServerError) (store : σ) :
      asked command storeMs →
      call.store.findReplay s.handler.lease actorId command storeMs s.store = .error error store →
      Handled codec call actorId refusals asked replies decided finalization s (.threw error)
        ⟨s.handler, store⟩
  | replayed (command : RoomCommand) (storeMs : ℤ) (acknowledgement : CommandAcknowledgement)
      (store : σ) (ending : Ending) : asked command storeMs →
      call.store.findReplay s.handler.lease actorId command storeMs s.store
        = .ok (some acknowledgement) store → replies acknowledgement ending →
      Handled codec call actorId refusals asked replies decided finalization s ending ⟨s.handler, store⟩
  | refused (command : RoomCommand) (storeMs : ℤ) (store : σ) (ending : Ending) :
      asked command storeMs →
      call.store.findReplay s.handler.lease actorId command storeMs s.store = .ok none store →
      ending = .rejected ∨ (∃ error, refusals error ∧ ending = .threw error) →
      Handled codec call actorId refusals asked replies decided finalization s ending ⟨s.handler, store⟩
  | commitThrew (command : RoomCommand) (storeMs committedAtMs : ℤ) (proposal : Proposal)
      (store store' : σ) (error : ServerError) : asked command storeMs →
      call.store.findReplay s.handler.lease actorId command storeMs s.store = .ok none store →
      decided command storeMs committedAtMs proposal →
      call.store.commit s.handler.lease
        (proposal.toCommit codec actorId command (finalization command)) storeMs store
        = .error error store' →
      Handled codec call actorId refusals asked replies decided finalization s (.threw error)
        ⟨s.handler, store'⟩
  | duplicate (command : RoomCommand) (storeMs committedAtMs : ℤ) (proposal : Proposal)
      (store store' : σ) (acknowledgement : CommandAcknowledgement) (ending : Ending) :
      asked command storeMs →
      call.store.findReplay s.handler.lease actorId command storeMs s.store = .ok none store →
      decided command storeMs committedAtMs proposal →
      call.store.commit s.handler.lease
        (proposal.toCommit codec actorId command (finalization command)) storeMs store
        = .ok ⟨acknowledgement, true⟩ store' → replies acknowledgement ending →
      Handled codec call actorId refusals asked replies decided finalization s ending ⟨s.handler, store'⟩
  | committed (command : RoomCommand) (storeMs committedAtMs : ℤ) (proposal : Proposal)
      (store store' : σ) (acknowledgement : CommandAcknowledgement) : asked command storeMs →
      call.store.findReplay s.handler.lease actorId command storeMs s.store = .ok none store →
      decided command storeMs committedAtMs proposal →
      call.store.commit s.handler.lease
        (proposal.toCommit codec actorId command (finalization command)) storeMs store
        = .ok ⟨acknowledgement, false⟩ store' →
      Handled codec call actorId refusals asked replies decided finalization s
        (.accepted (proposal.toCommit codec actorId command (finalization command)).acknowledgement
          false)
        ⟨{ s.handler with state := proposal.nextState, committedAtMs := committedAtMs }, store'⟩

/-- The ending of a handled command. -/
def handlingEnding : EStateM.Result ServerError (HandlerState σ) RoomCommandHandlingResult →
    Ending × HandlerState σ
  | .ok (.accepted acknowledgement _ replayed) s => (.accepted acknowledgement replayed, s)
  | .ok (.rejected _) s => (.rejected, s)
  | .error error s => (.threw error, s)

/-- The ending of an admission, which acknowledges nothing to anybody. -/
def admissionEnding : EStateM.Result ServerError (HandlerState σ) (List RoomEvent) →
    Ending × HandlerState σ
  | .ok _ s => (.rejected, s)
  | .error error s => (.threw error, s)

theorem get_bind {α : Type} {f : HandlerState σ → EStateM ServerError (HandlerState σ) α} :
    (get >>= f) s = f s s := rfl

theorem onStore_bind {α β : Type} {x : EStateM ServerError σ α}
    {f : α → EStateM ServerError (HandlerState σ) β} :
    (onStore x >>= f) s = match x s.store with
      | .ok a store => f a ⟨s.handler, store⟩
      | .error error store => .error error ⟨s.handler, store⟩ := by
  simp only [bind, EStateM.bind, onStore]
  cases x s.store with
  | ok a store => rfl
  | error error store => rfl

theorem commitNext_bind {α : Type} {proposal : Proposal} {value : CommandCommit}
    {storeMs committedAtMs : ℤ}
    {f : CommandCommitResult → EStateM ServerError (HandlerState σ) α} :
    (commitNext call proposal value storeMs committedAtMs >>= f) s =
      match call.store.commit s.handler.lease value storeMs s.store with
      | .error error store => .error error ⟨s.handler, store⟩
      | .ok ⟨acknowledgement, true⟩ store => f ⟨acknowledgement, true⟩ ⟨s.handler, store⟩
      | .ok ⟨acknowledgement, false⟩ store => f ⟨acknowledgement, false⟩
        ⟨{ s.handler with state := proposal.nextState, committedAtMs := committedAtMs }, store⟩ := by
  rw [commitNext, bind_assoc, get_bind, bind_assoc, onStore_bind]
  cases call.store.commit s.handler.lease value storeMs s.store with
  | error error store => rfl
  | ok result store =>
    obtain ⟨acknowledgement, duplicate⟩ := result
    cases duplicate <;> rfl

/-- What the handling of a command throws apart from the store: the payload has no request id, the
clock fails, or the decision throws. -/
def Refuses {internal : Bool} (call : HandlerCall σ) (payload : RoomPayload internal)
    (handler : RoomCommandHandler)
    (decide : RoomGameState → RoomCommand → ℤ → Option RandomSource → Except Refusal Proposal)
    (error : ServerError) : Prop :=
  payload.command = none ∨ commandTimestampMs handler call.clockMs = .error error ∨
    ∃ command nowMs, payload.command = some command ∧
      decide handler.state command nowMs (call.randomSource handler.state.rng)
        = .error (.thrown error)

theorem handleWith_handled {internal : Bool} {actorId : String} {payload : RoomPayload internal}
    {decide : RoomGameState → RoomCommand → ℤ → Option RandomSource → Except Refusal Proposal}
    {finalization : RoomCommand → Option SessionFinalization}
    (h : handlingEnding (handleWith codec call actorId payload decide finalization s)
      = (ending, s')) :
    Handled codec call actorId (Refuses call payload s.handler decide)
      (fun command storeMs => payload.command = some command ∧
        commandTimestampMs s.handler call.clockMs = .ok storeMs)
      Ending.PassesOn (fun command storeMs committedAtMs proposal => committedAtMs = storeMs ∧
        decide s.handler.state command storeMs (call.randomSource s.handler.state.rng)
          = .ok proposal)
      finalization s ending s' := by
  rw [handleWith, get_bind] at h
  cases hcommand : payload.command with
  | none =>
    cases hrequest : payload.requestId with
    | none =>
      simp only [hcommand, hrequest] at h
      cases h
      exact .unasked _ (.inr ⟨_, .inl hcommand, rfl⟩)
    | some requestId =>
      simp only [hcommand, hrequest] at h
      cases h
      exact .unasked _ (.inl rfl)
  | some command =>
    cases hnow : commandTimestampMs s.handler call.clockMs with
    | error error =>
      simp only [hcommand, hnow] at h
      cases h
      exact .unasked _ (.inr ⟨error, .inr (.inl hnow), rfl⟩)
    | ok nowMs =>
      simp only [hcommand, hnow, onStore_bind] at h
      cases hreplay : call.store.findReplay s.handler.lease actorId command nowMs s.store with
      | error error store =>
        simp only [hreplay] at h
        cases h
        exact .replayThrew command nowMs error store ⟨rfl, rfl⟩ hreplay
      | ok replay store =>
        cases replay with
        | some acknowledgement =>
          simp only [hreplay] at h
          cases h
          exact .replayed command nowMs acknowledgement store _ ⟨rfl, rfl⟩ hreplay rfl
        | none =>
          cases hdecide : decide s.handler.state command nowMs
              (call.randomSource s.handler.state.rng) with
          | error refusal =>
            cases refusal with
            | rejection error =>
              simp only [hreplay, hdecide] at h
              cases h
              exact .refused command nowMs store _ ⟨rfl, rfl⟩ hreplay (.inl rfl)
            | thrown error =>
              simp only [hreplay, hdecide] at h
              cases h
              exact .refused command nowMs store _ ⟨rfl, rfl⟩ hreplay
                (.inr ⟨error, .inr (.inr ⟨command, nowMs, hcommand, hdecide⟩), rfl⟩)
          | ok proposal =>
            simp only [hreplay, hdecide, commitNext_bind] at h
            have hdecided : nowMs = nowMs ∧
                decide s.handler.state command nowMs (call.randomSource s.handler.state.rng)
                  = .ok proposal :=
              ⟨rfl, hdecide⟩
            cases hcommit : call.store.commit s.handler.lease
                (proposal.toCommit codec actorId command (finalization command)) nowMs store with
            | error error store' =>
              simp only [hcommit] at h
              cases h
              exact .commitThrew command nowMs nowMs proposal store store' error ⟨rfl, rfl⟩ hreplay
                hdecided hcommit
            | ok result store' =>
              obtain ⟨acknowledgement, duplicate⟩ := result
              cases duplicate with
              | true =>
                simp only [hcommit] at h
                cases h
                exact .duplicate command nowMs nowMs proposal store store' acknowledgement _
                  ⟨rfl, rfl⟩ hreplay hdecided hcommit rfl
              | false =>
                simp only [hcommit] at h
                cases h
                exact .committed command nowMs nowMs proposal store store' acknowledgement
                  ⟨rfl, rfl⟩ hreplay hdecided hcommit

theorem handleSerial_handled {client : AuthenticatedRoomPlayer} {payload : RoomPayload false}
    (h : handlingEnding (handleSerial codec call client payload s) = (ending, s')) :
    Handled codec call client.playerId
      (Refuses call payload s.handler (playerDecision client.playerId))
      (fun command storeMs => payload.command = some command ∧
        commandTimestampMs s.handler call.clockMs = .ok storeMs)
      Ending.PassesOn (fun command storeMs committedAtMs proposal => committedAtMs = storeMs ∧
        playerDecision client.playerId s.handler.state command storeMs
          (call.randomSource s.handler.state.rng) = .ok proposal)
      (sessionFinalization codec client) s ending s' :=
  handleWith_handled h

/-- A command that has been committed is answered by its recorded acknowledgement. -/
theorem handleWith_replayed {internal : Bool} {actorId : String} {payload : RoomPayload internal}
    {decide : RoomGameState → RoomCommand → ℤ → Option RandomSource → Except Refusal Proposal}
    {finalization : RoomCommand → Option SessionFinalization} {command : RoomCommand} {nowMs : ℤ}
    {acknowledgement : CommandAcknowledgement} {store : σ}
    (hcommand : payload.command = some command)
    (hnow : commandTimestampMs s.handler call.clockMs = .ok nowMs)
    (hreplay : call.store.findReplay s.handler.lease actorId command nowMs s.store
      = .ok (some acknowledgement) store) :
    handleWith codec call actorId payload decide finalization s
      = .ok (.accepted acknowledgement [] true) ⟨s.handler, store⟩ := by
  rw [handleWith, get_bind]
  simp only [hcommand, hnow, onStore_bind, hreplay]
  rfl

/-- A command that is new to the store is answered once the decision on it is committed. -/
theorem handleWith_committed {internal : Bool} {actorId : String} {payload : RoomPayload internal}
    {decide : RoomGameState → RoomCommand → ℤ → Option RandomSource → Except Refusal Proposal}
    {finalization : RoomCommand → Option SessionFinalization} {command : RoomCommand} {nowMs : ℤ}
    {proposal : Proposal} {acknowledgement : CommandAcknowledgement} {store store' : σ}
    (hcommand : payload.command = some command)
    (hnow : commandTimestampMs s.handler call.clockMs = .ok nowMs)
    (hreplay : call.store.findReplay s.handler.lease actorId command nowMs s.store
      = .ok none store)
    (hdecide : decide s.handler.state command nowMs (call.randomSource s.handler.state.rng)
      = .ok proposal)
    (hcommit : call.store.commit s.handler.lease
      (proposal.toCommit codec actorId command (finalization command)) nowMs store
      = .ok ⟨acknowledgement, false⟩ store') :
    handleWith codec call actorId payload decide finalization s
      = .ok (.accepted (proposal.toCommit codec actorId command (finalization command)).acknowledgement
          proposal.events false)
        ⟨{ s.handler with state := proposal.nextState, committedAtMs := nowMs }, store'⟩ := by
  rw [handleWith, get_bind]
  simp only [hcommand, hnow, onStore_bind, hreplay, hdecide, commitNext_bind, hcommit]
  rfl

/-- An admission that is new to the store commits what is decided on it. -/
theorem ensureAdmittedPlayerSerial_committed {authenticated : AuthenticatedRoomPlayer}
    {joinedAtMs committedAtMs : ℤ} {lobby : GameState} {randomSource : RandomSource}
    {proposal : Proposal} {acknowledgement : CommandAcknowledgement} {store store' : σ}
    (htime : IsSafeInteger joinedAtMs ∧ 0 ≤ joinedAtMs)
    (hlobby : admissionLobby s.handler.state authenticated = .ok lobby)
    (hseat : slotAt s.handler.state.players authenticated.seatIndex
      ≠ some authenticated.playerId)
    (hsource : call.randomSource s.handler.state.rng = some randomSource)
    (hcommittedAt : committedAtMs =
      max (max joinedAtMs s.handler.committedAtMs) (committedTimestampFloor s.handler.state))
    (hreplay : call.store.findReplay s.handler.lease authenticated.playerId
      (admissionCommand codec authenticated s.handler.state) call.storeMs s.store
      = .ok none store)
    (hdecide : admissionDecision authenticated lobby
      (admissionCommand codec authenticated s.handler.state) joinedAtMs committedAtMs randomSource
      = .ok proposal)
    (hcommit : call.store.commit s.handler.lease (proposal.toCommit codec authenticated.playerId
      (admissionCommand codec authenticated s.handler.state) none) call.storeMs store
      = .ok ⟨acknowledgement, false⟩ store') :
    ensureAdmittedPlayerSerial codec call authenticated joinedAtMs s = .ok proposal.events
      ⟨{ s.handler with state := proposal.nextState, committedAtMs := committedAtMs }, store'⟩ := by
  subst hcommittedAt
  rw [ensureAdmittedPlayerSerial, get_bind]
  simp only [if_neg (not_not.2 htime), if_neg hseat, hlobby, hsource, onStore_bind, hreplay, hdecide,
    commitNext_bind, hcommit]
  rfl

/-- What an admission decides on. -/
structure Admits (call : HandlerCall σ)
    (authenticated : AuthenticatedRoomPlayer) (joinedAtMs : ℤ) (handler : RoomCommandHandler)
    (command : RoomCommand) (committedAtMs : ℤ) (proposal : Proposal) : Prop where
  committedAtMs_eq : committedAtMs =
    max (max joinedAtMs handler.committedAtMs) (committedTimestampFloor handler.state)
  decided : ∃ lobby randomSource, admissionLobby handler.state authenticated = .ok lobby ∧
    call.randomSource handler.state.rng = some randomSource ∧
    admissionDecision authenticated lobby command joinedAtMs committedAtMs randomSource
      = .ok proposal

/-- An admission commits the joining of the player, and acknowledges nothing else. -/
theorem ensureAdmittedPlayerSerial_handled {authenticated : AuthenticatedRoomPlayer}
    {joinedAtMs : ℤ}
    (h : (admissionEnding (ensureAdmittedPlayerSerial codec call authenticated joinedAtMs s)).2
      = s') : ∃ ending, Handled codec call authenticated.playerId (fun _ => True)
        (fun command storeMs => command = admissionCommand codec authenticated s.handler.state ∧
          storeMs = call.storeMs)
        Ending.Throws (fun command _ => Admits call authenticated joinedAtMs s.handler command) (fun _ => none)
        s ending s' := by
  rw [ensureAdmittedPlayerSerial, get_bind] at h
  have hunasked : ∃ ending, Handled codec call authenticated.playerId (fun _ => True)
      (fun command storeMs => command = admissionCommand codec authenticated s.handler.state ∧
        storeMs = call.storeMs)
      Ending.Throws (fun command _ => Admits call authenticated joinedAtMs s.handler command) (fun _ => none)
      s ending s :=
    ⟨.rejected, .unasked _ (.inl rfl)⟩
  by_cases htime : IsSafeInteger joinedAtMs ∧ 0 ≤ joinedAtMs
  · by_cases hseat : slotAt s.handler.state.players authenticated.seatIndex
        = some authenticated.playerId
    · simp only [if_neg (not_not.2 htime), if_pos hseat] at h
      cases h
      exact hunasked
    simp only [if_neg (not_not.2 htime), if_neg hseat] at h
    cases hlobby : admissionLobby s.handler.state authenticated with
    | error error =>
      simp only [hlobby] at h
      cases h
      exact hunasked
    | ok lobby =>
      cases hsource : call.randomSource s.handler.state.rng with
      | none =>
        simp only [hlobby, hsource] at h
        cases h
        exact hunasked
      | some randomSource =>
        simp only [hlobby, hsource, onStore_bind] at h
        cases hreplay : call.store.findReplay s.handler.lease authenticated.playerId
            (admissionCommand codec authenticated s.handler.state) call.storeMs s.store with
        | error error store =>
          simp only [hreplay] at h
          cases h
          exact ⟨_, .replayThrew _ call.storeMs error store ⟨rfl, rfl⟩ hreplay⟩
        | ok replay store =>
          cases replay with
          | some acknowledgement =>
            simp only [hreplay] at h
            cases h
            exact ⟨_, .replayed _ call.storeMs acknowledgement store _ ⟨rfl, rfl⟩ hreplay
              ⟨invalidRoomCommand "Admission checkpoint is behind its committed command", rfl⟩⟩
          | none =>
            cases hdecide : admissionDecision authenticated lobby
                (admissionCommand codec authenticated s.handler.state) joinedAtMs
                (max (max joinedAtMs s.handler.committedAtMs)
                  (committedTimestampFloor s.handler.state)) randomSource with
            | error error =>
              simp only [hreplay, hdecide] at h
              cases h
              exact ⟨.rejected, .refused _ call.storeMs store _ ⟨rfl, rfl⟩ hreplay (.inl rfl)⟩
            | ok proposal =>
              have hadmits : Admits call authenticated joinedAtMs s.handler
                  (admissionCommand codec authenticated s.handler.state) _ proposal :=
                ⟨rfl, lobby, randomSource, hlobby, hsource, hdecide⟩
              simp only [hreplay, hdecide, commitNext_bind] at h
              cases hcommit : call.store.commit s.handler.lease (proposal.toCommit codec
                  authenticated.playerId (admissionCommand codec authenticated s.handler.state)
                  none) call.storeMs store with
              | error error store' =>
                simp only [hcommit] at h
                cases h
                exact ⟨_, .commitThrew _ _ _ proposal store store' error ⟨rfl, rfl⟩ hreplay hadmits
                  hcommit⟩
              | ok result store' =>
                obtain ⟨acknowledgement, duplicate⟩ := result
                cases duplicate with
                | true =>
                  simp only [hcommit] at h
                  cases h
                  exact ⟨_, .duplicate _ _ _ proposal store store' acknowledgement _ ⟨rfl, rfl⟩
                    hreplay hadmits hcommit ⟨invalidRoomCommand
                      "Admission checkpoint did not restore a committed duplicate", rfl⟩⟩
                | false =>
                  simp only [hcommit] at h
                  cases h
                  exact ⟨_, .committed _ _ _ proposal store store' acknowledgement ⟨rfl, rfl⟩ hreplay
                    hadmits hcommit⟩
  · simp only [if_pos htime] at h
    cases h
    exact hunasked

end Endings

end Pootown.Server
