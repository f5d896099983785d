import Mathlib.Tactic
import Pootown.Server.ServedState

/-!
# The game room

A room takes the messages of its clients one after the other. A start, a leave and a cancellation
close a gate before they are handled: until the API has confirmed them, other messages and new
clients are refused.

* `GameRoom`: the handler with its store, and the gates;
* `refusal`, `close`: the check a message starts with, and the gate it closes;
* `process`: the handling of a message up to its reply; `confirm`: its confirmation by the API;
  `caught`: what becomes of the room when the handling throws.
-/

namespace Pootown.Server

structure PendingStartPublication where
  requestId : String
  events : List RoomEvent

structure PendingSessionFinalization where
  action : FinalizationAction
  events : List RoomEvent
  playerId : String
  requestId : String

structure GameRoom where
  core : HandlerState Realtime
  starting : Bool
  pendingStartPublication : Option PendingStartPublication
  pendingSessionFinalization : Option PendingSessionFinalization
  authenticationsInFlight : ℕ
  leaseLost : Bool
  locked : Bool

/-- A command message of an authenticated client. -/
structure RoomMessage where
  client : AuthenticatedRoomPlayer
  payload : RoomPayload false

def isStartGame : RoomCommandBody → Bool
  | .lifecycle .startGame => true
  | _ => false

def RoomMessage.startsGame (message : RoomMessage) : Bool :=
  message.payload.command.any fun command => isStartGame command.body

def RoomMessage.finalizationAction (message : RoomMessage) : Option FinalizationAction :=
  message.payload.command.bind expectedFinalization

def RoomMessage.requestId (message : RoomMessage) : Option String :=
  message.payload.command.map RoomCommand.requestId

/-- What a room sends to the client of a message. -/
inductive RoomReply
  | error (code : ℕ) (message : String)
  | rejected (rejection : CommandRejection)
  | acknowledged (acknowledgement : CommandAcknowledgement) (events : List RoomEvent)
  | reconnecting
  | leaseLost

namespace GameRoom

/-- New clients are let in while neither gate is closed. -/
def admits (room : GameRoom) : Bool :=
  !room.starting && room.pendingSessionFinalization.isNone

/-- The pending finalization is the message's own. -/
def Awaits (pending : PendingSessionFinalization) (message : RoomMessage) : Prop :=
  message.finalizationAction = some pending.action ∧ pending.playerId = message.client.playerId ∧
    message.requestId = some pending.requestId

instance (pending : PendingSessionFinalization) (message : RoomMessage) :
    Decidable (Awaits pending message) :=
  inferInstanceAs (Decidable (_ ∧ _ ∧ _))

/-- Why a message is refused before it is handled, with code 4503. -/
def refusal (room : GameRoom) (message : RoomMessage) : Option String :=
  if room.starting = true ∧ ¬ (message.startsGame = true ∧
      room.pendingStartPublication.map PendingStartPublication.requestId = message.requestId) then
    some "Room start is awaiting API confirmation"
  else if ∃ pending ∈ room.pendingSessionFinalization, ¬ Awaits pending message then
    some "Room lifecycle command is awaiting API confirmation"
  else none

/-- Close the gate of a message. -/
def close (room : GameRoom) (message : RoomMessage) : GameRoom :=
  { room with
    starting := room.starting || message.startsGame
    pendingSessionFinalization := room.pendingSessionFinalization.orElse fun _ =>
      message.finalizationAction.map fun action =>
        ⟨action, [], message.client.playerId, message.requestId.getD ""⟩ }

/-- The handling of a message failed after its command was handed on: the client has to wait. -/
def pend (room : GameRoom) (message : RoomMessage) : RoomReply × GameRoom :=
  (.reconnecting,
    { room with
      locked := room.locked || (!message.startsGame && message.finalizationAction.isNone) })

/-- The handling of a message threw. -/
def caught (room : GameRoom) (message : RoomMessage) (error : ServerError) :
    RoomReply × GameRoom :=
  match error.name with
  | .roomLeaseUnavailable => (.leaseLost, { room with leaseLost := true, locked := true })
  | .invalidRoomCommand => (.error 4400 "Room command is invalid",
      { room with
        starting := room.starting &&
          !(message.startsGame && room.pendingStartPublication.isNone) })
  | _ => room.pend message

/-- Have an accepted leave or cancellation finalized by the API, whose call succeeds or not. -/
def finalize (room : GameRoom) (message : RoomMessage) (action : FinalizationAction)
    (confirms : Bool) (acknowledgement : CommandAcknowledgement) (events : List RoomEvent)
    (replayed : Bool) : RoomReply × GameRoom :=
  let pending := if replayed then room.pendingSessionFinalization
    else some ⟨action, events, message.client.playerId, acknowledgement.requestId⟩
  let published := if replayed then
      ((pending.filter fun pending => pending.requestId = acknowledgement.requestId).map
        PendingSessionFinalization.events).getD events
    else events
  if confirms then
    (.acknowledged acknowledgement published, { room with pendingSessionFinalization := none })
  else { room with pendingSessionFinalization := pending }.pend message

/-- Have an accepted start confirmed by the API, whose call succeeds or not. -/
def markStarted (room : GameRoom) (message : RoomMessage) (confirms : Bool)
    (acknowledgement : CommandAcknowledgement) (events : List RoomEvent) (replayed : Bool) :
    RoomReply × GameRoom :=
  let pending := if replayed then room.pendingStartPublication
    else some ⟨acknowledgement.requestId, events⟩
  let published := if replayed then
      ((pending.filter fun pending => pending.requestId = acknowledgement.requestId).map
        PendingStartPublication.events).getD events
    else events
  if confirms then
    (.acknowledged acknowledgement published,
      { room with starting := false, pendingStartPublication := none })
  else { room with pendingStartPublication := pending }.pend message

/-- What the API has to confirm of an accepted command. -/
def confirm (room : GameRoom) (message : RoomMessage) (confirms : Bool)
    (acknowledgement : CommandAcknowledgement) (events : List RoomEvent) (replayed : Bool) :
    RoomReply × GameRoom :=
  match message.finalizationAction with
  | some action => room.finalize message action confirms acknowledgement events replayed
  | none =>
    if message.startsGame then room.markStarted message confirms acknowledgement events replayed
    else (.acknowledged acknowledgement events, room)

/-- The handling of a message whose gate is closed. -/
def process (codec : RoomCodec) (outside : CallSurroundings) (confirms : Bool) (room : GameRoom)
    (message : RoomMessage) : RoomReply × GameRoom :=
  match handleSerial codec (outside.call codec) message.client message.payload room.core with
  | .error error core => { room with core := core }.caught message error
  | .ok (.rejected rejection) core =>
    (.rejected rejection, { room with
      core := core
      starting := room.starting && !message.startsGame
      pendingSessionFinalization :=
        if message.finalizationAction.isSome then none else room.pendingSessionFinalization })
  | .ok (.accepted acknowledgement events replayed) core =>
    { room with core := core }.confirm message confirms acknowledgement events replayed

end GameRoom

end Pootown.Server
