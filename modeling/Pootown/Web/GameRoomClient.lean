import Mathlib.Tactic
import Pootown.Library.Tables
import Pootown.Model.Primitives
import Pootown.Server.RoomCommands

/-!
# The room client of the web application

One `GameRoomClient`, the transports it has opened, and everything that can happen between two of
its awaits.

* `GameRoomClient`: the fields of the class; `ClientWorld`: with it the connect calls, what its
  handlers were told, and how its commands were settled;
* `connect`, `send`, `disconnect`, and the continuations of `connect` at each of its awaits;
* `stateChanged`, `messageArrived`, `errorRaised`, `roomLeft`: the events of a transport;
* `step`: one of them at a time, in any order.

A transport is named by the generation of the connect call that opened it.  What a handler calls
back runs before anything else does.  In `connect` more follows the handler, and the steps are cut
around it; `terminateProtocol` has only its leave to follow, which no call looks at.
-/

namespace Pootown.Web

open Server Tables

/-! ### The wire -/

structure RoomAdmissionOptions where
  contractVersion : ℕ
  gameId : String
  ticket : String

/-- A synchronised room state; a field is missing until the first snapshot has arrived. -/
structure RoomWireState where
  publicStateJson : Option String
  stateVersion : Option ℤ

/-- What a server tells a client; `υ` are the values no schema has looked at. -/
inductive ServerMessage (υ : Type)
  | ack (acknowledgement : CommandAcknowledgement)
  | reject (rejection : CommandRejection)
  | other (message : υ)

/-- The schemas of the contracts; `σ` are the public states, of a lobby or of a game. -/
structure WireSchemas (υ σ : Type) where
  admissionOptions : υ → Option RoomAdmissionOptions
  roomCommand : υ → Option RoomCommand
  serverMessage : υ → Option (ServerMessage υ)
  /-- `JSON.parse`, and the first schema that takes the result. -/
  publicState : String → Option σ
  stateVersion : σ → ℤ

/-- What a client sends over a transport. -/
inductive ClientMessage
  | privateSync
  | command (command : RoomCommand)

/-- A room as the connector hands it over, and what has become of it. -/
structure RoomTransport where
  /-- The server has closed it, or the connection broke. -/
  left : Bool := false
  toldToLeave : Bool := false
  /-- The client has registered its four handlers. -/
  listening : Bool := false
  sent : List ClientMessage := []

/-! ### The client -/

inductive ConnectError
  | alreadyConnected | invalidOptions | connectorFailed | cancelled | stateInvalid
  | stateUnavailable
  deriving DecidableEq

/-- The text of the errors the client makes itself. -/
def ConnectError.text : ConnectError → Option String
  | .alreadyConnected => some "Room client is already connected"
  | .cancelled => some "Room connection was cancelled"
  | .stateInvalid => some "Room state is invalid"
  | .stateUnavailable => some "Room state is unavailable"
  | .invalidOptions => none
  | .connectorFailed => none

inductive SendError
  | notConnected | invalidCommand | alreadyPending
  deriving DecidableEq

/-- How far an admitted connect call has come. -/
inductive ConnectPhase (σ : Type)
  /-- The connector is pending. -/
  | connecting
  /-- Asleep before the given attempt to read the first state. -/
  | awaitingState (attempt : ℕ)
  /-- The wait is over; the call has not gone on yet. -/
  | stateAwaited (result : Except ConnectError σ)
  /-- `onState` is running with the first state. -/
  | publishing (state : σ)
  /-- The call fails once the room has been left. -/
  | leaving (error : ConnectError)
  | resolved (state : σ)
  | rejected (error : ConnectError)

/-- A connect call the client has admitted, under its generation. -/
structure Connection (σ : Type) where
  generation : ℕ
  options : RoomAdmissionOptions
  phase : ConnectPhase σ
  transport : Option RoomTransport

/-- How the promise of a command was settled. -/
inductive Settlement
  | acknowledged (acknowledgement : CommandAcknowledgement)
  | rejected (rejection : CommandRejection)
  | transportError (code : ℤ)
  | protocolInvalid
  | disconnected

inductive HandlerCall (υ σ : Type)
  | onState (state : σ)
  | onMessage (message : ServerMessage υ)
  | onTransportError (code : ℤ)
  | onUnexpectedDisconnect (code : ℤ)
  | onProtocolError

structure GameRoomClient where
  connectingGeneration : Option ℕ := none
  generation : ℕ := 0
  /-- The room, by the generation of its transport. -/
  room : Option ℕ := none
  /-- The pending commands in the order they were sent, one for each request id. -/
  pending : List RoomCommand := []

/-- The client, its connect calls, what the handlers were told on behalf of which transport, and
the settled commands. -/
structure ClientWorld (υ σ : Type) extends GameRoomClient where
  connections : List (Connection σ) := []
  notified : List (ℕ × HandlerCall υ σ) := []
  settled : List (String × Settlement) := []

section Client

variable {υ σ : Type} (schemas : WireSchemas υ σ) (world : ClientWorld υ σ) (generation : ℕ)

def parsePublicState (wire : RoomWireState) : Option σ := do
  let state ← wire.publicStateJson.bind schemas.publicState
  if wire.stateVersion = some (schemas.stateVersion state) then some state else none

def wireStateAvailable (wire : RoomWireState) : Bool :=
  wire.publicStateJson.isSome &&
    wire.stateVersion.any fun version => decide (IsSafeInteger version ∧ 0 ≤ version)

/-- The loop of `waitForInitialPublicState` from the given attempt to its next await. -/
def waitForInitialPublicState (wire : RoomWireState) (attempt : ℕ) : ConnectPhase σ :=
  if attempt < 100 then
    if wireStateAvailable wire then
      .stateAwaited (match parsePublicState schemas wire with
        | some state => .ok state
        | none => .error .stateInvalid)
    else .awaitingState (attempt + 1)
  else .stateAwaited (.error .stateUnavailable)

/-! ### Reading and writing the world -/

def ClientWorld.connection? : Option (Connection σ) :=
  world.connections.find? fun connection => connection.generation = generation

def ClientWorld.updateConnection (update : Connection σ → Connection σ) : ClientWorld υ σ :=
  { world with
    connections := updateWhere (fun connection => connection.generation = generation) update
      world.connections }

def Connection.withPhase (phase : ConnectPhase σ) (connection : Connection σ) : Connection σ :=
  { connection with phase := phase }

def Connection.withTransport (update : RoomTransport → RoomTransport)
    (connection : Connection σ) : Connection σ :=
  { connection with transport := connection.transport.map update }

/-- `room.leave(true)` -/
def RoomTransport.tellToLeave (transport : RoomTransport) : RoomTransport :=
  { transport with toldToLeave := true }

/-- `room.send(message)` for each of the messages. -/
def RoomTransport.sendAll (messages : List ClientMessage) (transport : RoomTransport) :
    RoomTransport :=
  { transport with sent := transport.sent ++ messages }

def ClientWorld.notify (call : HandlerCall υ σ) : ClientWorld υ σ :=
  { world with notified := world.notified ++ [(generation, call)] }

def isActive : Bool :=
  decide (world.room = some generation ∧ world.generation = generation)

def rejectPending (settlement : Settlement) : ClientWorld υ σ :=
  { world with
    pending := []
    settled := world.settled ++
      world.pending.map fun command => (command.requestId, settlement) }

/-- Settle one command, if it is pending. -/
def settle (requestId : String) (settlement : Settlement) : Option (ClientWorld υ σ) :=
  if world.pending.any fun command => command.requestId = requestId then
    some { world with
      pending := world.pending.filter fun command => command.requestId ≠ requestId
      settled := world.settled ++ [(requestId, settlement)] }
  else none

def terminateProtocol : ClientWorld υ σ :=
  if isActive world generation then
    ((rejectPending { world with
        room := none
        generation := world.generation + 1 } .protocolInvalid).notify generation
          .onProtocolError).updateConnection generation
      (Connection.withTransport RoomTransport.tellToLeave)
  else world

/-! ### Calls -/

/-- `connect` up to its first await. -/
def connect (rawOptions : υ) : Except ConnectError (ClientWorld υ σ) :=
  if world.room ≠ none ∨ world.connectingGeneration ≠ none then .error .alreadyConnected
  else match schemas.admissionOptions rawOptions with
    | none => .error .invalidOptions
    | some options => .ok { world with
        generation := world.generation + 1
        connectingGeneration := some (world.generation + 1)
        connections := world.connections ++
          [⟨world.generation + 1, options, .connecting, none⟩] }

def send (rawCommand : υ) : Except SendError (ClientWorld υ σ) :=
  match world.room with
  | none => .error .notConnected
  | some room => match schemas.roomCommand rawCommand with
    | none => .error .invalidCommand
    | some command =>
      if world.pending.any fun pending => pending.requestId = command.requestId then
        .error .alreadyPending
      else .ok (({ world with pending := world.pending ++ [command] }).updateConnection room
        (Connection.withTransport (RoomTransport.sendAll [.command command])))

def disconnect : ClientWorld υ σ :=
  let cleared := rejectPending { world with
    generation := world.generation + 1
    connectingGeneration := none
    room := none } .disconnected
  match world.room with
  | none => cleared
  | some room =>
    cleared.updateConnection room (Connection.withTransport RoomTransport.tellToLeave)

/-! ### The continuations of a connect call -/

/-- The `finally` around the connector. -/
def clearConnecting : ClientWorld υ σ :=
  if world.connectingGeneration = some generation then
    { world with connectingGeneration := none }
  else world

/-- The connector hands over a room in the state of `wire`. -/
def connectorResolved (wire : RoomWireState) : ClientWorld υ σ :=
  (clearConnecting world generation).updateConnection generation fun connection =>
    if generation ≠ world.generation then
      { connection with
        phase := .leaving .cancelled
        transport := some { toldToLeave := true } }
    else
      { connection with
        phase := waitForInitialPublicState schemas wire 0
        transport := some {} }

def connectorFailed : ClientWorld υ σ :=
  (clearConnecting world generation).updateConnection generation
    (Connection.withPhase (.rejected .connectorFailed))

/-- The wait is over: take the room over and publish its state, or leave it. -/
def waitOver (result : Except ConnectError σ) : ClientWorld υ σ :=
  match result with
  | .error error => world.updateConnection generation fun connection =>
      (connection.withTransport RoomTransport.tellToLeave).withPhase (.leaving error)
  | .ok state =>
    (({ world with room := some generation }).notify generation
      (.onState state)).updateConnection generation fun connection =>
        (connection.withTransport fun transport =>
          { transport with listening := true }).withPhase (.publishing state)

/-- `onState` has returned: ask for the private view and send what is pending again. -/
def statePublished (state : σ) : ClientWorld υ σ :=
  world.updateConnection generation fun connection =>
    if isActive world generation then
      (connection.withTransport (RoomTransport.sendAll
        (.privateSync :: world.pending.map .command))).withPhase (.resolved state)
    else connection.withPhase (.rejected .cancelled)

/-! ### The events of a transport -/

def stateChanged (wire : RoomWireState) : ClientWorld υ σ :=
  if isActive world generation then
    match parsePublicState schemas wire with
    | some state => world.notify generation (.onState state)
    | none => terminateProtocol world generation
  else world

def handleMessage (rawMessage : υ) : ClientWorld υ σ :=
  match schemas.serverMessage rawMessage with
  | none => terminateProtocol world generation
  | some message =>
    let settled := match message with
      | .ack acknowledgement =>
        settle world acknowledgement.requestId (.acknowledged acknowledgement)
      | .reject rejection => settle world rejection.requestId (.rejected rejection)
      | .other _ => some world
    match settled with
    | none => world
    | some settled => settled.notify generation (.onMessage message)

def messageArrived (rawMessage : υ) : ClientWorld υ σ :=
  if isActive world generation then handleMessage schemas world generation rawMessage else world

def errorRaised (code : ℤ) : ClientWorld υ σ :=
  if isActive world generation then
    (rejectPending world (.transportError code)).notify generation (.onTransportError code)
  else world

def roomLeft (code : ℤ) : ClientWorld υ σ :=
  if isActive world generation then
    ({ world with room := none, generation := world.generation + 1 }).notify generation
      (.onUnexpectedDisconnect code)
  else world

inductive TransportEvent (υ : Type)
  | state (wire : RoomWireState)
  | message (rawMessage : υ)
  | error (code : ℤ)
  | leave (code : ℤ)

/-- What the handler registered for an event does. -/
def handleEvent : TransportEvent υ → ClientWorld υ σ
  | .state wire => stateChanged schemas world generation wire
  | .message rawMessage => messageArrived schemas world generation rawMessage
  | .error code => errorRaised world generation code
  | .leave code => roomLeft world generation code

/-- What an event does to its transport. -/
def RoomTransport.afterEvent (transport : RoomTransport) : TransportEvent υ → RoomTransport
  | .leave _ => { transport with left := true }
  | _ => transport

/-! ### One step -/

inductive ClientAction (υ : Type)
  | connect (rawOptions : υ)
  | send (rawCommand : υ)
  | disconnect
  | connectorResolves (generation : ℕ) (wire : RoomWireState)
  | connectorFails (generation : ℕ)
  /-- Ten milliseconds have passed, and the room is in the state of `wire`. -/
  | attempt (generation : ℕ) (wire : RoomWireState)
  | waitEnds (generation : ℕ)
  | onStateReturns (generation : ℕ)
  | leaveSettles (generation : ℕ)
  | event (generation : ℕ) (event : TransportEvent υ)

/-- Whether a connect call is inside `onState`. -/
def ConnectPhase.isPublishing : ConnectPhase σ → Bool
  | .publishing _ => true
  | _ => false

/-- The connect call that can go on: while a handler runs, nothing else does. -/
def ClientWorld.ready : Option (Connection σ) :=
  if world.connections.any fun connection => connection.phase.isPublishing then none
  else world.connection? generation

/-- One thing happens; none where it cannot. -/
def step : ClientAction υ → Option (ClientWorld υ σ)
  | .connect rawOptions => some ((connect schemas world rawOptions).toOption.getD world)
  | .send rawCommand => some ((send schemas world rawCommand).toOption.getD world)
  | .disconnect => some (disconnect world)
  | .connectorResolves generation wire => do
    let connection ← world.ready generation
    match connection.phase with
    | .connecting => some (connectorResolved schemas world generation wire)
    | _ => none
  | .connectorFails generation => do
    let connection ← world.ready generation
    match connection.phase with
    | .connecting => some (connectorFailed world generation)
    | _ => none
  | .attempt generation wire => do
    let connection ← world.ready generation
    match connection.phase with
    | .awaitingState attempt => some (world.updateConnection generation
        (Connection.withPhase (waitForInitialPublicState schemas wire attempt)))
    | _ => none
  | .waitEnds generation => do
    let connection ← world.ready generation
    match connection.phase with
    | .stateAwaited result => some (waitOver world generation result)
    | _ => none
  | .onStateReturns generation => do
    let connection ← world.connection? generation
    match connection.phase with
    | .publishing state => some (statePublished world generation state)
    | _ => none
  | .leaveSettles generation => do
    let connection ← world.ready generation
    match connection.phase with
    | .leaving error => some (world.updateConnection generation
        (Connection.withPhase (.rejected error)))
    | _ => none
  | .event generation event => do
    let connection ← world.ready generation
    let transport ← connection.transport
    let world := world.updateConnection generation
      (Connection.withTransport fun transport => transport.afterEvent event)
    if transport.listening then some (handleEvent schemas world generation event)
    else some world

end Client

end Pootown.Web
