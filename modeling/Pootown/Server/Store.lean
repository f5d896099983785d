import Mathlib.Tactic
import Pootown.Library.Transactions
import Pootown.Server.RoomCommands

/-!
# The realtime store

The tables a game server keeps its rooms in, and the transactions on them. Each transaction starts
by locking the row of the room's lease, so that the transactions on one room take effect one after
the other; `now` is the time given by the caller, or the clock of the database.

* `Realtime`: the tables;
* `acquire`, `renew`, `assertOwned`, `release`: the lease of a room, with its fencing token;
* `initializeCheckpoint`, `saveCheckpoint`, `loadCheckpoint`: its checkpoint;
* `findReplay`, `commit`: its commands;
* `markConnected`, `markAllOffline`: its presence.
-/

namespace Pootown.Server

open Transactions

/-! ### Rows -/

structure LeaseRow where
  gameSessionId : String
  instanceId : String
  leaseUntil : ℤ
  fencingToken : ℕ
  updatedAt : ℤ

structure CheckpointRow where
  gameSessionId : String
  stateVersion : ℤ
  fencingToken : ℕ
  checksum : String
  serializedState : String
  updatedAt : ℤ

/-- A room's command, by player and request; two spellings of one UUID are one key. -/
structure CommandKey where
  roomId : String
  playerId : String
  requestId : String
  deriving DecidableEq

def commandKey (roomId playerId requestId : String) : CommandKey :=
  ⟨roomId, playerId, requestId.toLower⟩

theorem commandKey_ne {room room' actor actor' request request' : String}
    (h : (room, actor) ≠ (room', actor')) :
    commandKey room actor request ≠ commandKey room' actor' request' := by
  intro heq
  simp only [commandKey, CommandKey.mk.injEq] at heq
  exact h (Prod.ext heq.1 heq.2.1)

theorem commandKey_ne_of_length {roomId playerId requestId requestId' : String}
    (h : requestId.length ≠ requestId'.length) :
    commandKey roomId playerId requestId ≠ commandKey roomId playerId requestId' := by
  intro heq
  have hlength := congrArg (fun key => key.requestId.length) heq
  have hlower : ∀ text : String, text.toLower.length = text.length :=
    fun _ => String.length_map
  simp only [commandKey, hlower] at hlength
  exact h hlength

structure CommandRow where
  expectedStateVersion : ℤ
  committedStateVersion : ℤ
  requestHash : String
  acknowledgement : CommandAcknowledgement
  createdAt : ℤ

structure EventRow where
  roomId : String
  stateVersion : ℤ
  event : RoomEvent
  occurredAt : ℤ

structure ProofRow where
  roomId : String
  stateVersion : ℤ
  checkpointChecksum : String
  winnerPlayerId : String
  endReason : TerminalEndReason
  committedAt : ℤ

inductive FinalizationAction
  | leave | cancel
  deriving DecidableEq

structure FinalizationRow where
  gameSessionId : String
  reservationId : String
  action : FinalizationAction
  idempotencyKey : String
  createdAt : ℤ

/-- The presence of a room: since when nobody is connected, and when it may be aborted for that. -/
structure PresenceRow where
  gameSessionId : String
  fencingToken : ℕ
  allOfflineAt : Option ℤ
  abortDeadlineAt : Option ℤ
  updatedAt : ℤ
  deadline_eq : abortDeadlineAt = allOfflineAt.map (· + 120000)

/-- The tables, by primary key; `sessions` is the room of every session, in the schema of the API. -/
structure Realtime where
  sessions : Table String String
  leases : Table String LeaseRow
  checkpoints : Table String CheckpointRow
  commands : Table CommandKey CommandRow
  events : Table String EventRow
  proofs : Table String ProofRow
  finalizations : Table CommandKey FinalizationRow
  presence : Table String PresenceRow

/-- What the store takes from elsewhere: the digest, and the version a snapshot is parsed to. -/
structure Codec where
  sha256 : String → String
  snapshotVersion : String → Option ℤ

def constraintError (constraint : String) : ServerError := ⟨.database, constraint⟩

/-! ### Leases -/

/-- A lease as its owner holds it. -/
structure RoomLease where
  fencingToken : ℕ
  gameId : String
  instanceId : String
  leaseUntil : ℤ
  roomId : String

/-- The row of `lease` is still its owner's, and live at `now`. -/
abbrev Owned (db : Realtime) (lease : RoomLease) (now : ℤ) : Prop :=
  ∃ row ∈ db.leases lease.roomId, row.gameSessionId = lease.gameId ∧
    row.instanceId = lease.instanceId ∧ row.fencingToken = lease.fencingToken ∧
    now < row.leaseUntil

def assertOwned (lease : RoomLease) (now : ℤ) : Tx Realtime ServerError Unit := do
  let db ← read
  check (Owned db lease now) ⟨.roomLeaseUnavailable, "Room lease is stale or expired"⟩

/-- Presence under a new token: a room nobody has reported offline is so since the lease ended. -/
def PresenceRow.takeOver (row : PresenceRow) (fencingToken : ℕ) (leaseUntil now : ℤ) :
    PresenceRow where
  gameSessionId := row.gameSessionId
  fencingToken := fencingToken
  allOfflineAt := some (row.allOfflineAt.getD leaseUntil)
  abortDeadlineAt := some (row.abortDeadlineAt.getD (leaseUntil + 120000))
  updatedAt := now
  deadline_eq := by
    rw [row.deadline_eq]
    cases row.allOfflineAt <;> rfl

/-- Carry a new token into the checkpoint and the presence of a room. -/
def moveToken (roomId : String) (fencingToken : ℕ) (leaseUntil now : ℤ) (db : Realtime) :
    Realtime :=
  { db with
    checkpoints := Function.update db.checkpoints roomId
      ((db.checkpoints roomId).map fun row => { row with fencingToken := fencingToken })
    presence := Function.update db.presence roomId
      ((db.presence roomId).map fun row => row.takeOver fencingToken leaseUntil now) }

def setLease (roomId : String) (row : LeaseRow) (db : Realtime) : Realtime :=
  { db with leases := Function.update db.leases roomId (some row) }

def acquire (ownerId : String) (leaseDurationMs : ℤ) (roomId gameId : String) (now : ℤ) :
    Tx Realtime ServerError RoomLease := do
  let db ← read
  let leaseUntil := now + leaseDurationMs
  match db.leases roomId with
  | none =>
    check ((db.sessions gameId).isSome = true) (constraintError "room_leases_game_session_id_fkey")
    write (setLease roomId ⟨gameId, ownerId, leaseUntil, 1, now⟩)
    return ⟨1, gameId, ownerId, leaseUntil, roomId⟩
  | some current =>
    check (current.gameSessionId = gameId)
      ⟨.roomLeaseUnavailable, "Room is bound to a different game session"⟩
    check (current.instanceId = ownerId ∨ current.leaseUntil ≤ now)
      ⟨.roomLeaseUnavailable, "Room lease is held by another instance"⟩
    let continuingLiveLease := current.instanceId = ownerId ∧ now < current.leaseUntil
    let fencingToken :=
      if continuingLiveLease then current.fencingToken else current.fencingToken + 1
    if fencingToken ≠ current.fencingToken then
      write (moveToken roomId fencingToken current.leaseUntil now)
    write (setLease roomId ⟨gameId, ownerId, leaseUntil, fencingToken, now⟩)
    return ⟨fencingToken, gameId, ownerId, leaseUntil, roomId⟩

/-- The row of `lease`, when game, owner and token still match. -/
def matchingLease (db : Realtime) (lease : RoomLease) : Option LeaseRow :=
  (db.leases lease.roomId).filter fun row => row.gameSessionId = lease.gameId ∧
    row.instanceId = lease.instanceId ∧ row.fencingToken = lease.fencingToken

def renew (lease : RoomLease) (leaseDurationMs now : ℤ) : Tx Realtime ServerError RoomLease := do
  assertOwned lease now
  let db ← read
  let leaseUntil := now + leaseDurationMs
  match matchingLease db lease with
  | some row => write (setLease lease.roomId { row with leaseUntil := leaseUntil, updatedAt := now })
  | none => pure ()
  return { lease with leaseUntil := leaseUntil }

def release (lease : RoomLease) (now : ℤ) : Tx Realtime ServerError Bool := do
  let db ← read
  match (matchingLease db lease).filter fun row => now < row.leaseUntil with
  | some row =>
    write (setLease lease.roomId { row with leaseUntil := now, updatedAt := now })
    return true
  | none => return false

/-! ### Checkpoints -/

structure RoomCheckpoint where
  checksum : String
  fencingToken : ℕ
  serializedState : String
  stateVersion : ℤ
  updatedAt : ℤ

def corruptCheckpoint (message : String) : ServerError := ⟨.corruptCheckpoint, message⟩

def checkpointConflict (message : String) : ServerError := ⟨.checkpointConflict, message⟩

def validateCheckpointSnapshot (codec : Codec) (serializedState : String) (stateVersion : ℤ) :
    Tx Realtime ServerError Unit := do
  check (0 < serializedState.utf8ByteSize ∧ serializedState.utf8ByteSize ≤ 1048576)
    (corruptCheckpoint "Checkpoint size is invalid")
  let parsed ← checkSome (codec.snapshotVersion serializedState)
    (corruptCheckpoint "Checkpoint is not a supported complete game snapshot")
  check (parsed = stateVersion)
    (corruptCheckpoint "Checkpoint state version does not match storage revision")

/-- Read a stored checkpoint back, checking it whole. -/
def parseRow (codec : Codec) (row : CheckpointRow) : Tx Realtime ServerError RoomCheckpoint := do
  check (IsSafeInteger row.stateVersion ∧ 0 ≤ row.stateVersion)
    (corruptCheckpoint "Checkpoint payload is malformed")
  validateCheckpointSnapshot codec row.serializedState row.stateVersion
  check (row.checksum = codec.sha256 row.serializedState)
    (corruptCheckpoint "Checkpoint checksum does not match payload")
  return ⟨row.checksum, row.fencingToken, row.serializedState, row.stateVersion, row.updatedAt⟩

def setCheckpoint (roomId : String) (row : CheckpointRow) (db : Realtime) : Realtime :=
  { db with checkpoints := Function.update db.checkpoints roomId (some row) }

def initializeCheckpoint (codec : Codec) (lease : RoomLease) (stateVersion : ℤ) (serializedState : String)
    (now : ℤ) : Tx Realtime ServerError RoomCheckpoint := do
  validateCheckpointSnapshot codec serializedState stateVersion
  check (IsSafeInteger stateVersion ∧ 0 ≤ stateVersion)
    (corruptCheckpoint "Checkpoint state version is invalid")
  assertOwned lease now
  let db ← read
  check ((db.checkpoints lease.roomId).isNone = true)
    (checkpointConflict "Room checkpoint already exists")
  let row : CheckpointRow := ⟨lease.gameId, stateVersion, lease.fencingToken,
    codec.sha256 serializedState, serializedState, now⟩
  write (setCheckpoint lease.roomId row)
  parseRow codec row

/-- The checkpoint of a room, when it carries the game and the token of `lease`. -/
def leasedCheckpoint (db : Realtime) (lease : RoomLease) : Option CheckpointRow :=
  (db.checkpoints lease.roomId).filter fun row => row.gameSessionId = lease.gameId ∧
    row.fencingToken = lease.fencingToken

def saveCheckpoint (codec : Codec) (lease : RoomLease) (expectedStateVersion stateVersion : ℤ)
    (serializedState : String) (now : ℤ) : Tx Realtime ServerError RoomCheckpoint := do
  validateCheckpointSnapshot codec serializedState stateVersion
  check (IsSafeInteger expectedStateVersion ∧ 0 ≤ expectedStateVersion ∧
      IsSafeInteger stateVersion ∧ expectedStateVersion < stateVersion)
    (checkpointConflict "Checkpoint version transition is invalid")
  assertOwned lease now
  let db ← read
  let row ← checkSome
    ((leasedCheckpoint db lease).filter fun row => row.stateVersion = expectedStateVersion)
    (checkpointConflict "Checkpoint state version is stale")
  let row' : CheckpointRow := { row with
    stateVersion := stateVersion
    checksum := codec.sha256 serializedState
    serializedState := serializedState
    updatedAt := now }
  write (setCheckpoint lease.roomId row')
  parseRow codec row'

def loadCheckpoint (codec : Codec) (lease : RoomLease) (now : ℤ) :
    Tx Realtime ServerError (Option RoomCheckpoint) := do
  assertOwned lease now
  let db ← read
  match leasedCheckpoint db lease with
  | none => return none
  | some row => do
    let checkpoint ← parseRow codec row
    return some checkpoint

/-! ### Commands -/

structure TerminalProof where
  endReason : TerminalEndReason
  winnerPlayerId : String

structure SessionFinalization where
  action : FinalizationAction
  idempotencyKey : String
  reservationId : String

structure CommandCommit where
  acknowledgement : CommandAcknowledgement
  events : List RoomEvent
  playerId : String
  command : RoomCommand
  serializedState : String
  stateVersion : ℤ
  terminalProof : Option TerminalProof
  sessionFinalization : Option SessionFinalization

structure CommandCommitResult where
  acknowledgement : CommandAcknowledgement
  duplicate : Bool

def commitConflict (message : String) : ServerError := ⟨.commandCommitConflict, message⟩

def idempotencyConflict : ServerError :=
  ⟨.commandIdempotencyConflict, "Command request ID was reused with different content"⟩

def requestHash (codec : Codec) (command : RoomCommand) : String :=
  codec.sha256 command.canonicalJson

/-- The acknowledgement stored for a command, if any; another command under its key is refused. -/
def storedResponse (codec : Codec) (roomId playerId : String) (command : RoomCommand) :
    Tx Realtime ServerError (Option CommandAcknowledgement) := do
  let db ← read
  match db.commands (commandKey roomId playerId command.requestId) with
  | none => return none
  | some prior =>
    check (prior.requestHash = requestHash codec command) idempotencyConflict
    return some prior.acknowledgement

def findReplay (codec : Codec) (lease : RoomLease) (playerId : String) (command : RoomCommand)
    (now : ℤ) : Tx Realtime ServerError (Option CommandAcknowledgement) := do
  check (validOpaqueId playerId = true) ⟨.validation, "playerId"⟩
  assertOwned lease now
  storedResponse codec lease.roomId playerId command

def expectedFinalization (command : RoomCommand) : Option FinalizationAction :=
  match command.body with
  | .lifecycle .leaveGame => some .leave
  | .lifecycle .cancelGame => some .cancel
  | _ => none

/-- The pattern of idempotency keys. -/
def validIdempotencyKey (value : String) : Bool :=
  match value.toList with
  | [] => false
  | c :: cs => decide (cs.length + 1 ≤ 128) && c.isAlphanum &&
    cs.all fun c => c.isAlphanum || c == '.' || c == '_' || c == ':' || c == '-'

/-- The versions and the event ids of a commit agree with its command. -/
abbrev ConsistentCommit (value : CommandCommit) : Prop :=
  value.stateVersion = value.command.expectedStateVersion + 1 ∧
  value.acknowledgement.requestId = value.command.requestId ∧
  value.acknowledgement.stateVersion = value.stateVersion ∧
  (∀ event ∈ value.events, event.stateVersion = value.stateVersion) ∧
  value.acknowledgement.eventIds = value.events.map RoomEvent.eventId

def checkCommit (codec : Codec) (value : CommandCommit) : Tx Realtime ServerError Unit := do
  check (validOpaqueId value.playerId = true) ⟨.validation, "playerId"⟩
  check (value.acknowledgement.eventIds.length ≤ 32) ⟨.validation, "eventIds"⟩
  check (expectedFinalization value.command ≠ none → value.sessionFinalization.isSome = true)
    (commitConflict "Session finalization is required for the lifecycle command")
  check (∀ finalization ∈ value.sessionFinalization,
      expectedFinalization value.command = some finalization.action)
    (commitConflict "Session finalization does not match the command")
  check (ConsistentCommit value)
    (commitConflict "Command result versions or events are inconsistent")
  validateCheckpointSnapshot codec value.serializedState value.stateVersion

def insertEvent (roomId : String) (now : ℤ) (event : RoomEvent) : Tx Realtime ServerError Unit :=
  insertRow Realtime.events (fun table db => { db with events := table }) event.eventId
    ⟨roomId, event.stateVersion, event, now⟩ (constraintError "room_events_pkey")

def insertProof (lease : RoomLease) (stateVersion : ℤ) (digest : String) (now : ℤ)
    (proof : TerminalProof) : Tx Realtime ServerError Unit := do
  check (validOpaqueId proof.winnerPlayerId = true) ⟨.validation, "winnerPlayerId"⟩
  let db ← read
  check (db.sessions lease.gameId = some lease.roomId)
    (constraintError "terminal_proofs_game_session_id_room_id_fkey")
  insertRow Realtime.proofs (fun table db => { db with proofs := table }) lease.gameId
    ⟨lease.roomId, stateVersion, digest, proof.winnerPlayerId, proof.endReason, now⟩
    (constraintError "terminal_proofs_pkey")

def insertFinalization (lease : RoomLease) (key : CommandKey) (now : ℤ)
    (finalization : SessionFinalization) : Tx Realtime ServerError Unit := do
  check (validOpaqueId finalization.reservationId = true) ⟨.validation, "reservationId"⟩
  check (validIdempotencyKey finalization.idempotencyKey = true) ⟨.validation, "idempotencyKey"⟩
  insertRow Realtime.finalizations (fun table db => { db with finalizations := table }) key
    ⟨lease.gameId, finalization.reservationId, finalization.action, finalization.idempotencyKey, now⟩
    (constraintError "session_finalizations_pkey")

/-- The inserts of a commit whose checkpoint has been moved on. -/
def recordCommit (codec : Codec) (lease : RoomLease) (value : CommandCommit) (now : ℤ) :
    Tx Realtime ServerError Unit := do
  let key := commandKey lease.roomId value.playerId value.command.requestId
  value.events.forM (insertEvent lease.roomId now)
  value.terminalProof.toList.forM
    (insertProof lease value.stateVersion (codec.sha256 value.serializedState) now)
  insertRow Realtime.commands (fun table db => { db with commands := table }) key
    ⟨value.command.expectedStateVersion, value.stateVersion, requestHash codec value.command,
      value.acknowledgement, now⟩ (constraintError "room_commands_pkey")
  value.sessionFinalization.toList.forM (insertFinalization lease key now)

def commit (codec : Codec) (lease : RoomLease) (value : CommandCommit) (now : ℤ) :
    Tx Realtime ServerError CommandCommitResult := do
  checkCommit codec value
  assertOwned lease now
  let prior ← storedResponse codec lease.roomId value.playerId value.command
  match prior with
  | some acknowledgement => return ⟨acknowledgement, true⟩
  | none => do
    let db ← read
    match (leasedCheckpoint db lease).filter fun row =>
        row.stateVersion = value.command.expectedStateVersion with
    | none => do
      let concurrent ← storedResponse codec lease.roomId value.playerId value.command
      let acknowledgement ← checkSome concurrent (commitConflict "Checkpoint revision is stale")
      return ⟨acknowledgement, true⟩
    | some row =>
      write (setCheckpoint lease.roomId { row with
        stateVersion := value.stateVersion
        checksum := codec.sha256 value.serializedState
        serializedState := value.serializedState
        updatedAt := now })
      recordCommit codec lease value now
      return ⟨value.acknowledgement, false⟩

/-! ### Presence -/

def setPresence (roomId : String) (row : PresenceRow) (db : Realtime) : Realtime :=
  { db with presence := Function.update db.presence roomId (some row) }

/-- Somebody is connected; since when nobody was. -/
def markConnected (lease : RoomLease) (now : ℤ) : Tx Realtime ServerError (Option ℤ) := do
  assertOwned lease now
  let db ← read
  let previous := db.presence lease.roomId
  write (setPresence lease.roomId ⟨lease.gameId, lease.fencingToken, none, none, now, rfl⟩)
  return previous.bind PresenceRow.allOfflineAt

/-- Nobody is connected, since an earlier report of it or since `now`. -/
def PresenceRow.offline (lease : RoomLease) (previous : Option PresenceRow) (now : ℤ) :
    PresenceRow where
  gameSessionId := lease.gameId
  fencingToken := lease.fencingToken
  allOfflineAt := some ((previous.bind PresenceRow.allOfflineAt).getD now)
  abortDeadlineAt := some ((previous.bind PresenceRow.abortDeadlineAt).getD (now + 120000))
  updatedAt := now
  deadline_eq := by
    cases previous with
    | none => rfl
    | some row =>
      show some ((row.abortDeadlineAt).getD (now + 120000)) = _
      rw [row.deadline_eq]
      cases hoffline : row.allOfflineAt <;> simp [hoffline]

def markAllOffline (lease : RoomLease) (now : ℤ) : Tx Realtime ServerError (Option ℤ) := do
  assertOwned lease now
  check (IsSafeInteger (now + 120000)) ⟨.database, "Reconnect deadline overflowed"⟩
  let db ← read
  let row := PresenceRow.offline lease (db.presence lease.roomId) now
  write (setPresence lease.roomId row)
  return row.abortDeadlineAt

end Pootown.Server
