import Mathlib.Tactic
import Pootown.Library.Runs
import Pootown.Server.Store

/-!
# Calls of the store

What each transaction of the store has done when it returns, and runs of calls by any number of
servers.

* the `_eq_ok` lemmas: the effect of every transaction;
* `committed`: the tables after a commit;
* `StoreCall`, `StoreStep`: a call that returned, as a step; a call that fails changes nothing.
-/

namespace Pootown.Server

open Transactions

variable {codec : Codec} {db db' : Realtime} {lease : RoomLease} {now : ℤ}

/-! ### Leases -/

theorem assertOwned_eq_ok {u : Unit} :
    assertOwned lease now db = .ok (u, db') ↔ Owned db lease now ∧ db' = db := by
  simp only [assertOwned, read_bind, check_eq_ok]

theorem assertOwned_bind_eq_ok {β : Type} {f : Unit → Tx Realtime ServerError β}
    {r : β × Realtime} :
    (assertOwned lease now >>= f) db = .ok r ↔ Owned db lease now ∧ f () db = .ok r := by
  simp only [assertOwned, bind_bind, read_bind, check_bind_eq_ok]

/-- What an acquisition that returned has done: it found no lease, it prolonged the caller's own,
or it took a lease over under the next token. -/
inductive Acquired (db : Realtime) (ownerId roomId gameId : String) (leaseUntil now : ℤ) :
    ℕ → Realtime → Prop
  | first : db.leases roomId = none →
      Acquired db ownerId roomId gameId leaseUntil now 1
        (setLease roomId ⟨gameId, ownerId, leaseUntil, 1, now⟩ db)
  | again (current : LeaseRow) : db.leases roomId = some current →
      current.gameSessionId = gameId → current.instanceId = ownerId →
      Acquired db ownerId roomId gameId leaseUntil now current.fencingToken
        (setLease roomId ⟨gameId, ownerId, leaseUntil, current.fencingToken, now⟩ db)
  | takenOver (current : LeaseRow) : db.leases roomId = some current →
      current.gameSessionId = gameId →
      Acquired db ownerId roomId gameId leaseUntil now (current.fencingToken + 1)
        (setLease roomId ⟨gameId, ownerId, leaseUntil, current.fencingToken + 1, now⟩
          (moveToken roomId (current.fencingToken + 1) current.leaseUntil now db))

theorem acquire_acquired {ownerId roomId gameId : String} {leaseDurationMs : ℤ} {l : RoomLease}
    (h : acquire ownerId leaseDurationMs roomId gameId now db = .ok (l, db')) :
    ∃ token, l = ⟨token, gameId, ownerId, now + leaseDurationMs, roomId⟩ ∧
      Acquired db ownerId roomId gameId (now + leaseDurationMs) now token db' := by
  simp only [acquire, read_bind] at h
  cases hcurrent : db.leases roomId with
  | none =>
    simp only [hcurrent, check_bind_eq_ok, write_bind, pure_eq_ok] at h
    obtain ⟨-, rfl, rfl⟩ := h
    exact ⟨1, rfl, .first hcurrent⟩
  | some current =>
    simp only [hcurrent, check_bind_eq_ok] at h
    obtain ⟨hgame, howner, h⟩ := h
    by_cases hlive : current.instanceId = ownerId ∧ now < current.leaseUntil
    · simp only [if_pos hlive, ne_eq, not_true_eq_false, if_false, write_bind, pure_eq_ok] at h
      obtain ⟨rfl, rfl⟩ := h
      exact ⟨_, rfl, .again current hcurrent hgame hlive.1⟩
    · simp only [if_neg hlive, ne_eq, Nat.succ_ne_self, not_false_eq_true, if_true, write_bind,
        pure_eq_ok] at h
      obtain ⟨rfl, rfl⟩ := h
      exact ⟨_, rfl, .takenOver current hcurrent hgame⟩

theorem matchingLease_of_owned (h : Owned db lease now) :
    ∃ row, db.leases lease.roomId = some row ∧ row.gameSessionId = lease.gameId ∧
      row.instanceId = lease.instanceId ∧ row.fencingToken = lease.fencingToken ∧
      matchingLease db lease = some row := by
  obtain ⟨row, hmem, hgame, howner, htoken, -⟩ := h
  have hrow : db.leases lease.roomId = some row := hmem
  exact ⟨row, hrow, hgame, howner, htoken, by simp [matchingLease, hrow, hgame, howner, htoken]⟩

theorem renew_eq_ok {leaseDurationMs : ℤ} {l : RoomLease} :
    renew lease leaseDurationMs now db = .ok (l, db') ↔ Owned db lease now ∧
      l = { lease with leaseUntil := now + leaseDurationMs } ∧
      db' = setLease lease.roomId
        ⟨lease.gameId, lease.instanceId, now + leaseDurationMs, lease.fencingToken, now⟩ db := by
  simp only [renew, assertOwned_bind_eq_ok, read_bind, and_congr_right_iff]
  intro howned
  obtain ⟨row, hrow, hgame, howner, htoken, hmatch⟩ := matchingLease_of_owned howned
  simp only [hmatch, write_bind, pure_eq_ok, hgame, howner, htoken]
  exact ⟨fun ⟨h, h'⟩ => ⟨h.symm, h'.symm⟩, fun ⟨h, h'⟩ => ⟨h.symm, h'.symm⟩⟩

theorem release_eq_ok {b : Bool} (h : release lease now db = .ok (b, db')) :
    db' = db ∨ db' = setLease lease.roomId
      ⟨lease.gameId, lease.instanceId, now, lease.fencingToken, now⟩ db ∧
      Owned db lease now := by
  simp only [release, read_bind] at h
  cases hmatch : (matchingLease db lease).filter fun row => now < row.leaseUntil with
  | none =>
    simp only [hmatch, pure_eq_ok] at h
    exact .inl h.2.symm
  | some row =>
    simp only [hmatch, write_bind, pure_eq_ok] at h
    simp only [matchingLease, Option.filter_eq_some_iff, decide_eq_true_eq] at hmatch
    obtain ⟨⟨hrow, hgame, howner, htoken⟩, hlive⟩ := hmatch
    refine .inr ⟨?_, row, hrow, hgame, howner, htoken, hlive⟩
    rw [← h.2, hgame, howner, htoken]

/-! ### Checkpoints -/

/-- A snapshot of admissible size that is parsed to `stateVersion`. -/
def ValidSnapshot (codec : Codec) (serializedState : String) (stateVersion : ℤ) : Prop :=
  (0 < serializedState.utf8ByteSize ∧ serializedState.utf8ByteSize ≤ 1048576) ∧
    codec.snapshotVersion serializedState = some stateVersion

theorem validate_bind_eq_ok {serializedState : String} {stateVersion : ℤ} {β : Type}
    {f : Unit → Tx Realtime ServerError β} {r : β × Realtime} :
    (validateCheckpointSnapshot codec serializedState stateVersion >>= f) db = .ok r ↔
      ValidSnapshot codec serializedState stateVersion ∧ f () db = .ok r := by
  simp only [validateCheckpointSnapshot, bind_bind, check_bind_eq_ok, checkSome_bind_eq_ok,
    ValidSnapshot, and_assoc]
  constructor
  · rintro ⟨hsize, hbound, _, hparsed, rfl, hf⟩
    exact ⟨hsize, hbound, hparsed, hf⟩
  · rintro ⟨hsize, hbound, hparsed, hf⟩
    exact ⟨hsize, hbound, _, hparsed, rfl, hf⟩

theorem parseRow_eq_ok {row : CheckpointRow} {checkpoint : RoomCheckpoint} :
    parseRow codec row db = .ok (checkpoint, db') ↔
      (IsSafeInteger row.stateVersion ∧ 0 ≤ row.stateVersion) ∧
      ValidSnapshot codec row.serializedState row.stateVersion ∧
      row.checksum = codec.sha256 row.serializedState ∧
      checkpoint = ⟨row.checksum, row.fencingToken, row.serializedState, row.stateVersion,
        row.updatedAt⟩ ∧ db' = db := by
  simp only [parseRow, check_bind_eq_ok, validate_bind_eq_ok, pure_eq_ok]
  constructor
  · rintro ⟨hsafe, hvalid, hsum, rfl, rfl⟩
    exact ⟨hsafe, hvalid, hsum, rfl, rfl⟩
  · rintro ⟨hsafe, hvalid, hsum, rfl, rfl⟩
    exact ⟨hsafe, hvalid, hsum, rfl, rfl⟩

/-- The row a snapshot is stored as under `lease`. -/
def snapshotRow (codec : Codec) (lease : RoomLease) (stateVersion : ℤ) (serializedState : String)
    (now : ℤ) : CheckpointRow :=
  ⟨lease.gameId, stateVersion, lease.fencingToken, codec.sha256 serializedState, serializedState,
    now⟩

theorem leasedCheckpoint_eq_some {row : CheckpointRow} :
    leasedCheckpoint db lease = some row ↔ db.checkpoints lease.roomId = some row ∧
      row.gameSessionId = lease.gameId ∧ row.fencingToken = lease.fencingToken := by
  simp [leasedCheckpoint, Option.filter_eq_some_iff]

theorem initializeCheckpoint_ok {stateVersion : ℤ} {serializedState : String}
    {checkpoint : RoomCheckpoint}
    (h : initializeCheckpoint codec lease stateVersion serializedState now db
      = .ok (checkpoint, db')) :
    Owned db lease now ∧ db.checkpoints lease.roomId = none ∧
      db' = setCheckpoint lease.roomId
        (snapshotRow codec lease stateVersion serializedState now) db := by
  simp only [initializeCheckpoint, validate_bind_eq_ok, check_bind_eq_ok, assertOwned_bind_eq_ok,
    read_bind, write_bind, parseRow_eq_ok] at h
  obtain ⟨-, -, howned, hnone, -, -, -, -, rfl⟩ := h
  exact ⟨howned, Option.isNone_iff_eq_none.1 hnone, rfl⟩

theorem saveCheckpoint_ok {expectedStateVersion stateVersion : ℤ} {serializedState : String}
    {checkpoint : RoomCheckpoint}
    (h : saveCheckpoint codec lease expectedStateVersion stateVersion serializedState now db
      = .ok (checkpoint, db')) :
    Owned db lease now ∧ (∃ row, leasedCheckpoint db lease = some row) ∧
      db' = setCheckpoint lease.roomId
        (snapshotRow codec lease stateVersion serializedState now) db := by
  simp only [saveCheckpoint, validate_bind_eq_ok, check_bind_eq_ok, assertOwned_bind_eq_ok,
    read_bind, checkSome_bind_eq_ok, write_bind, parseRow_eq_ok,
    Option.filter_eq_some_iff] at h
  obtain ⟨-, -, howned, row, ⟨hrow, -⟩, -, -, -, -, rfl⟩ := h
  obtain ⟨-, hgame, htoken⟩ := leasedCheckpoint_eq_some.1 hrow
  refine ⟨howned, ⟨row, hrow⟩, ?_⟩
  simp only [snapshotRow, ← hgame, ← htoken]

theorem loadCheckpoint_ok {checkpoint : Option RoomCheckpoint}
    (h : loadCheckpoint codec lease now db = .ok (checkpoint, db')) :
    Owned db lease now ∧ db' = db := by
  simp only [loadCheckpoint, assertOwned_bind_eq_ok, read_bind] at h
  obtain ⟨howned, h⟩ := h
  refine ⟨howned, ?_⟩
  cases hrow : leasedCheckpoint db lease with
  | none =>
    simp only [hrow, pure_eq_ok] at h
    exact h.2.symm
  | some row =>
    simp only [hrow, bind_eq_ok, parseRow_eq_ok, pure_eq_ok] at h
    obtain ⟨_, _, ⟨-, -, -, -, rfl⟩, -, rfl⟩ := h
    rfl

/-! ### Commands -/

theorem storedResponse_eq_ok {roomId playerId : String} {command : RoomCommand}
    {response : Option CommandAcknowledgement} :
    storedResponse codec roomId playerId command db = .ok (response, db') ↔ db' = db ∧
      ((db.commands (commandKey roomId playerId command.requestId) = none ∧ response = none) ∨
        ∃ prior, db.commands (commandKey roomId playerId command.requestId) = some prior ∧
          prior.requestHash = requestHash codec command ∧
          response = some prior.acknowledgement) := by
  simp only [storedResponse, read_bind]
  cases hprior : db.commands (commandKey roomId playerId command.requestId) with
  | none =>
    simp only [pure_eq_ok, true_and, reduceCtorEq, false_and, exists_false, or_false]
    exact ⟨fun h => ⟨h.2.symm, h.1.symm⟩, fun h => ⟨h.2.symm, h.1.symm⟩⟩
  | some prior =>
    simp only [check_bind_eq_ok, pure_eq_ok, reduceCtorEq, false_and, false_or, Option.some.injEq]
    constructor
    · rintro ⟨hhash, rfl, rfl⟩
      exact ⟨rfl, prior, rfl, hhash, rfl⟩
    · rintro ⟨rfl, _, rfl, hhash, rfl⟩
      exact ⟨hhash, rfl, rfl⟩

theorem findReplay_eq_ok {playerId : String} {command : RoomCommand}
    {replay : Option CommandAcknowledgement} :
    findReplay codec lease playerId command now db = .ok (replay, db') ↔
      validOpaqueId playerId = true ∧ Owned db lease now ∧
      storedResponse codec lease.roomId playerId command db = .ok (replay, db') := by
  simp only [findReplay, check_bind_eq_ok, assertOwned_bind_eq_ok]

/-- The events of a commit, in the table of events. -/
def addEvents (roomId : String) (now : ℤ) (events : List RoomEvent)
    (table : Table String EventRow) : Table String EventRow :=
  events.foldl (fun table event =>
    Function.update table event.eventId (some ⟨roomId, event.stateVersion, event, now⟩)) table

theorem insertEvents_eq_ok {roomId : String} {events : List RoomEvent} {u : PUnit} :
    (events.forM (insertEvent roomId now)) db = .ok (u, db') ↔
      ((events.map RoomEvent.eventId).Nodup ∧ ∀ event ∈ events, db.events event.eventId = none) ∧
        db' = { db with events := addEvents roomId now events db.events } := by
  induction events generalizing db with
  | nil =>
    show (pure PUnit.unit : Tx Realtime ServerError PUnit) db = .ok (u, db') ↔ _
    rw [pure_eq_ok]
    simp [addEvents, eq_comm]
  | cons event rest ih =>
    show (insertEvent roomId now event >>= fun _ => rest.forM (insertEvent roomId now)) db = _ ↔ _
    simp only [bind_eq_ok, insertEvent, insertRow_eq_ok, ih, List.map_cons, List.nodup_cons,
      List.forall_mem_cons]
    constructor
    · rintro ⟨_, _, ⟨hfirst, rfl⟩, ⟨hnodup, hrest⟩, rfl⟩
      have hnotin : event.eventId ∉ rest.map RoomEvent.eventId := by
        intro hmem
        obtain ⟨other, hother, heq⟩ := List.mem_map.1 hmem
        have hnone := hrest other hother
        simp [heq] at hnone
      refine ⟨⟨⟨hnotin, hnodup⟩, hfirst, fun other hother => ?_⟩, rfl⟩
      have hne : other.eventId ≠ event.eventId :=
        fun heq => hnotin (List.mem_map.2 ⟨other, hother, heq⟩)
      simpa [Function.update_of_ne hne] using hrest other hother
    · rintro ⟨⟨⟨hnotin, hnodup⟩, hfirst, hrest⟩, rfl⟩
      refine ⟨(), _, ⟨hfirst, rfl⟩, ⟨hnodup, fun other hother => ?_⟩, rfl⟩
      have hne : other.eventId ≠ event.eventId :=
        fun heq => hnotin (List.mem_map.2 ⟨other, hother, heq⟩)
      simpa [Function.update_of_ne hne] using hrest other hother

/-- The proof of a commit, in the table of proofs. -/
def addProof (codec : Codec) (lease : RoomLease) (value : CommandCommit) (now : ℤ)
    (table : Table String ProofRow) : Table String ProofRow :=
  match value.terminalProof with
  | none => table
  | some proof => Function.update table lease.gameId (some ⟨lease.roomId, value.stateVersion,
      codec.sha256 value.serializedState, proof.winnerPlayerId, proof.endReason, now⟩)

/-- The finalization of a commit, in the table of finalizations. -/
def addFinalization (lease : RoomLease) (value : CommandCommit) (now : ℤ)
    (table : Table CommandKey FinalizationRow) : Table CommandKey FinalizationRow :=
  match value.sessionFinalization with
  | none => table
  | some finalization => Function.update table
      (commandKey lease.roomId value.playerId value.command.requestId)
      (some ⟨lease.gameId, finalization.reservationId, finalization.action,
        finalization.idempotencyKey, now⟩)

/-- The row of a command that commits. -/
def commandRow (codec : Codec) (value : CommandCommit) (now : ℤ) : CommandRow :=
  ⟨value.command.expectedStateVersion, value.stateVersion, requestHash codec value.command,
    value.acknowledgement, now⟩

/-- The tables after a commit. -/
def committed (codec : Codec) (lease : RoomLease) (value : CommandCommit) (now : ℤ)
    (db : Realtime) : Realtime :=
  { db with
    checkpoints := Function.update db.checkpoints lease.roomId
      (some (snapshotRow codec lease value.stateVersion value.serializedState now))
    commands := Function.update db.commands
      (commandKey lease.roomId value.playerId value.command.requestId)
      (some (commandRow codec value now))
    events := addEvents lease.roomId now value.events db.events
    proofs := addProof codec lease value now db.proofs
    finalizations := addFinalization lease value now db.finalizations }

theorem committed_commands_of_ne {value : CommandCommit} {key : CommandKey}
    (h : key ≠ commandKey lease.roomId value.playerId value.command.requestId) :
    (committed codec lease value now db).commands key = db.commands key :=
  Function.update_of_ne h _ _

/-- What the constraints of the tables ask of the rows of a commit. -/
structure Recordable (db : Realtime) (lease : RoomLease) (value : CommandCommit) : Prop where
  events_nodup : (value.events.map RoomEvent.eventId).Nodup
  events_new : ∀ event ∈ value.events, db.events event.eventId = none
  proof : ∀ proof ∈ value.terminalProof, validOpaqueId proof.winnerPlayerId = true ∧
    db.sessions lease.gameId = some lease.roomId ∧ db.proofs lease.gameId = none
  command : db.commands (commandKey lease.roomId value.playerId value.command.requestId) = none
  finalization : ∀ finalization ∈ value.sessionFinalization,
    validOpaqueId finalization.reservationId = true ∧
    validIdempotencyKey finalization.idempotencyKey = true ∧
    db.finalizations (commandKey lease.roomId value.playerId value.command.requestId) = none

theorem insertProofs_eq_ok {value : CommandCommit} {u : PUnit} :
    (value.terminalProof.toList.forM (insertProof lease value.stateVersion
        (codec.sha256 value.serializedState) now)) db = .ok (u, db') ↔
      (∀ proof ∈ value.terminalProof, validOpaqueId proof.winnerPlayerId = true ∧
        db.sessions lease.gameId = some lease.roomId ∧ db.proofs lease.gameId = none) ∧
      db' = { db with proofs := addProof codec lease value now db.proofs } := by
  unfold addProof
  simp only [toList_forM_eq_ok, insertProof, check_bind_eq_ok, read_bind, insertRow_eq_ok]
  cases value.terminalProof with
  | none => simp
  | some proof => simp [and_assoc]

theorem insertFinalizations_eq_ok {value : CommandCommit} {u : PUnit} :
    (value.sessionFinalization.toList.forM (insertFinalization lease
        (commandKey lease.roomId value.playerId value.command.requestId) now)) db = .ok (u, db') ↔
      (∀ finalization ∈ value.sessionFinalization,
        validOpaqueId finalization.reservationId = true ∧
        validIdempotencyKey finalization.idempotencyKey = true ∧
        db.finalizations (commandKey lease.roomId value.playerId value.command.requestId) = none) ∧
      db' = { db with finalizations := addFinalization lease value now db.finalizations } := by
  unfold addFinalization
  simp only [toList_forM_eq_ok, insertFinalization, check_bind_eq_ok, insertRow_eq_ok]
  cases value.sessionFinalization with
  | none => simp
  | some finalization => simp [and_assoc]

theorem recordCommit_eq_ok {value : CommandCommit} {u : Unit} :
    recordCommit codec lease value now db = .ok (u, db') ↔ Recordable db lease value ∧
      db' = { db with
        commands := Function.update db.commands
          (commandKey lease.roomId value.playerId value.command.requestId)
          (some (commandRow codec value now))
        events := addEvents lease.roomId now value.events db.events
        proofs := addProof codec lease value now db.proofs
        finalizations := addFinalization lease value now db.finalizations } := by
  simp only [recordCommit, bind_eq_ok, insertEvents_eq_ok, insertProofs_eq_ok, insertRow_eq_ok,
    insertFinalizations_eq_ok]
  constructor
  · rintro ⟨_, _, ⟨⟨hnodup, hnew⟩, rfl⟩, _, _, ⟨hproof, rfl⟩, _, _, ⟨hcommand, rfl⟩, hfinal, rfl⟩
    exact ⟨⟨hnodup, hnew, hproof, hcommand, hfinal⟩, rfl⟩
  · rintro ⟨⟨hnodup, hnew, hproof, hcommand, hfinal⟩, rfl⟩
    exact ⟨(), _, ⟨⟨hnodup, hnew⟩, rfl⟩, (), _, ⟨hproof, rfl⟩, (), _, ⟨hcommand, rfl⟩, hfinal, rfl⟩

/-- What a commit is checked for before the store is touched. -/
structure CheckedCommit (codec : Codec) (value : CommandCommit) : Prop where
  player : validOpaqueId value.playerId = true
  eventIds : value.acknowledgement.eventIds.length ≤ 32
  required : expectedFinalization value.command ≠ none → value.sessionFinalization.isSome = true
  matching : ∀ finalization ∈ value.sessionFinalization,
    expectedFinalization value.command = some finalization.action
  consistent : ConsistentCommit value
  snapshot : ValidSnapshot codec value.serializedState value.stateVersion

theorem checkCommit_bind_eq_ok {value : CommandCommit} {β : Type}
    {f : Unit → Tx Realtime ServerError β} {r : β × Realtime} :
    (checkCommit codec value >>= f) db = .ok r ↔ CheckedCommit codec value ∧ f () db = .ok r := by
  simp only [checkCommit, bind_bind, check_bind_eq_ok, validateCheckpointSnapshot,
    checkSome_bind_eq_ok]
  constructor
  · rintro ⟨hplayer, hids, hrequired, hmatching, hconsistent, hsize, _, hparsed, rfl, hf⟩
    exact ⟨⟨hplayer, hids, hrequired, hmatching, hconsistent, hsize, hparsed⟩, hf⟩
  · rintro ⟨⟨hplayer, hids, hrequired, hmatching, hconsistent, hsize, hparsed⟩, hf⟩
    exact ⟨hplayer, hids, hrequired, hmatching, hconsistent, hsize, _, hparsed, rfl, hf⟩

/-- The checkpoint `lease` covers stands at the version the command of `value` expects. -/
def AtExpected (db : Realtime) (lease : RoomLease) (value : CommandCommit) : Prop :=
  ∃ row, leasedCheckpoint db lease = some row ∧
    row.stateVersion = value.command.expectedStateVersion

/-- A commit returns when the command is answered already, or when its rows can be recorded on the
checkpoint it expects. -/
theorem commit_eq_ok {value : CommandCommit} {result : CommandCommitResult} :
    commit codec lease value now db = .ok (result, db') ↔
      CheckedCommit codec value ∧ Owned db lease now ∧
      ((∃ prior, db.commands (commandKey lease.roomId value.playerId value.command.requestId)
            = some prior ∧ prior.requestHash = requestHash codec value.command ∧
          result = ⟨prior.acknowledgement, true⟩ ∧ db' = db) ∨
        (AtExpected db lease value ∧ Recordable db lease value ∧
          result = ⟨value.acknowledgement, false⟩ ∧ db' = committed codec lease value now db)) := by
  simp only [commit, checkCommit_bind_eq_ok, assertOwned_bind_eq_ok, and_congr_right_iff]
  intro hchecked howned
  rw [bind_eq_ok]
  cases hprior : db.commands (commandKey lease.roomId value.playerId value.command.requestId) with
  | some prior =>
    constructor
    · rintro ⟨response, m, hresponse, h⟩
      obtain ⟨rfl, ⟨hnone, -⟩ | ⟨prior', hprior', hhash, rfl⟩⟩ := storedResponse_eq_ok.1 hresponse
      · rw [hprior] at hnone
        cases hnone
      · rw [hprior, Option.some.injEq] at hprior'
        subst hprior'
        obtain ⟨rfl, rfl⟩ := pure_eq_ok.1 h
        exact .inl ⟨prior, rfl, hhash, rfl, rfl⟩
    · rintro (⟨prior', hprior', hhash, rfl, rfl⟩ | ⟨-, hrecordable, -, -⟩)
      · refine ⟨some prior.acknowledgement, _,
          storedResponse_eq_ok.2 ⟨rfl, .inr ⟨prior, hprior, ?_, rfl⟩⟩, ?_⟩
        · rw [Option.some.inj hprior', hhash]
        · rw [Option.some.inj hprior']
          exact pure_eq_ok.2 ⟨rfl, rfl⟩
      · rw [hrecordable.command] at hprior
        cases hprior
  | none =>
    have hfirst : ∀ response m,
        storedResponse codec lease.roomId value.playerId value.command db = .ok (response, m) ↔
          response = none ∧ m = db := by
      intro response m
      rw [storedResponse_eq_ok]
      simp only [hprior, true_and, reduceCtorEq, false_and, exists_false, or_false]
      exact and_comm
    have hat : AtExpected db lease value ↔ ∃ row, ((leasedCheckpoint db lease).filter fun row =>
        row.stateVersion = value.command.expectedStateVersion) = some row := by
      simp [AtExpected, Option.filter_eq_some_iff]
    constructor
    · rintro ⟨response, m, hresponse, h⟩
      obtain ⟨hnone, hm⟩ := (hfirst _ _).1 hresponse
      simp only [hnone, hm, read_bind] at h
      refine .inr ?_
      cases hrow : (leasedCheckpoint db lease).filter fun row =>
          row.stateVersion = value.command.expectedStateVersion with
      | none =>
        simp only [hrow, bind_eq_ok, hfirst] at h
        obtain ⟨_, _, ⟨hnone', -⟩, _, _, hsome, -⟩ := h
        rw [hnone'] at hsome
        cases (checkSome_eq_ok.1 hsome).1
      | some row =>
        obtain ⟨hleased, -⟩ := Option.filter_eq_some_iff.1 hrow
        obtain ⟨-, hgame, htoken⟩ := leasedCheckpoint_eq_some.1 hleased
        simp only [hrow, write_bind, bind_eq_ok, recordCommit_eq_ok, pure_eq_ok] at h
        obtain ⟨_, _, ⟨hrecordable, rfl⟩, rfl, rfl⟩ := h
        refine ⟨hat.2 ⟨row, hrow⟩, ⟨hrecordable.events_nodup, hrecordable.events_new,
          hrecordable.proof, hrecordable.command, hrecordable.finalization⟩, rfl, ?_⟩
        simp only [committed, setCheckpoint, snapshotRow, hgame, htoken]
    · rintro (⟨_, hsome, -⟩ | ⟨hexpected, hrecordable, rfl, rfl⟩)
      · cases hsome
      obtain ⟨row, hrow⟩ := hat.1 hexpected
      obtain ⟨hleased, -⟩ := Option.filter_eq_some_iff.1 hrow
      obtain ⟨-, hgame, htoken⟩ := leasedCheckpoint_eq_some.1 hleased
      refine ⟨none, _, (hfirst _ _).2 ⟨rfl, rfl⟩, ?_⟩
      simp only [read_bind, hrow, write_bind, bind_eq_ok, recordCommit_eq_ok, pure_eq_ok]
      refine ⟨(), _, ⟨⟨hrecordable.events_nodup, hrecordable.events_new,
          hrecordable.proof, hrecordable.command, hrecordable.finalization⟩, rfl⟩, trivial, ?_⟩
      simp only [committed, setCheckpoint, snapshotRow, hgame, htoken]

/-! ### Presence -/

theorem markConnected_eq_ok {previous : Option ℤ} :
    markConnected lease now db = .ok (previous, db') ↔ Owned db lease now ∧
      previous = (db.presence lease.roomId).bind PresenceRow.allOfflineAt ∧
      db' = setPresence lease.roomId
        ⟨lease.gameId, lease.fencingToken, none, none, now, rfl⟩ db := by
  simp only [markConnected, assertOwned_bind_eq_ok, read_bind, write_bind, pure_eq_ok]
  exact and_congr_right fun _ => ⟨fun ⟨h, h'⟩ => ⟨h.symm, h'.symm⟩, fun ⟨h, h'⟩ => ⟨h.symm, h'.symm⟩⟩

theorem markAllOffline_ok {deadline : Option ℤ}
    (h : markAllOffline lease now db = .ok (deadline, db')) : Owned db lease now ∧
      db' = setPresence lease.roomId (.offline lease (db.presence lease.roomId) now) db := by
  simp only [markAllOffline, assertOwned_bind_eq_ok, check_bind_eq_ok, read_bind, write_bind,
    pure_eq_ok] at h
  obtain ⟨howned, -, -, rfl⟩ := h
  exact ⟨howned, rfl⟩

/-! ### Steps -/

inductive StoreCall
  | acquire (ownerId : String) (leaseDurationMs : ℤ) (roomId gameId : String)
  | renew (lease : RoomLease) (leaseDurationMs : ℤ)
  | release (lease : RoomLease)
  | initializeCheckpoint (lease : RoomLease) (stateVersion : ℤ) (serializedState : String)
  | saveCheckpoint (lease : RoomLease) (expectedStateVersion stateVersion : ℤ)
      (serializedState : String)
  | loadCheckpoint (lease : RoomLease)
  | findReplay (lease : RoomLease) (playerId : String) (command : RoomCommand)
  | commit (lease : RoomLease) (value : CommandCommit)
  | markConnected (lease : RoomLease)
  | markAllOffline (lease : RoomLease)

inductive StoreResult
  | lease (lease : RoomLease)
  | released (released : Bool)
  | checkpoint (checkpoint : RoomCheckpoint)
  | loaded (checkpoint : Option RoomCheckpoint)
  | replay (acknowledgement : Option CommandAcknowledgement)
  | committed (result : CommandCommitResult)
  | time (time : Option ℤ)

def runCall (codec : Codec) (now : ℤ) : StoreCall → Tx Realtime ServerError StoreResult
  | .acquire ownerId leaseDurationMs roomId gameId => do
    return .lease (← acquire ownerId leaseDurationMs roomId gameId now)
  | .renew lease leaseDurationMs => do return .lease (← renew lease leaseDurationMs now)
  | .release lease => do return .released (← release lease now)
  | .initializeCheckpoint lease stateVersion serializedState => do
    return .checkpoint (← initializeCheckpoint codec lease stateVersion serializedState now)
  | .saveCheckpoint lease expectedStateVersion stateVersion serializedState => do
    return .checkpoint
      (← saveCheckpoint codec lease expectedStateVersion stateVersion serializedState now)
  | .loadCheckpoint lease => do return .loaded (← loadCheckpoint codec lease now)
  | .findReplay lease playerId command => do
    return .replay (← findReplay codec lease playerId command now)
  | .commit lease value => do return .committed (← commit codec lease value now)
  | .markConnected lease => do return .time (← markConnected lease now)
  | .markAllOffline lease => do return .time (← markAllOffline lease now)

/-- A call that returned, at the time it took effect, and what it returned. -/
structure StoreLabel where
  call : StoreCall
  now : ℤ
  result : StoreResult

def StoreStep (codec : Codec) (db : Realtime) (label : StoreLabel) (db' : Realtime) : Prop :=
  runCall codec label.now label.call db = .ok (label.result, db')

/-- What a call that returned has done. -/
inductive StoreEffect (codec : Codec) (db : Realtime) (now : ℤ) :
    StoreCall → StoreResult → Realtime → Prop
  | acquired (ownerId : String) (leaseDurationMs : ℤ) (roomId gameId : String) (token : ℕ)
      (db' : Realtime) :
      Acquired db ownerId roomId gameId (now + leaseDurationMs) now token db' →
      StoreEffect codec db now (.acquire ownerId leaseDurationMs roomId gameId)
        (.lease ⟨token, gameId, ownerId, now + leaseDurationMs, roomId⟩) db'
  | renewed (lease : RoomLease) (leaseDurationMs : ℤ) : Owned db lease now →
      StoreEffect codec db now (.renew lease leaseDurationMs)
        (.lease { lease with leaseUntil := now + leaseDurationMs })
        (setLease lease.roomId
          ⟨lease.gameId, lease.instanceId, now + leaseDurationMs, lease.fencingToken, now⟩ db)
  | releasedNothing (lease : RoomLease) (b : Bool) :
      StoreEffect codec db now (.release lease) (.released b) db
  | released (lease : RoomLease) (b : Bool) : Owned db lease now →
      StoreEffect codec db now (.release lease) (.released b)
        (setLease lease.roomId ⟨lease.gameId, lease.instanceId, now, lease.fencingToken, now⟩ db)
  | initialized (lease : RoomLease) (stateVersion : ℤ) (serializedState : String)
      (checkpoint : RoomCheckpoint) : Owned db lease now → db.checkpoints lease.roomId = none →
      StoreEffect codec db now (.initializeCheckpoint lease stateVersion serializedState)
        (.checkpoint checkpoint)
        (setCheckpoint lease.roomId (snapshotRow codec lease stateVersion serializedState now) db)
  | saved (lease : RoomLease) (expectedStateVersion stateVersion : ℤ) (serializedState : String)
      (checkpoint : RoomCheckpoint) : Owned db lease now →
      (∃ row, leasedCheckpoint db lease = some row) →
      StoreEffect codec db now
        (.saveCheckpoint lease expectedStateVersion stateVersion serializedState)
        (.checkpoint checkpoint)
        (setCheckpoint lease.roomId (snapshotRow codec lease stateVersion serializedState now) db)
  | loaded (lease : RoomLease) (checkpoint : Option RoomCheckpoint) : Owned db lease now →
      StoreEffect codec db now (.loadCheckpoint lease) (.loaded checkpoint) db
  | replayed (lease : RoomLease) (playerId : String) (command : RoomCommand)
      (replay : Option CommandAcknowledgement) : Owned db lease now →
      storedResponse codec lease.roomId playerId command db = .ok (replay, db) →
      StoreEffect codec db now (.findReplay lease playerId command) (.replay replay) db
  | duplicate (lease : RoomLease) (value : CommandCommit) (prior : CommandRow) :
      Owned db lease now →
      db.commands (commandKey lease.roomId value.playerId value.command.requestId) = some prior →
      prior.requestHash = requestHash codec value.command →
      StoreEffect codec db now (.commit lease value)
        (.committed ⟨prior.acknowledgement, true⟩) db
  | committed (lease : RoomLease) (value : CommandCommit) : CheckedCommit codec value →
      Owned db lease now → AtExpected db lease value → Recordable db lease value →
      StoreEffect codec db now (.commit lease value) (.committed ⟨value.acknowledgement, false⟩)
        (committed codec lease value now db)
  | connected (lease : RoomLease) (previous : Option ℤ) : Owned db lease now →
      StoreEffect codec db now (.markConnected lease) (.time previous)
        (setPresence lease.roomId ⟨lease.gameId, lease.fencingToken, none, none, now, rfl⟩ db)
  | offline (lease : RoomLease) (deadline : Option ℤ) : Owned db lease now →
      StoreEffect codec db now (.markAllOffline lease) (.time deadline)
        (setPresence lease.roomId (.offline lease (db.presence lease.roomId) now) db)

theorem runCall_effect {call : StoreCall} {result : StoreResult}
    (h : runCall codec now call db = .ok (result, db')) :
    StoreEffect codec db now call result db' := by
  cases call with
  | acquire ownerId leaseDurationMs roomId gameId =>
    obtain ⟨_, _, hcall, h⟩ := bind_eq_ok.1 h
    obtain ⟨rfl, rfl⟩ := pure_eq_ok.1 h
    obtain ⟨token, rfl, hacquired⟩ := acquire_acquired hcall
    exact .acquired ownerId leaseDurationMs roomId gameId token _ hacquired
  | renew lease leaseDurationMs =>
    obtain ⟨_, _, hcall, h⟩ := bind_eq_ok.1 h
    obtain ⟨rfl, rfl⟩ := pure_eq_ok.1 h
    obtain ⟨howned, rfl, rfl⟩ := renew_eq_ok.1 hcall
    exact .renewed lease leaseDurationMs howned
  | release lease =>
    obtain ⟨b, _, hcall, h⟩ := bind_eq_ok.1 h
    obtain ⟨rfl, rfl⟩ := pure_eq_ok.1 h
    rcases release_eq_ok hcall with rfl | ⟨rfl, howned⟩
    · exact .releasedNothing lease b
    · exact .released lease b howned
  | initializeCheckpoint lease stateVersion serializedState =>
    obtain ⟨checkpoint, _, hcall, h⟩ := bind_eq_ok.1 h
    obtain ⟨rfl, rfl⟩ := pure_eq_ok.1 h
    obtain ⟨howned, hnone, rfl⟩ := initializeCheckpoint_ok hcall
    exact .initialized lease stateVersion serializedState checkpoint howned hnone
  | saveCheckpoint lease expectedStateVersion stateVersion serializedState =>
    obtain ⟨checkpoint, _, hcall, h⟩ := bind_eq_ok.1 h
    obtain ⟨rfl, rfl⟩ := pure_eq_ok.1 h
    obtain ⟨howned, hrow, rfl⟩ := saveCheckpoint_ok hcall
    exact .saved lease expectedStateVersion stateVersion serializedState checkpoint howned hrow
  | loadCheckpoint lease =>
    obtain ⟨checkpoint, _, hcall, h⟩ := bind_eq_ok.1 h
    obtain ⟨rfl, rfl⟩ := pure_eq_ok.1 h
    obtain ⟨howned, rfl⟩ := loadCheckpoint_ok hcall
    exact .loaded lease checkpoint howned
  | findReplay lease playerId command =>
    obtain ⟨replay, _, hcall, h⟩ := bind_eq_ok.1 h
    obtain ⟨rfl, rfl⟩ := pure_eq_ok.1 h
    obtain ⟨-, howned, hresponse⟩ := findReplay_eq_ok.1 hcall
    obtain ⟨rfl, -⟩ := storedResponse_eq_ok.1 hresponse
    exact .replayed lease playerId command replay howned hresponse
  | commit lease value =>
    obtain ⟨_, _, hcall, h⟩ := bind_eq_ok.1 h
    obtain ⟨rfl, rfl⟩ := pure_eq_ok.1 h
    obtain ⟨hchecked, howned, ⟨prior, hprior, hhash, rfl, rfl⟩ | ⟨hat, hrecord, rfl, rfl⟩⟩ :=
      commit_eq_ok.1 hcall
    · exact .duplicate lease value prior howned hprior hhash
    · exact .committed lease value hchecked howned hat hrecord
  | markConnected lease =>
    obtain ⟨previous, _, hcall, h⟩ := bind_eq_ok.1 h
    obtain ⟨rfl, rfl⟩ := pure_eq_ok.1 h
    obtain ⟨howned, -, rfl⟩ := markConnected_eq_ok.1 hcall
    exact .connected lease previous howned
  | markAllOffline lease =>
    obtain ⟨deadline, _, hcall, h⟩ := bind_eq_ok.1 h
    obtain ⟨rfl, rfl⟩ := pure_eq_ok.1 h
    obtain ⟨howned, rfl⟩ := markAllOffline_ok hcall
    exact .offline lease deadline howned

theorem StoreStep.effect {label : StoreLabel} (h : StoreStep codec db label db') :
    StoreEffect codec db label.now label.call label.result db' :=
  runCall_effect h

end Pootown.Server
