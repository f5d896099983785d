import Mathlib.Tactic
import Pootown.Server.Fencing

/-!
# Commands commit once

Whatever calls servers make, in whatever order and however often, the commands committed in a room
form one chain of versions, each under a key of its own, and the checkpoint is the end of the chain.

* `commitsOf`: the commits of a room in a sequence of calls, repetitions left out;
* `CommitChain`: from the opening snapshot, each commit at the version the one before it reached;
* `commits_exactly_once`: the chain, the uniqueness of its keys, the answers to repeated commands
  and the refusal of other commands under a key in use.
-/

namespace Pootown.Server

open Runs Transactions

/-- The calls a room makes: every one but `saveCheckpoint`, which has no caller. -/
def RoomStep (codec : Codec) (db : Realtime) (label : StoreLabel) (db' : Realtime) : Prop :=
  StoreStep codec db label db' ∧
    ∀ lease expected version state, label.call ≠ .saveCheckpoint lease expected version state

/-- What a call commits in a room, when it commits something new. -/
def committedBy (roomId : String) (label : StoreLabel) : Option CommandCommit :=
  match label.call, label.result with
  | .commit lease value, .committed result =>
    if lease.roomId = roomId ∧ result.duplicate = false then some value else none
  | _, _ => none

/-- The commits of a room, in order. -/
def commitsOf (roomId : String) (labels : List StoreLabel) : List CommandCommit :=
  labels.filterMap (committedBy roomId)

/-- A snapshot: its version and its text. -/
abbrev Snapshot : Type := ℤ × String

/-- The commits lead from one snapshot to another: each expects the version reached before it, and
reaches the next. -/
inductive CommitChain (opening : Snapshot) : List CommandCommit → Snapshot → Prop
  | opened : CommitChain opening [] opening
  | extended {commits : List CommandCommit} {last : Snapshot} (value : CommandCommit) :
      CommitChain opening commits last → value.command.expectedStateVersion = last.1 →
      value.stateVersion = last.1 + 1 →
      CommitChain opening (commits ++ [value]) (value.stateVersion, value.serializedState)

/-- `label` opens the checkpoint of a room with `opening`. -/
def Opens (roomId : String) (opening : Snapshot) (label : StoreLabel) : Prop :=
  ∃ lease, lease.roomId = roomId ∧
    label.call = .initializeCheckpoint lease opening.1 opening.2

/-- The checkpoint of a room stands at the end of its chain of commits, with its checksum. -/
def AtEndOfChain (codec : Codec) (labels : List StoreLabel) (db : Realtime) (roomId : String) :
    Prop :=
  match db.checkpoints roomId with
  | none => commitsOf roomId labels = []
  | some row => row.checksum = codec.sha256 row.serializedState ∧
    ∃ opening, (∃ label ∈ labels, Opens roomId opening label) ∧
      CommitChain opening (commitsOf roomId labels) (row.stateVersion, row.serializedState)

/-- The key of a commit. -/
def CommandCommit.key (roomId : String) (value : CommandCommit) : CommandKey :=
  commandKey roomId value.playerId value.command.requestId

/-- What the tables record of the calls so far. -/
structure ChainRecorded (codec : Codec) (labels : List StoreLabel) (db : Realtime) : Prop where
  checkpoint : ∀ roomId, AtEndOfChain codec labels db roomId
  command : ∀ roomId, ∀ value ∈ commitsOf roomId labels, CheckedCommit codec value ∧
    ∃ now, db.commands (value.key roomId) = some (commandRow codec value now)
  keys : ∀ roomId, (commitsOf roomId labels).Pairwise fun value value' =>
    value.key roomId ≠ value'.key roomId

variable {codec : Codec} {db db' : Realtime} {lease : RoomLease} {now : ℤ}
  {past labels : List StoreLabel} {label : StoreLabel}

theorem commitsOf_snoc (roomId : String) (past : List StoreLabel) (label : StoreLabel) :
    commitsOf roomId (past ++ [label]) =
      commitsOf roomId past ++ (committedBy roomId label).toList := by
  rw [commitsOf, List.filterMap_append]
  cases hcommit : committedBy roomId label <;> simp [commitsOf, hcommit]

/-- A call that commits nothing and leaves the snapshots and the commands alone keeps the record. -/
theorem ChainRecorded.of_same (h : ChainRecorded codec past db)
    (hnone : ∀ roomId, committedBy roomId label = none) (hcommands : db'.commands = db.commands)
    (hrows : ∀ roomId, (db'.checkpoints roomId).map (fun row =>
        (row.checksum, row.stateVersion, row.serializedState)) =
      (db.checkpoints roomId).map fun row =>
        (row.checksum, row.stateVersion, row.serializedState)) :
    ChainRecorded codec (past ++ [label]) db' where
  checkpoint := by
    intro roomId
    have hsame : commitsOf roomId (past ++ [label]) = commitsOf roomId past := by
      rw [commitsOf_snoc, hnone, Option.toList_none, List.append_nil]
    have hpast := h.checkpoint roomId
    have hrow := hrows roomId
    unfold AtEndOfChain at hpast ⊢
    rw [hsame]
    cases hold : db.checkpoints roomId with
    | none =>
      rw [hold, Option.map_none, Option.map_eq_none_iff] at hrow
      rw [hold] at hpast
      rw [hrow]
      exact hpast
    | some row =>
      rw [hold, Option.map_some, Option.map_eq_some_iff] at hrow
      rw [hold] at hpast
      obtain ⟨row', hnew, heq⟩ := hrow
      simp only [Prod.mk.injEq] at heq
      obtain ⟨hsum, opening, ⟨label', hmem, hopens⟩, hchain⟩ := hpast
      rw [hnew]
      simp only [heq]
      exact ⟨hsum, opening, ⟨label', List.mem_append_left _ hmem, hopens⟩, hchain⟩
  command := by
    intro roomId value hvalue
    rw [commitsOf_snoc, hnone, Option.toList_none, List.append_nil] at hvalue
    rw [hcommands]
    exact h.command roomId value hvalue
  keys := by
    intro roomId
    rw [commitsOf_snoc, hnone, Option.toList_none, List.append_nil]
    exact h.keys roomId

/-- The opening of a room's checkpoint keeps the record. -/
theorem ChainRecorded.initialized {stateVersion : ℤ} {serializedState : String}
    (h : ChainRecorded codec past db) (hnone : db.checkpoints lease.roomId = none)
    (hcall : label.call = .initializeCheckpoint lease stateVersion serializedState) :
    ChainRecorded codec (past ++ [label])
      (setCheckpoint lease.roomId (snapshotRow codec lease stateVersion serializedState now) db) := by
  have hquiet : ∀ roomId, committedBy roomId label = none := by
    intro roomId
    rw [committedBy, hcall]
  have hcommits : ∀ roomId, commitsOf roomId (past ++ [label]) = commitsOf roomId past := by
    intro roomId
    rw [commitsOf_snoc, hquiet, Option.toList_none, List.append_nil]
  refine ⟨fun roomId => ?_,
    fun roomId value hvalue => h.command roomId value (hcommits roomId ▸ hvalue),
    fun roomId => (hcommits roomId).symm ▸ h.keys roomId⟩
  have hpast := h.checkpoint roomId
  unfold AtEndOfChain at hpast ⊢
  rw [hcommits]
  by_cases hroom : roomId = lease.roomId
  · subst hroom
    rw [hnone] at hpast
    simp only [setCheckpoint, Function.update_self]
    refine ⟨rfl, (stateVersion, serializedState), ⟨label, by simp, lease, rfl, hcall⟩, ?_⟩
    simp only at hpast
    rw [hpast]
    exact .opened
  · simp only [setCheckpoint, Function.update_of_ne hroom]
    cases hrow : db.checkpoints roomId with
    | none =>
      rw [hrow] at hpast
      exact hpast
    | some row =>
      rw [hrow] at hpast
      obtain ⟨hsum, opening, ⟨label', hmem, hopens⟩, hchain⟩ := hpast
      exact ⟨hsum, opening, ⟨label', List.mem_append_left _ hmem, hopens⟩, hchain⟩

/-- A commit extends the chain of its room, and the record of its commands. -/
theorem ChainRecorded.committed {value : CommandCommit} (h : ChainRecorded codec past db)
    (hchecked : CheckedCommit codec value) (hat : AtExpected db lease value)
    (hrecord : Recordable db lease value) (hcall : label.call = .commit lease value)
    (hresult : label.result = .committed ⟨value.acknowledgement, false⟩) :
    ChainRecorded codec (past ++ [label]) (committed codec lease value now db) := by
  have hcommits : ∀ roomId, commitsOf roomId (past ++ [label]) =
      commitsOf roomId past ++ if roomId = lease.roomId then [value] else [] := by
    intro roomId
    rw [commitsOf_snoc, committedBy, hcall, hresult]
    by_cases hroom : lease.roomId = roomId
    · simp [hroom]
    · simp [hroom, Ne.symm hroom]
  obtain ⟨row, hleased, hversion⟩ := hat
  obtain ⟨hrow, -, -⟩ := leasedCheckpoint_eq_some.1 hleased
  have hfree := hrecord.command
  refine ⟨fun roomId => ?_, fun roomId other hother => ?_, fun roomId => ?_⟩
  · have hpast := h.checkpoint roomId
    unfold AtEndOfChain at hpast ⊢
    rw [hcommits]
    by_cases hroom : roomId = lease.roomId
    · subst hroom
      rw [hrow] at hpast
      obtain ⟨-, opening, ⟨label', hmem, hopens⟩, hchain⟩ := hpast
      simp only [Server.committed, Function.update_self, if_true]
      refine ⟨rfl, opening, ⟨label', List.mem_append_left _ hmem, hopens⟩, ?_⟩
      exact hchain.extended value hversion.symm (hversion ▸ hchecked.consistent.1)
    · simp only [Server.committed, Function.update_of_ne hroom, if_neg hroom, List.append_nil]
      cases hother : db.checkpoints roomId with
      | none =>
        rw [hother] at hpast
        exact hpast
      | some row' =>
        rw [hother] at hpast
        obtain ⟨hsum, opening, ⟨label', hmem, hopens⟩, hchain⟩ := hpast
        exact ⟨hsum, opening, ⟨label', List.mem_append_left _ hmem, hopens⟩, hchain⟩
  · rw [hcommits, List.mem_append] at hother
    rcases hother with hold | hnew
    · obtain ⟨hother, now', hcommand⟩ := h.command roomId other hold
      refine ⟨hother, now', ?_⟩
      have hne : other.key roomId ≠ value.key lease.roomId := by
        intro heq
        rw [heq] at hcommand
        rw [CommandCommit.key, hfree] at hcommand
        cases hcommand
      exact (Function.update_of_ne hne _ _).trans hcommand
    · split_ifs at hnew with hroom
      · rw [List.mem_singleton] at hnew
        subst hnew hroom
        exact ⟨hchecked, now, Function.update_self ..⟩
      · cases hnew
  · rw [hcommits]
    refine List.pairwise_append.2 ⟨h.keys roomId, by split_ifs <;> simp, ?_⟩
    intro other hother new hnew
    split_ifs at hnew with hroom
    · rw [List.mem_singleton] at hnew
      subst hnew hroom
      obtain ⟨-, now', hcommand⟩ := h.command lease.roomId other hother
      intro heq
      rw [heq, CommandCommit.key, hfree] at hcommand
      cases hcommand
    · cases hnew

theorem Acquired.snapshots {ownerId roomId gameId : String} {leaseUntil : ℤ} {token : ℕ}
    (h : Acquired db ownerId roomId gameId leaseUntil now token db') :
    db'.commands = db.commands ∧ ∀ roomId', (db'.checkpoints roomId').map (fun row =>
        (row.checksum, row.stateVersion, row.serializedState)) =
      (db.checkpoints roomId').map fun row =>
        (row.checksum, row.stateVersion, row.serializedState) := by
  cases h with
  | takenOver current hcurrent hgame =>
    refine ⟨rfl, fun roomId' => ?_⟩
    by_cases hroom : roomId' = roomId
    · subst hroom
      simp [setLease, moveToken, Function.comp_def]
    · simp [setLease, moveToken, hroom]
  | _ => exact ⟨rfl, fun _ => rfl⟩

theorem StoreEffect.recorded {call : StoreCall} {result : StoreResult}
    (h : StoreEffect codec db now call result db')
    (hsave : ∀ lease expected version state, call ≠ .saveCheckpoint lease expected version state)
    (hpast : ChainRecorded codec past db) :
    ChainRecorded codec (past ++ [⟨call, now, result⟩]) db' := by
  cases h with
  | acquired _ _ _ _ _ _ hacquired =>
    exact hpast.of_same (fun _ => rfl) hacquired.snapshots.1 hacquired.snapshots.2
  | initialized lease stateVersion serializedState checkpoint howned hnone =>
    exact hpast.initialized hnone rfl
  | saved lease expected version state => exact absurd rfl (hsave lease expected version state)
  | duplicate lease value prior =>
    exact hpast.of_same (fun _ => by simp [committedBy]) rfl fun _ => rfl
  | committed lease value hchecked howned hat hrecord =>
    exact hpast.committed hchecked hat hrecord rfl rfl
  | _ => exact hpast.of_same (fun _ => rfl) rfl fun _ => rfl

theorem RoomStep.recorded (h : RoomStep codec db label db') (hpast : ChainRecorded codec past db) :
    ChainRecorded codec (past ++ [label]) db' :=
  h.1.effect.recorded h.2 hpast

theorem fresh_recorded (h : Fresh db) : ChainRecorded codec [] db := by
  obtain ⟨sessions, rfl⟩ := h
  refine ⟨fun roomId => rfl, fun roomId value hvalue => ?_, fun roomId => .nil⟩
  cases hvalue

theorem run_recorded (hstart : Fresh db) (h : Run (RoomStep codec) db labels db') :
    ChainRecorded codec labels db' := by
  have hrun : ChainRecorded codec ([] ++ labels) db' :=
    h.history (fun past s l s' hJ hstep => hstep.recorded hJ) (fresh_recorded hstart)
  rwa [List.nil_append] at hrun

/-! ### Repeated and conflicting commands -/

/-- How the store refuses a lease that is not held any more. -/
def staleLease : ServerError := ⟨.roomLeaseUnavailable, "Room lease is stale or expired"⟩

/-- Two commands that differ in their text differ in their digest. -/
def NoCollision (codec : Codec) (command command' : RoomCommand) : Prop :=
  command.canonicalJson ≠ command'.canonicalJson →
    codec.sha256 command.canonicalJson ≠ codec.sha256 command'.canonicalJson

theorem assertOwned_of (h : Owned db lease now) : assertOwned lease now db = .ok ((), db) :=
  assertOwned_eq_ok.2 ⟨h, rfl⟩

theorem assertOwned_of_not (h : ¬ Owned db lease now) :
    assertOwned lease now db = .error staleLease := by
  rw [assertOwned, read_bind]
  exact check_of_not h

theorem checkCommit_of_checked {value : CommandCommit} (h : CheckedCommit codec value) :
    checkCommit codec value db = .ok ((), db) := by
  simp only [checkCommit, check_bind_eq_ok, validateCheckpointSnapshot, checkSome_bind_eq_ok,
    check_eq_ok]
  exact ⟨h.player, h.eventIds, h.required, h.matching, h.consistent, h.snapshot.1,
    _, h.snapshot.2, rfl, trivial⟩

section Repeats

variable {value value' : CommandCommit} {command : RoomCommand} {committedAt : ℤ}
  (hrow : db.commands (value.key lease.roomId) = some (commandRow codec value committedAt))
include hrow

/-- The command that committed is answered by its acknowledgement. -/
theorem storedResponse_of_same :
    storedResponse codec lease.roomId value.playerId value.command db
      = .ok (some value.acknowledgement, db) :=
  storedResponse_eq_ok.2 ⟨rfl, .inr ⟨_, hrow, rfl, rfl⟩⟩

/-- Another command under the key of one that committed is refused. -/
theorem storedResponse_of_other
    (hkey : commandKey lease.roomId value.playerId command.requestId = value.key lease.roomId)
    (hne : command ≠ value.command) (hcollision : NoCollision codec value.command command) :
    storedResponse codec lease.roomId value.playerId command db = .error idempotencyConflict := by
  have hhash : requestHash codec value.command ≠ requestHash codec command :=
    hcollision fun heq => hne (RoomCommand.canonicalJson_injective heq.symm)
  rw [storedResponse, read_bind, hkey, hrow]
  exact bind_of_error (check_of_not hhash)

theorem findReplay_of_same (hplayer : validOpaqueId value.playerId = true) :
    findReplay codec lease value.playerId value.command now db =
      if Owned db lease now then .ok (some value.acknowledgement, db) else .error staleLease := by
  split_ifs with howned
  · exact findReplay_eq_ok.2 ⟨hplayer, howned, storedResponse_of_same hrow⟩
  · rw [findReplay, bind_of_ok (check_of hplayer)]
    exact bind_of_error (assertOwned_of_not howned)

theorem findReplay_of_other (hplayer : validOpaqueId value.playerId = true)
    (hkey : commandKey lease.roomId value.playerId command.requestId = value.key lease.roomId)
    (hne : command ≠ value.command) (hcollision : NoCollision codec value.command command) :
    findReplay codec lease value.playerId command now db =
      .error (if Owned db lease now then idempotencyConflict else staleLease) := by
  rw [findReplay, bind_of_ok (check_of hplayer)]
  split_ifs with howned
  · rw [bind_of_ok (assertOwned_of howned)]
    exact storedResponse_of_other hrow hkey hne hcollision
  · exact bind_of_error (assertOwned_of_not howned)

theorem commit_of_same (hchecked : CheckedCommit codec value')
    (hplayer : value'.playerId = value.playerId) (hcommand : value'.command = value.command) :
    commit codec lease value' now db =
      if Owned db lease now then .ok (⟨value.acknowledgement, true⟩, db)
      else .error staleLease := by
  split_ifs with howned
  · refine commit_eq_ok.2 ⟨hchecked, howned,
      .inl ⟨commandRow codec value committedAt, ?_, ?_, rfl, rfl⟩⟩
    · rw [hplayer, hcommand]
      exact hrow
    · rw [hcommand]
      rfl
  · rw [commit, bind_of_ok (checkCommit_of_checked hchecked)]
    exact bind_of_error (assertOwned_of_not howned)

theorem commit_of_other (hchecked : CheckedCommit codec value')
    (hplayer : value'.playerId = value.playerId)
    (hkey : value'.key lease.roomId = value.key lease.roomId)
    (hne : value'.command ≠ value.command)
    (hcollision : NoCollision codec value.command value'.command) :
    commit codec lease value' now db =
      .error (if Owned db lease now then idempotencyConflict else staleLease) := by
  rw [commit, bind_of_ok (checkCommit_of_checked hchecked)]
  rw [CommandCommit.key, hplayer] at hkey
  split_ifs with howned
  · rw [bind_of_ok (assertOwned_of howned), hplayer]
    exact bind_of_error (storedResponse_of_other hrow hkey hne hcollision)
  · exact bind_of_error (assertOwned_of_not howned)

end Repeats

/-- In every run of calls, the commits of a room form one chain that ends at the stored checkpoint,
each under its own key; from then on the same command is answered by its acknowledgement, and
another command under its key is refused, with the tables as they were. -/
theorem commits_exactly_once (codec : Codec) (start db : Realtime) (labels : List StoreLabel)
    (hstart : Fresh start) (h : Run (RoomStep codec) start labels db) (roomId : String) :
    AtEndOfChain codec labels db roomId ∧
    ((commitsOf roomId labels).Pairwise fun value value' =>
      value.key roomId ≠ value'.key roomId) ∧
    ∀ value ∈ commitsOf roomId labels, ∀ lease now, lease.roomId = roomId →
      (findReplay codec lease value.playerId value.command now db =
        if Owned db lease now then .ok (some value.acknowledgement, db)
        else .error staleLease) ∧
      (∀ value', CheckedCommit codec value' → value'.playerId = value.playerId →
        value'.command = value.command → commit codec lease value' now db =
          if Owned db lease now then .ok (⟨value.acknowledgement, true⟩, db)
          else .error staleLease) ∧
      (∀ command, commandKey roomId value.playerId command.requestId = value.key roomId →
        command ≠ value.command → NoCollision codec value.command command →
        findReplay codec lease value.playerId command now db =
          .error (if Owned db lease now then idempotencyConflict else staleLease) ∧
        ∀ value', CheckedCommit codec value' → value'.playerId = value.playerId →
          value'.command = command → commit codec lease value' now db =
            .error (if Owned db lease now then idempotencyConflict else staleLease)) := by
  have hrecord := run_recorded hstart h
  refine ⟨hrecord.checkpoint roomId, hrecord.keys roomId, ?_⟩
  rintro value hvalue lease now rfl
  obtain ⟨hchecked, committedAt, hrow⟩ := hrecord.command lease.roomId value hvalue
  refine ⟨findReplay_of_same hrow hchecked.player,
    fun value' hchecked' hplayer hcommand => commit_of_same hrow hchecked' hplayer hcommand, ?_⟩
  intro command hkey hne hcollision
  refine ⟨findReplay_of_other hrow hchecked.player hkey hne hcollision, ?_⟩
  rintro value' hchecked' hplayer rfl
  exact commit_of_other hrow hchecked' hplayer (by rw [CommandCommit.key, hplayer, hkey]) hne
    hcollision

/-- A codec whose digest of a text is the text, and whose version of a snapshot is its length. -/
def sampleCodec : Codec := ⟨id, fun text => some text.length⟩

/-- The lease of the room `room` that `server` holds until 100. -/
def sampleLease : RoomLease := ⟨1, "game", "server", 100, "room"⟩

/-- A commit of `bob`, who joins the lobby at version one. -/
def sampleCommit : CommandCommit :=
  ⟨⟨"r", 2, []⟩, [], "bob", ⟨"r", 1, .lifecycle .joinGame⟩, "ab", 2, none, none⟩

/-- A room is opened, a player joins it, and asks again: the answer is the first one. -/
theorem commits_exactly_once_join :
    ∃ db, Run (RoomStep sampleCodec) (freshRealtime fun _ => some "room")
        [⟨.acquire "server" 100 "room" "game", 0, .lease sampleLease⟩,
          ⟨.initializeCheckpoint sampleLease 1 "a", 1, .checkpoint ⟨"a", 1, "a", 1, 1⟩⟩,
          ⟨.commit sampleLease sampleCommit, 2,
            .committed ⟨sampleCommit.acknowledgement, false⟩⟩] db ∧
      findReplay sampleCodec sampleLease "bob" sampleCommit.command 3 db =
        .ok (some sampleCommit.acknowledgement, db) := by
  have hrun : Run (RoomStep sampleCodec) (freshRealtime fun _ => some "room")
      [⟨.acquire "server" 100 "room" "game", 0, .lease sampleLease⟩,
        ⟨.initializeCheckpoint sampleLease 1 "a", 1, .checkpoint ⟨"a", 1, "a", 1, 1⟩⟩,
        ⟨.commit sampleLease sampleCommit, 2,
          .committed ⟨sampleCommit.acknowledgement, false⟩⟩] _ :=
    .cons ⟨rfl, fun _ _ _ _ h => by cases h⟩ <| .cons ⟨rfl, fun _ _ _ _ h => by cases h⟩ <|
      .cons ⟨rfl, fun _ _ _ _ h => by cases h⟩ (.nil _)
  obtain ⟨-, -, hanswers⟩ := commits_exactly_once sampleCodec _ _ _ ⟨_, rfl⟩ hrun "room"
  obtain ⟨hreplay, -⟩ := hanswers sampleCommit (List.mem_singleton_self _) sampleLease 3 rfl
  exact ⟨_, hrun, hreplay.trans (if_pos ⟨_, rfl, rfl, rfl, rfl, by decide⟩)⟩

end Pootown.Server
