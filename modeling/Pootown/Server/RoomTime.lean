import Mathlib.Tactic
import Pootown.Invariants.Handover
import Pootown.Invariants.Stamps
import Pootown.Server.ServedState
import Pootown.Server.RoomSnapshots

/-!
# The time of a room

A handler works at the latest of three times: its clock, the times in the state it holds, and the
time of its last commit, which a restarted handler takes from the checkpoint.

* `RoomHosts`, `RoomHostsStep`: rooms that are opened, restored and left on any number of hosts;
* `Clocked`: the events of a room are not later than its checkpoint, nor than the last commit of a
  handler that holds the checkpoint's version;
* `Timed`: no time stored in a game is later than its checkpoint, or than its handler;
* `room_time_forward`, `not_room_time_forward`.
-/

namespace Pootown.Server

open Fallible Runs Snapshot

/-! ### Hosts -/

/-- A handler is constructed with the state of a room and the time of its last commit. -/
def createRoomCommandHandler (initialState : RoomGameState) (initialCommittedAtMs : Option ℤ)
    (lease : RoomLease) : Except ServerError RoomCommandHandler := do
  let initialFloor := initialCommittedAtMs.getD (committedTimestampFloor initialState)
  require (IsSafeInteger initialFloor ∧ 0 ≤ initialFloor)
    (invalidRoomCommand "Initial committed timestamp is invalid")
  return ⟨initialState, max initialFloor (committedTimestampFloor initialState), lease⟩

/-- The store, and the handlers of the rooms on all hosts, by the name of the room's object. -/
structure RoomHosts where
  store : Realtime
  handlers : String → Option RoomCommandHandler

inductive RoomHostsLabel
  | opened (room : String)
  | restored (room : String)
  | called (room : String) (label : HandlerLabel)
  | left (room : String)
  | stored (label : StoreLabel)

/-- The calls that write a snapshot. -/
def StoreCall.writesSnapshot : StoreCall → Bool
  | .commit _ _ => true
  | .initializeCheckpoint _ _ _ => true
  | .saveCheckpoint _ _ _ _ => true
  | _ => false

section Hosts

variable (localeCompare : String → String → ℤ) (digest : String → List UInt8)

/-- A room is opened with the waiting state of its session, or restored from its checkpoint; its
handler is called, or given up; and the rest of the servers work on leases and presence.  A call
looks for a replay and commits at once: what happens in between has the effect of a fault. -/
inductive RoomHostsStep : RoomHosts → RoomHostsLabel → RoomHosts → Prop
  | opened (s : RoomHosts) (room : String) (lease : RoomLease) (now : ℤ)
      (bootstrap : SessionBootstrapResponse) (randomSource : RandomSource) (state : GameState)
      (text : String) (checkpoint : RoomCheckpoint) (store : Realtime)
      (handler : RoomCommandHandler) : s.handlers room = none →
      createWaitingState localeCompare bootstrap randomSource = .ok state →
      serializeSnapshot localeCompare state = .ok text →
      initializeCheckpoint (roomCodec localeCompare digest).toCodec lease state.stateVersion text
        now s.store = .ok (checkpoint, store) →
      createRoomCommandHandler (.lifecycle state) (some checkpoint.updatedAt) lease
        = .ok handler →
      RoomHostsStep s (.opened room) ⟨store, Function.update s.handlers room (some handler)⟩
  | restored (s : RoomHosts) (room : String) (lease : RoomLease) (now : ℤ)
      (checkpoint : RoomCheckpoint) (state : RoomGameState) (handler : RoomCommandHandler) :
      s.handlers room = none →
      loadCheckpoint (roomCodec localeCompare digest).toCodec lease now s.store
        = .ok (some checkpoint, s.store) →
      parseCheckpointState localeCompare checkpoint.serializedState = .ok state →
      createRoomCommandHandler state (some checkpoint.updatedAt) lease = .ok handler →
      RoomHostsStep s (.restored room) { s with
        handlers := Function.update s.handlers room (some handler) }
  | called (s : RoomHosts) (room : String) (handler : RoomCommandHandler) (label : HandlerLabel)
      (after : HandlerState Realtime) : s.handlers room = some handler → label ≠ .others →
      HandlerStep (roomCodec localeCompare digest) ⟨handler, s.store⟩ label after →
      RoomHostsStep s (.called room label)
        ⟨after.store, Function.update s.handlers room (some after.handler)⟩
  | left (s : RoomHosts) (room : String) :
      RoomHostsStep s (.left room) { s with handlers := Function.update s.handlers room none }
  | stored (s : RoomHosts) (label : StoreLabel) (store : Realtime) :
      StoreStep (roomCodec localeCompare digest).toCodec s.store label store →
      label.call.writesSnapshot = false →
      RoomHostsStep s (.stored label) { s with store := store }

end Hosts

/-- Nothing is stored yet, and no room is open. -/
def NoRooms (s : RoomHosts) : Prop := Fresh s.store ∧ ∀ room, s.handlers room = none

/-- An admission that can commit does so at a time of the database that is not before the joining,
nor before the times the handler keeps. -/
def AdmitsInTime (s : RoomHosts) : RoomHostsLabel → Prop
  | .called room (.ensureAdmitted outside authenticated joinedAtMs) =>
    ∀ handler ∈ s.handlers room, (∃ lobby, admissionLobby handler.state authenticated = .ok lobby) →
      Owned s.store handler.lease outside.storeMs →
      (∃ row ∈ leasedCheckpoint s.store handler.lease,
        row.stateVersion = handler.state.stateVersion) →
      joinedAtMs ≤ outside.storeMs ∧ handler.committedAtMs ≤ outside.storeMs ∧
        committedTimestampFloor handler.state ≤ outside.storeMs
  | _ => True

/-- The events of a room are in the order of the versions they were committed at. -/
def EventsForward (db : Realtime) : Prop :=
  ∀ id id' row row', db.events id = some row → db.events id' = some row' →
    row.roomId = row'.roomId → row.stateVersion ≤ row'.stateVersion →
    row.event.occurredAtMs ≤ row'.event.occurredAtMs

/-- A handler gives a gameplay command a time that is not before any time stored in the game. -/
def CommandsForward (handler : RoomCommandHandler) : Prop :=
  ∀ state, handler.state = .gameplay state → ∀ clockMs nowMs,
    commandTimestampMs handler clockMs = .ok nowMs → StampedBy nowMs state

/-! ### What a call commits -/

/-- No time stored in a room's game is later than `bound`. -/
def RoomGameState.StampedBy (bound : ℤ) : RoomGameState → Prop
  | .lifecycle _ => True
  | .gameplay state => Pootown.StampedBy bound state

theorem RoomGameState.StampedBy.mono {bound bound' : ℤ} {state : RoomGameState}
    (h : state.StampedBy bound) (hle : bound ≤ bound') : state.StampedBy bound' := by
  cases state with
  | lifecycle lobby => trivial
  | gameplay game => exact fun stamp hstamp => (h stamp hstamp).trans hle

/-- What a handler decides to commit at a time of the store, as far as time goes. -/
structure DecidedAt (handler : RoomCommandHandler) (command : RoomCommand) (proposal : Proposal)
    (storeMs committedAtMs : ℤ) : Prop where
  expected : command.expectedStateVersion = handler.state.stateVersion
  le : handler.committedAtMs ≤ committedAtMs
  events : ∀ event ∈ proposal.events, event.occurredAtMs = committedAtMs
  stamped : proposal.nextState.Valid → handler.state.StampedBy handler.committedAtMs →
    proposal.nextState.StampedBy storeMs ∧ proposal.nextState.StampedBy committedAtMs

section Decisions

variable {handler : RoomCommandHandler} {command : RoomCommand} {proposal : Proposal}
  {nowMs : ℤ}

theorem envelopes_occurredAtMs {requestId : String} {stateVersion occurredAtMs : ℤ}
    {payloads : List RoomEventPayload} {event : RoomEvent}
    (h : event ∈ envelopes requestId stateVersion occurredAtMs payloads) :
    event.occurredAtMs = occurredAtMs := by
  obtain ⟨index, hindex, rfl⟩ := List.mem_mapIdx.1 h
  rfl

theorem gameplayDecision_decidedAt {state : GameplayAggregateState} {body : GameplayCommandBody}
    {context : GameplayCommandContext} (hstate : handler.state = .gameplay state)
    (hle : handler.committedAtMs ≤ context.nowMs)
    (h : gameplayDecision state command body context = .ok proposal) :
    DecidedAt handler command proposal context.nowMs context.nowMs := by
  unfold gameplayDecision at h
  split at h
  · cases h
  next nextState events htransition =>
    simp only [bind_eq_ok, pure_eq_ok] at h
    obtain ⟨published, hpublished, proof, -, rfl⟩ := h
    cases state with
    | finished finished =>
      obtain ⟨error, herror⟩ := transitionGameplay_finished finished
        ⟨command.expectedStateVersion, body⟩ context
      rw [herror] at htransition
      cases htransition
    | inProgress active =>
      refine ⟨?_, hle, fun event hevent => ?_, fun hvalid hstamped => ?_⟩
      · rw [hstate]
        exact (transitionGameplay_step htransition).1.expected_eq
      · cases hevents : gameplayEvents events nextState command.requestId context.nowMs with
        | error error =>
          rw [hevents] at hpublished
          cases hpublished
        | ok published' =>
          rw [hevents] at hpublished
          cases hpublished
          simp only [gameplayEvents, bind_eq_ok, pure_eq_ok] at hevents
          obtain ⟨payloads, -, rfl⟩ := hevents
          exact envelopes_occurredAtMs hevent
      · rw [hstate] at hstamped
        have hnext := stampedBy_transitionGameplay htransition hvalid
          fun stamp hstamp => (hstamped stamp hstamp).trans hle
        exact ⟨hnext, hnext⟩

/-- The game of a lobby that is started now holds no later time than now. -/
theorem initialized_stampedBy {lobby result : GameState} {gameCommand : GameCommand}
    {context : TransitionContext} {events : List DomainEvent} {nextState : RoomGameState}
    (htransition : transition (some lobby) gameCommand context = .ok (result, events))
    (hnext : initialized result = .ok nextState) (hvalid : nextState.Valid) :
    nextState.StampedBy context.nowMs := by
  unfold initialized at hnext
  split at hnext
  · next started hstarted =>
    simp only [bind_eq_ok, pure_eq_ok, requireSome_eq_ok] at hnext
    obtain ⟨game, hgame, rfl⟩ := hnext
    have hturn : started.turn.startedAtMs = context.nowMs := by
      obtain ⟨hadmitted, rng, -, hstep⟩ := transition_step htransition
      have hwaiting := hadmitted.waiting
      generalize gameCommand.body = body at hstep
      cases hstep with
      | join => simp [GameState.toInProgress, hwaiting] at hstarted
      | leave => simp [GameState.toInProgress, hwaiting] at hstarted
      | cancel => cases hstarted
      | start =>
        cases hstarted
        rfl
    refine (stampedBy_iff hvalid).2 ?_
    unfold initializeGameplayAggregate at hgame
    split_ifs at hgame
    cases hgame
    exact ⟨hturn.le, fun trade htrade => nomatch htrade⟩
  · cases hnext
    trivial

theorem lifecycleDecision_decidedAt {lobby : GameState} {body : GameCommandBody}
    {context : TransitionContext} (hstate : handler.state = .lifecycle lobby)
    (hle : handler.committedAtMs ≤ context.nowMs)
    (h : lifecycleDecision lobby command body context = .ok proposal) :
    DecidedAt handler command proposal context.nowMs context.nowMs := by
  unfold lifecycleDecision at h
  split at h
  · cases h
  next result events htransition =>
    simp only [bind_eq_ok, pure_eq_ok] at h
    obtain ⟨nextState, hnext, proof, -, rfl⟩ := h
    refine ⟨?_, hle, fun event hevent => envelopes_occurredAtMs hevent, fun hvalid _ => ?_⟩
    · rw [hstate]
      exact (transition_step htransition).1.expected_eq
    · exact ⟨initialized_stampedBy htransition hnext hvalid,
        initialized_stampedBy htransition hnext hvalid⟩

theorem commandTimestampMs_eq_ok {clockMs : ℤ} :
    commandTimestampMs handler clockMs = .ok nowMs ↔ (IsSafeInteger clockMs ∧ 0 ≤ clockMs) ∧
      nowMs = max (max clockMs (committedTimestampFloor handler.state)) handler.committedAtMs := by
  simp only [commandTimestampMs, bind_eq_ok, require_eq_ok, exists_const, pure_eq_ok,
    @eq_comm ℤ nowMs]

theorem committedAtMs_le {clockMs : ℤ} (h : commandTimestampMs handler clockMs = .ok nowMs) :
    handler.committedAtMs ≤ nowMs := by
  rw [(commandTimestampMs_eq_ok.1 h).2]
  exact le_max_right _ _

theorem playerDecision_decidedAt {playerId : String} {source : Option RandomSource}
    (hle : handler.committedAtMs ≤ nowMs)
    (h : playerDecision playerId handler.state command nowMs source = .ok proposal) :
    DecidedAt handler command proposal nowMs nowMs := by
  cases source with
  | none => cases h
  | some randomSource =>
    cases hstate : handler.state with
    | gameplay game =>
      rw [hstate] at h
      cases hbody : command.body with
      | lifecycle body =>
        simp only [playerDecision, hbody] at h
        cases h
      | gameplay body =>
        simp only [playerDecision, hbody] at h
        exact gameplayDecision_decidedAt hstate hle h
    | lifecycle lobby =>
      rw [hstate] at h
      cases hbody : command.body with
      | lifecycle body =>
        simp only [playerDecision, hbody] at h
        exact lifecycleDecision_decidedAt hstate hle h
      | gameplay body =>
        simp only [playerDecision, hbody] at h
        cases h

theorem internalDecision_decidedAt {source : Option RandomSource}
    (hle : handler.committedAtMs ≤ nowMs)
    (h : internalDecision handler.state command nowMs source = .ok proposal) :
    DecidedAt handler command proposal nowMs nowMs := by
  unfold internalDecision at h
  split at h
  next game body randomSource hstate _ => exact gameplayDecision_decidedAt hstate hle h
  · cases h
  · cases h

theorem admits_decidedAt {codec : RoomCodec} {call : HandlerCall Realtime}
    {authenticated : AuthenticatedRoomPlayer} {joinedAtMs storeMs committedAtMs : ℤ}
    (h : Admits call authenticated joinedAtMs handler
      (admissionCommand codec authenticated handler.state) committedAtMs proposal) :
    DecidedAt handler (admissionCommand codec authenticated handler.state) proposal storeMs
      committedAtMs := by
  obtain ⟨htime, lobby, randomSource, -, -, hdecided⟩ := h
  unfold admissionDecision at hdecided
  split at hdecided
  · cases hdecided
  next result events _ =>
    simp only [bind_eq_ok, require_eq_ok, exists_const, pure_eq_ok] at hdecided
    obtain ⟨-, -, rfl⟩ := hdecided
    refine ⟨rfl, ?_, fun event hevent => envelopes_occurredAtMs hevent,
      fun _ _ => ⟨trivial, trivial⟩⟩
    rw [htime]
    exact (le_max_right _ _).trans (le_max_left _ _)

end Decisions

/-! ### What a call leaves -/

/-- A commit of `value` at a time of the store takes effect. -/
structure Commits (codec : Codec) (lease : RoomLease) (value : CommandCommit) (storeMs : ℤ)
    (db db' : Realtime) : Prop where
  checked : CheckedCommit codec value
  owned : Owned db lease storeMs
  expected : AtExpected db lease value
  recordable : Recordable db lease value
  store_eq : db' = committed codec lease value storeMs db

/-- A commit under a fault throws, without effect or although it took effect; or it answers, as a
duplicate or because it took effect. -/
theorem commit_run {codec : Codec} {fault : Fault} {lease : RoomLease} {value : CommandCommit}
    {storeMs : ℤ} {db : Realtime}
    {result : EStateM.Result ServerError Realtime CommandCommitResult}
    (h : fault.run (commit codec lease value storeMs) db = result) :
    (∀ error db', result = .error error db' → db' = db ∨ Commits codec lease value storeMs db db') ∧
      (∀ acknowledgement db', result = .ok ⟨acknowledgement, true⟩ db' → db' = db) ∧
      ∀ acknowledgement db', result = .ok ⟨acknowledgement, false⟩ db' →
        Commits codec lease value storeMs db db' := by
  subst h
  cases hcommit : commit codec lease value storeMs db with
  | error error =>
    refine ⟨fun _ db' h => ?_, fun _ db' h => ?_, fun _ db' h => ?_⟩ <;>
      cases fault <;> simp only [Fault.run, hcommit] at h <;> cases h <;> exact .inl rfl
  | ok result =>
    obtain ⟨answer, db₁⟩ := result
    have hcases : (answer.duplicate = true ∧ db₁ = db) ∨
        (answer.duplicate = false ∧ Commits codec lease value storeMs db db₁) := by
      obtain ⟨hchecked, howned, ⟨prior, -, -, rfl, rfl⟩ | ⟨hat, hrecord, rfl, rfl⟩⟩ :=
        commit_eq_ok.1 hcommit
      · exact .inl ⟨rfl, rfl⟩
      · exact .inr ⟨rfl, hchecked, howned, hat, hrecord, rfl⟩
    refine ⟨fun _ db' h => ?_, fun _ db' h => ?_, fun _ db' h => ?_⟩
    · cases fault <;> simp only [Fault.run, hcommit] at h <;> cases h
      · exact .inl rfl
      · exact hcases.imp And.right And.right
    · cases fault <;> simp only [Fault.run, hcommit] at h <;> cases h
      rcases hcases with ⟨-, hsame⟩ | ⟨hfalse, -⟩
      · exact hsame
      · cases hfalse
    · cases fault <;> simp only [Fault.run, hcommit] at h <;> cases h
      rcases hcases with ⟨htrue, -⟩ | ⟨-, hcommits⟩
      · cases htrue
      · exact hcommits

/-- The time of a commit in the store is the one of its events, but for an admission. -/
def StoredInTime (handler : RoomCommandHandler) (label : HandlerLabel)
    (storeMs committedAtMs : ℤ) : Prop :=
  committedAtMs = storeMs ∨ ∃ outside authenticated joinedAtMs,
    label = .ensureAdmitted outside authenticated joinedAtMs ∧ storeMs = outside.storeMs ∧
    committedAtMs =
      max (max joinedAtMs handler.committedAtMs) (committedTimestampFloor handler.state) ∧
    ∃ lobby, admissionLobby handler.state authenticated = .ok lobby

/-- What a call leaves: everything as it was, or a commit, which the handler keeps or, when its
answer is lost, does not know of. -/
inductive CallEffect (codec : RoomCodec) (s : HandlerState Realtime) (label : HandlerLabel) :
    HandlerState Realtime → Prop
  | unchanged : CallEffect codec s label s
  | committed (actorId : String) (command : RoomCommand)
      (finalization : Option SessionFinalization) (proposal : Proposal)
      (storeMs committedAtMs : ℤ) (after : HandlerState Realtime) :
      Commits codec.toCodec s.handler.lease
        (proposal.toCommit codec actorId command finalization) storeMs s.store after.store →
      DecidedAt s.handler command proposal storeMs committedAtMs →
      StoredInTime s.handler label storeMs committedAtMs →
      after.handler = s.handler ∨ after.handler =
        { s.handler with state := proposal.nextState, committedAtMs := committedAtMs } →
      CallEffect codec s label after

section Calls

variable {codec : RoomCodec} {outside : CallSurroundings} {s s' : HandlerState Realtime}
  {label : HandlerLabel}

theorem Handled.callEffect {actorId : String} {refusals : ServerError → Prop}
    {asked : RoomCommand → ℤ → Prop} {replies : CommandAcknowledgement → Ending → Prop}
    {decided : RoomCommand → ℤ → ℤ → Proposal → Prop}
    {finalization : RoomCommand → Option SessionFinalization} {ending : Ending}
    (hdecides : ∀ command storeMs committedAtMs proposal, asked command storeMs →
      decided command storeMs committedAtMs proposal →
      DecidedAt s.handler command proposal storeMs committedAtMs ∧
        StoredInTime s.handler label storeMs committedAtMs)
    (h : Handled codec (outside.call codec) actorId refusals asked replies decided finalization s
      ending s') : CallEffect codec s label s' := by
  cases h with
  | unasked => exact .unchanged
  | replayThrew command storeMs error store hasked hreplay =>
    obtain rfl := (findReplay_store hreplay).1 _ _ rfl
    exact .unchanged
  | replayed command storeMs acknowledgement store _ hasked hreplay =>
    obtain ⟨rfl, -⟩ := (findReplay_store hreplay).2 _ _ rfl
    exact .unchanged
  | refused command storeMs store _ hasked hreplay =>
    obtain ⟨rfl, -⟩ := (findReplay_store hreplay).2 _ _ rfl
    exact .unchanged
  | commitThrew command storeMs committedAtMs proposal store store' error hasked hreplay hdecided
      hcommit =>
    obtain ⟨rfl, -⟩ := (findReplay_store hreplay).2 _ _ rfl
    obtain ⟨hat, hintime⟩ := hdecides command storeMs committedAtMs proposal hasked hdecided
    rcases (commit_run hcommit).1 _ _ rfl with rfl | hcommits
    · exact .unchanged
    · exact .committed _ command _ proposal storeMs committedAtMs _ hcommits hat hintime (.inl rfl)
  | duplicate command storeMs committedAtMs proposal store store' acknowledgement _ hasked hreplay
      hdecided hcommit =>
    obtain ⟨rfl, -⟩ := (findReplay_store hreplay).2 _ _ rfl
    obtain rfl := (commit_run hcommit).2.1 _ _ rfl
    exact .unchanged
  | committed command storeMs committedAtMs proposal store store' acknowledgement hasked hreplay
      hdecided hcommit =>
    obtain ⟨rfl, -⟩ := (findReplay_store hreplay).2 _ _ rfl
    obtain ⟨hat, hintime⟩ := hdecides command storeMs committedAtMs proposal hasked hdecided
    exact .committed _ command _ proposal storeMs committedAtMs _
      ((commit_run hcommit).2.2 _ _ rfl) hat hintime (.inr rfl)

theorem HandlerStep.callEffect (h : HandlerStep codec s label s') (hne : label ≠ .others) :
    CallEffect codec s label s' := by
  cases h with
  | handle _ outside authenticated payload ending hhandled =>
    refine (handleSerial_handled hhandled).callEffect ?_
    rintro command storeMs committedAtMs proposal ⟨-, hnow⟩ ⟨rfl, hdecided⟩
    exact ⟨playerDecision_decidedAt (committedAtMs_le hnow) hdecided, .inl rfl⟩
  | handleInternal _ outside payload ending hhandled =>
    refine (handleWith_handled hhandled).callEffect ?_
    rintro command storeMs committedAtMs proposal ⟨-, hnow⟩ ⟨rfl, hdecided⟩
    exact ⟨internalDecision_decidedAt (committedAtMs_le hnow) hdecided, .inl rfl⟩
  | ensureAdmitted _ outside authenticated joinedAtMs hadmitted =>
    obtain ⟨ending, hhandled⟩ := ensureAdmittedPlayerSerial_handled hadmitted
    refine hhandled.callEffect ?_
    rintro _ storeMs committedAtMs proposal ⟨rfl, rfl⟩ hadmits
    obtain ⟨lobby, -, hlobby, -⟩ := hadmits.decided
    exact ⟨admits_decidedAt hadmits, .inr ⟨outside, authenticated, joinedAtMs, rfl, rfl,
      hadmits.committedAtMs_eq, lobby, hlobby⟩⟩
  | others => exact absurd rfl hne

end Calls

/-! ### Events -/

/-- No event of a room is later than `bound`. -/
def EventsBy (db : Realtime) (roomId : String) (bound : ℤ) : Prop :=
  ∀ id row, db.events id = some row → row.roomId = roomId → row.event.occurredAtMs ≤ bound

/-- The events of a room are of no later version than its checkpoint, and of no later time. -/
def ClockedEvents (db : Realtime) : Prop :=
  ∀ id row, db.events id = some row → ∃ checkpoint, db.checkpoints row.roomId = some checkpoint ∧
    row.stateVersion ≤ checkpoint.stateVersion ∧ row.event.occurredAtMs ≤ checkpoint.updatedAt

/-- A handler is at no later version than the checkpoint of its room; when it is at that version, it
has kept a time that no event of the room is later than. -/
def ClockedHandler (db : Realtime) (handler : RoomCommandHandler) : Prop :=
  ∃ checkpoint, db.checkpoints handler.lease.roomId = some checkpoint ∧
    handler.state.stateVersion ≤ checkpoint.stateVersion ∧
    (handler.state.stateVersion = checkpoint.stateVersion →
      EventsBy db handler.lease.roomId handler.committedAtMs)

structure Clocked (s : RoomHosts) : Prop where
  events : ClockedEvents s.store
  handlers : ∀ room handler, s.handlers room = some handler → ClockedHandler s.store handler
  forward : EventsForward s.store

/-- The events and the snapshots are left alone. -/
structure SameSnapshots (db db' : Realtime) : Prop where
  events : db'.events = db.events
  checkpoints : ∀ roomId, (db'.checkpoints roomId).map (fun row =>
      (row.stateVersion, row.updatedAt, row.serializedState)) =
    (db.checkpoints roomId).map fun row => (row.stateVersion, row.updatedAt, row.serializedState)

theorem SameSnapshots.checkpoint {db db' : Realtime} {roomId : String} {row : CheckpointRow}
    (h : SameSnapshots db db') (hrow : db.checkpoints roomId = some row) :
    ∃ row', db'.checkpoints roomId = some row' ∧ row'.stateVersion = row.stateVersion ∧
      row'.updatedAt = row.updatedAt ∧ row'.serializedState = row.serializedState := by
  have hsame := h.checkpoints roomId
  rw [hrow, Option.map_some, Option.map_eq_some_iff] at hsame
  obtain ⟨row', hrow', heq⟩ := hsame
  simp only [Prod.mk.injEq] at heq
  exact ⟨row', hrow', heq.1, heq.2.1, heq.2.2⟩

theorem SameSnapshots.symm {db db' : Realtime} (h : SameSnapshots db db') : SameSnapshots db' db :=
  ⟨h.events.symm, fun roomId => (h.checkpoints roomId).symm⟩

/-- A call that writes no snapshot moves a token at most. -/
theorem StoreEffect.sameSnapshots {codec : Codec} {db db' : Realtime} {now : ℤ} {call : StoreCall}
    {result : StoreResult} (h : StoreEffect codec db now call result db')
    (hcall : call.writesSnapshot = false) : SameSnapshots db db' := by
  cases h with
  | acquired _ _ _ _ _ _ hacquired =>
    cases hacquired with
    | takenOver current =>
      refine ⟨rfl, fun roomId => ?_⟩
      simp only [setLease, moveToken, Function.update_apply]
      split_ifs with hroom
      · subst hroom
        rw [Option.map_map]
        rfl
      · rfl
    | _ => exact ⟨rfl, fun _ => rfl⟩
  | initialized => cases hcall
  | saved => cases hcall
  | committed => cases hcall
  | _ => exact ⟨rfl, fun _ => rfl⟩

theorem addEvents_cases {roomId : String} {now : ℤ} {events : List RoomEvent}
    {table : Transactions.Table String EventRow} {id : String} {row : EventRow}
    (h : addEvents roomId now events table id = some row) :
    table id = some row ∨
      ∃ event ∈ events, row = ⟨roomId, event.stateVersion, event, now⟩ := by
  induction events generalizing table with
  | nil => exact .inl h
  | cons event rest ih =>
    rcases ih h with hbefore | ⟨other, hother, hrow⟩
    · beta_reduce at hbefore
      by_cases hid : id = event.eventId
      · subst hid
        rw [Function.update_self, Option.some.injEq] at hbefore
        exact .inr ⟨event, List.mem_cons_self .., hbefore.symm⟩
      · rw [Function.update_of_ne hid] at hbefore
        exact .inl hbefore
    · exact .inr ⟨other, List.mem_cons_of_mem _ hother, hrow⟩

section Commit

variable {codec : RoomCodec} {handler other : RoomCommandHandler} {actorId : String}
  {command : RoomCommand} {finalization : Option SessionFinalization} {proposal : Proposal}
  {storeMs committedAtMs : ℤ} {db db' : Realtime}
  (hcommits : Commits codec.toCodec handler.lease
    (proposal.toCommit codec actorId command finalization) storeMs db db')
  (hdecided : DecidedAt handler command proposal storeMs committedAtMs)
include hcommits hdecided

/-- A commit moves the checkpoint of its room on, by one version. -/
theorem Commits.checkpoint :
    (∃ before, db.checkpoints handler.lease.roomId = some before ∧
        before.stateVersion = handler.state.stateVersion) ∧
      (∃ after, db'.checkpoints handler.lease.roomId = some after ∧
        after.stateVersion = handler.state.stateVersion + 1 ∧ after.updatedAt = storeMs ∧
        after.serializedState = codec.serialize proposal.nextState) ∧
      proposal.nextState.stateVersion = handler.state.stateVersion + 1 := by
  obtain ⟨before, hbefore, hversion⟩ := hcommits.expected
  have hnext : proposal.nextState.stateVersion = handler.state.stateVersion + 1 := by
    rw [← hdecided.expected]
    exact hcommits.checked.consistent.1
  refine ⟨⟨before, (leasedCheckpoint_eq_some.1 hbefore).1, hversion.trans hdecided.expected⟩,
    ⟨snapshotRow codec.toCodec handler.lease _ _ storeMs, ?_, hnext, rfl, rfl⟩, hnext⟩
  rw [hcommits.store_eq]
  exact Function.update_self ..

omit hdecided in
theorem Commits.checkpoint_of_ne {roomId : String} (hne : roomId ≠ handler.lease.roomId) :
    db'.checkpoints roomId = db.checkpoints roomId := by
  rw [hcommits.store_eq]
  exact Function.update_of_ne hne _ _

/-- An event after a commit was there before, or is of the version and the time committed. -/
theorem Commits.event {id : String} {row : EventRow} (hrow : db'.events id = some row) :
    db.events id = some row ∨ (row.roomId = handler.lease.roomId ∧
      row.stateVersion = handler.state.stateVersion + 1 ∧
      row.event.occurredAtMs = committedAtMs) := by
  rw [hcommits.store_eq] at hrow
  rcases addEvents_cases hrow with hold | ⟨event, hevent, rfl⟩
  · exact .inl hold
  · refine .inr ⟨rfl, ?_, hdecided.events event hevent⟩
    rw [← (hcommits.checkpoint hdecided).2.2]
    exact hcommits.checked.consistent.2.2.2.1 event hevent

/-- Before a handler commits, no event of its room is later than the time it has kept. -/
theorem Commits.eventsBy (h : ClockedHandler db handler) :
    EventsBy db handler.lease.roomId handler.committedAtMs := by
  obtain ⟨before, hbefore, hversion⟩ := (hcommits.checkpoint hdecided).1
  obtain ⟨checkpoint, hcheckpoint, -, hevents⟩ := h
  rw [hbefore] at hcheckpoint
  cases hcheckpoint
  exact hevents hversion.symm

theorem Commits.clockedEvents (hevents : ClockedEvents db) (hhandler : ClockedHandler db handler)
    (hintime : committedAtMs ≤ storeMs) : ClockedEvents db' := by
  intro id row hrow
  obtain ⟨⟨before, hbefore, hversion⟩, ⟨after, hafter, hversion', htime, -⟩, -⟩ :=
    hcommits.checkpoint hdecided
  rcases hcommits.event hdecided hrow with hold | ⟨hroom, hrowVersion, hrowTime⟩
  · obtain ⟨checkpoint, hcheckpoint, hle, hby⟩ := hevents id row hold
    by_cases hroom : row.roomId = handler.lease.roomId
    · have hlast := hcommits.eventsBy hdecided hhandler id row hold hroom
      have hkept := hdecided.le
      rw [hroom] at hcheckpoint ⊢
      rw [hbefore] at hcheckpoint
      cases hcheckpoint
      exact ⟨after, hafter, by omega, by omega⟩
    · rw [hcommits.checkpoint_of_ne hroom]
      exact ⟨checkpoint, hcheckpoint, hle, hby⟩
  · rw [hroom]
    exact ⟨after, hafter, by omega, by omega⟩

theorem Commits.forward (hforward : EventsForward db) (hevents : ClockedEvents db)
    (hhandler : ClockedHandler db handler) : EventsForward db' := by
  intro id id' row row' hrow hrow' hsame hle
  have hkept := hdecided.le
  obtain ⟨before, hbefore, hversion⟩ := (hcommits.checkpoint hdecided).1
  rcases hcommits.event hdecided hrow with hold | ⟨hroom, hnew, htime⟩
  · rcases hcommits.event hdecided hrow' with hold' | ⟨hroom', -, htime'⟩
    · exact hforward id id' row row' hold hold' hsame hle
    · have hlast := hcommits.eventsBy hdecided hhandler id row hold (hsame.trans hroom')
      omega
  · rcases hcommits.event hdecided hrow' with hold' | ⟨-, -, htime'⟩
    · -- an event from before is of an earlier version
      obtain ⟨checkpoint, hcheckpoint, hbound, -⟩ := hevents id' row' hold'
      rw [← hsame, hroom, hbefore] at hcheckpoint
      cases hcheckpoint
      omega
    · omega

/-- A handler that does not keep the commit is behind the checkpoint, or in another room. -/
theorem Commits.clockedHandler_of_other (hother : ClockedHandler db other) :
    ClockedHandler db' other := by
  obtain ⟨checkpoint, hcheckpoint, hle, hevents⟩ := hother
  obtain ⟨⟨before, hbefore, hversion⟩, ⟨after, hafter, hversion', -⟩, -⟩ :=
    hcommits.checkpoint hdecided
  by_cases hroom : other.lease.roomId = handler.lease.roomId
  · unfold ClockedHandler
    rw [hroom] at hcheckpoint ⊢
    rw [hbefore] at hcheckpoint
    cases hcheckpoint
    exact ⟨after, hafter, by omega, fun heq => by omega⟩
  · refine ⟨checkpoint, ?_, hle, fun heq id row hrow hrowRoom => ?_⟩
    · rw [hcommits.checkpoint_of_ne hroom]
      exact hcheckpoint
    · rcases hcommits.event hdecided hrow with hold | ⟨hnew, -⟩
      · exact hevents heq id row hold hrowRoom
      · exact absurd (hrowRoom.symm.trans hnew) hroom

/-- The handler that keeps the commit has kept its time. -/
theorem Commits.clockedHandler (hhandler : ClockedHandler db handler) :
    ClockedHandler db'
      { handler with state := proposal.nextState, committedAtMs := committedAtMs } := by
  obtain ⟨-, ⟨after, hafter, hversion, -⟩, hnext⟩ := hcommits.checkpoint hdecided
  refine ⟨after, hafter, (hnext.trans hversion.symm).le, fun _ id row hrow hroom => ?_⟩
  show _ ≤ committedAtMs
  rcases hcommits.event hdecided hrow with hold | ⟨-, -, htime⟩
  · exact (hcommits.eventsBy hdecided hhandler id row hold hroom).trans hdecided.le
  · exact htime.le

end Commit

section Steps

variable {localeCompare : String → String → ℤ} {digest : String → List UInt8}
  {s s' : RoomHosts} {label : RoomHostsLabel}

/-- What holds of every handler and of a new one holds of every handler after. -/
theorem forall_handlers_update {P : RoomCommandHandler → Prop}
    {handlers : String → Option RoomCommandHandler} {room : String}
    {new : Option RoomCommandHandler} (hold : ∀ room handler, handlers room = some handler → P handler)
    (hnew : ∀ handler, new = some handler → P handler) :
    ∀ room' handler, Function.update handlers room new room' = some handler → P handler := by
  intro room' handler hhandler
  by_cases hroom : room' = room
  · subst hroom
    rw [Function.update_self] at hhandler
    exact hnew handler hhandler
  · rw [Function.update_of_ne hroom] at hhandler
    exact hold room' handler hhandler

theorem createRoomCommandHandler_eq_ok {state : RoomGameState} {updatedAt : ℤ} {lease : RoomLease}
    {handler : RoomCommandHandler}
    (h : createRoomCommandHandler state (some updatedAt) lease = .ok handler) :
    handler.state = state ∧ handler.lease = lease ∧ updatedAt ≤ handler.committedAtMs := by
  simp only [createRoomCommandHandler, bind_eq_ok, require_eq_ok, exists_const, pure_eq_ok] at h
  obtain ⟨-, rfl⟩ := h
  exact ⟨rfl, rfl, le_max_left _ _⟩

/-- A checkpoint that was loaded is the one of the room. -/
theorem loadCheckpoint_some {codec : Codec} {lease : RoomLease} {now : ℤ} {db db' : Realtime}
    {checkpoint : RoomCheckpoint}
    (h : loadCheckpoint codec lease now db = .ok (some checkpoint, db')) :
    ∃ row, db.checkpoints lease.roomId = some row ∧
      codec.snapshotVersion row.serializedState = some row.stateVersion ∧
      checkpoint.serializedState = row.serializedState ∧ checkpoint.updatedAt = row.updatedAt := by
  simp only [loadCheckpoint, assertOwned_bind_eq_ok, Transactions.read_bind] at h
  obtain ⟨-, h⟩ := h
  cases hrow : leasedCheckpoint db lease with
  | none =>
    simp only [hrow, Transactions.pure_eq_ok] at h
    cases h.1
  | some row =>
    simp only [hrow, Transactions.bind_eq_ok, parseRow_eq_ok, Transactions.pure_eq_ok] at h
    obtain ⟨_, _, ⟨-, hvalid, -, rfl, -⟩, hsome, -⟩ := h
    cases hsome
    exact ⟨row, (leasedCheckpoint_eq_some.1 hrow).1, hvalid.2, rfl, rfl⟩

/-- The version of a parsed checkpoint is the stored one. -/
theorem stateVersion_of_parsed {text : String} {version : ℤ} {state : RoomGameState}
    (hversion : (roomCodec localeCompare digest).snapshotVersion text = some version)
    (hparse : parseCheckpointState localeCompare text = .ok state) :
    state.stateVersion = version := by
  simp only [roomCodec, hparse, Except.toOption, Option.map_some, Option.some.injEq] at hversion
  exact hversion

/-- The commit of a call that is in time is in time. -/
theorem StoredInTime.le {room : String} {handler : RoomCommandHandler} {label : HandlerLabel}
    {storeMs committedAtMs : ℤ} (h : StoredInTime handler label storeMs committedAtMs)
    (hhandler : s.handlers room = some handler) (hinTime : AdmitsInTime s (.called room label))
    (howned : Owned s.store handler.lease storeMs)
    (hexpected : ∃ row ∈ leasedCheckpoint s.store handler.lease,
      row.stateVersion = handler.state.stateVersion) : committedAtMs ≤ storeMs := by
  rcases h with rfl | ⟨outside, authenticated, joinedAtMs, rfl, rfl, rfl, hlobby⟩
  · exact le_rfl
  · obtain ⟨hjoined, hkept, hfloor⟩ := hinTime handler hhandler hlobby howned hexpected
    exact max_le (max_le hjoined hkept) hfloor

theorem ClockedHandler.of_same {db db' : Realtime} {handler : RoomCommandHandler}
    (h : ClockedHandler db handler) (hsame : SameSnapshots db db') : ClockedHandler db' handler := by
  obtain ⟨checkpoint, hcheckpoint, hle, hevents⟩ := h
  obtain ⟨checkpoint', hcheckpoint', hversion, -, -⟩ := hsame.checkpoint hcheckpoint
  refine ⟨checkpoint', hcheckpoint', hversion ▸ hle, fun heq id row hrow => ?_⟩
  rw [hsame.events] at hrow
  exact hevents (heq.trans hversion) id row hrow

theorem RoomHostsStep.clocked (h : RoomHostsStep localeCompare digest s label s')
    (hinTime : AdmitsInTime s label) (hclocked : Clocked s) : Clocked s' := by
  cases h with
  | opened room lease now bootstrap randomSource state text checkpoint store handler hnone hcreate
      htext hinitialize hhandler =>
    obtain ⟨-, hfree, rfl⟩ := initializeCheckpoint_ok hinitialize
    obtain ⟨hstate, hlease, -⟩ := createRoomCommandHandler_eq_ok hhandler
    -- a room without a checkpoint has no events
    have hquiet : ∀ id row, s.store.events id = some row → row.roomId ≠ lease.roomId := by
      intro id row hrow hroom
      obtain ⟨other, hother, -⟩ := hclocked.events id row hrow
      rw [hroom, hfree] at hother
      cases hother
    refine ⟨fun id row hrow => ?_, forall_handlers_update (fun room' other hother => ?_) ?_,
      hclocked.forward⟩
    · obtain ⟨other, hother, hle⟩ := hclocked.events id row hrow
      exact ⟨other, (Function.update_of_ne (hquiet id row hrow) _ _).trans hother, hle⟩
    · obtain ⟨before, hbefore, hle⟩ := hclocked.handlers room' other hother
      refine ⟨before, (Function.update_of_ne ?_ _ _).trans hbefore, hle⟩
      intro hroom
      rw [hroom, hfree] at hbefore
      cases hbefore
    · rintro _ ⟨⟩
      refine ⟨_, by rw [hlease]; exact Function.update_self .., ?_, fun _ id row hrow hroom => ?_⟩
      · rw [hstate]
        exact le_rfl
      · exact absurd (hroom.trans (by rw [hlease])) (hquiet id row hrow)
  | restored room lease now checkpoint state handler hnone hload hparse hhandler =>
    obtain ⟨row, hrow, hversion, htext, htime⟩ := loadCheckpoint_some hload
    obtain ⟨hstate, hlease, hkept⟩ := createRoomCommandHandler_eq_ok hhandler
    refine ⟨hclocked.events, forall_handlers_update hclocked.handlers ?_, hclocked.forward⟩
    rintro _ ⟨⟩
    refine ⟨row, by rw [hlease]; exact hrow, ?_, fun _ id event hevent hroom => ?_⟩
    · rw [htext] at hparse
      rw [hstate, @stateVersion_of_parsed localeCompare digest _ _ _ hversion hparse]
    · obtain ⟨row', hrow', -, hby⟩ := hclocked.events id event hevent
      rw [hroom, hlease, hrow] at hrow'
      cases hrow'
      omega
  | called room handler label after hhandler hne hstep =>
    cases hstep.callEffect hne with
    | unchanged => exact ⟨hclocked.events, forall_handlers_update hclocked.handlers
        (fun _ h => hclocked.handlers room _ (hhandler.trans h)), hclocked.forward⟩
    | committed actorId command finalization proposal storeMs committedAtMs _ hcommits hdecided
        hstored hkept =>
      have hthis := hclocked.handlers room handler hhandler
      have hexpected : ∃ row ∈ leasedCheckpoint s.store handler.lease,
          row.stateVersion = handler.state.stateVersion := by
        obtain ⟨row, hrow, hversion⟩ := hcommits.expected
        exact ⟨row, hrow, hversion.trans hdecided.expected⟩
      have hle := hstored.le hhandler hinTime hcommits.owned hexpected
      refine ⟨hcommits.clockedEvents hdecided hclocked.events hthis hle,
        forall_handlers_update (fun room' other hother => ?_) ?_,
        hcommits.forward hdecided hclocked.forward hclocked.events hthis⟩
      · exact hcommits.clockedHandler_of_other hdecided (hclocked.handlers room' other hother)
      · rintro _ ⟨⟩
        rcases hkept with hsame | hnew
        · rw [hsame]
          exact hcommits.clockedHandler_of_other hdecided hthis
        · rw [hnew]
          exact hcommits.clockedHandler hdecided hthis
  | left room => exact ⟨hclocked.events, forall_handlers_update hclocked.handlers (by simp),
      hclocked.forward⟩
  | stored label store hstore hcall =>
    have hsame := hstore.effect.sameSnapshots hcall
    refine ⟨fun id row hrow => ?_, fun room handler hhandler =>
      (hclocked.handlers room handler hhandler).of_same hsame, ?_⟩
    · rw [hsame.events] at hrow
      obtain ⟨checkpoint, hcheckpoint, hle, hby⟩ := hclocked.events id row hrow
      obtain ⟨checkpoint', hcheckpoint', hversion, htime, -⟩ := hsame.checkpoint hcheckpoint
      exact ⟨checkpoint', hcheckpoint', hversion ▸ hle, htime ▸ hby⟩
    · have hforward := hclocked.forward
      unfold EventsForward at hforward ⊢
      rwa [hsame.events]

/-! ### Stored times -/

/-- No time stored in a game is later than the checkpoint that holds it, or than what the handler
has kept. -/
structure Timed (localeCompare : String → String → ℤ) (s : RoomHosts) : Prop where
  checkpoints : ∀ roomId row, s.store.checkpoints roomId = some row → ∀ state,
    parseCheckpointState localeCompare row.serializedState = .ok state →
    state.StampedBy row.updatedAt
  handlers : ∀ room handler, s.handlers room = some handler →
    handler.state.StampedBy handler.committedAtMs

theorem parseCheckpointState_lobby {lobby : GameState} {text : String} {state : RoomGameState}
    (htext : serializeSnapshot localeCompare lobby = .ok text)
    (hparse : parseCheckpointState localeCompare text = .ok state) : state = .lifecycle lobby := by
  simp only [parseCheckpointState, (fits_of_serializeSnapshot htext).2.2, Except.ok.injEq] at hparse
  exact hparse.symm

theorem RoomHostsStep.timed (h : RoomHostsStep localeCompare digest s label s')
    (htimed : Timed localeCompare s) : Timed localeCompare s' := by
  cases h with
  | opened room lease now bootstrap randomSource lobby text checkpoint store handler hnone hcreate
      htext hinitialize hhandler =>
    obtain ⟨-, hfree, rfl⟩ := initializeCheckpoint_ok hinitialize
    obtain ⟨hstate, -, -⟩ := createRoomCommandHandler_eq_ok hhandler
    refine ⟨fun roomId row hrow state hparse => ?_, forall_handlers_update htimed.handlers ?_⟩
    · by_cases hroom : roomId = lease.roomId
      · subst hroom
        simp only [setCheckpoint, Function.update_self, Option.some.injEq] at hrow
        subst hrow
        rw [parseCheckpointState_lobby htext hparse]
        trivial
      · simp only [setCheckpoint, Function.update_of_ne hroom] at hrow
        exact htimed.checkpoints roomId row hrow state hparse
    · rintro _ ⟨⟩
      rw [hstate]
      trivial
  | restored room lease now checkpoint state handler hnone hload hparse hhandler =>
    obtain ⟨row, hrow, -, htext, htime⟩ := loadCheckpoint_some hload
    obtain ⟨hstate, -, hkept⟩ := createRoomCommandHandler_eq_ok hhandler
    refine ⟨htimed.checkpoints, forall_handlers_update htimed.handlers ?_⟩
    rintro _ ⟨⟩
    rw [htext] at hparse
    rw [hstate]
    exact (htimed.checkpoints _ row hrow state hparse).mono (htime ▸ hkept)
  | called room handler label after hhandler hne hstep =>
    cases hstep.callEffect hne with
    | unchanged => exact ⟨htimed.checkpoints, forall_handlers_update htimed.handlers
        fun _ h => htimed.handlers room _ (hhandler.trans h)⟩
    | committed actorId command finalization proposal storeMs committedAtMs _ hcommits hdecided
        hstored hkept =>
      obtain ⟨-, ⟨written, hwritten, -, hupdated, hserialized⟩, -⟩ := hcommits.checkpoint hdecided
      have hthis := htimed.handlers room handler hhandler
      -- the store has accepted the text of the next state, and reads that state back
      have hread : parseCheckpointState localeCompare
          (serializeRoomState localeCompare proposal.nextState) = .ok proposal.nextState :=
        @parse_of_snapshotVersion localeCompare digest _ _ hcommits.checked.snapshot.2
      have hstamped := hdecided.stamped (parseCheckpointState_valid hread) hthis
      refine ⟨fun roomId row hrow state hparse => ?_, forall_handlers_update htimed.handlers ?_⟩
      · by_cases hroom : roomId = handler.lease.roomId
        · subst hroom
          rw [hwritten] at hrow
          cases hrow
          rw [hserialized] at hparse
          cases hread.symm.trans hparse
          rw [hupdated]
          exact hstamped.1
        · rw [hcommits.checkpoint_of_ne hroom] at hrow
          exact htimed.checkpoints roomId row hrow state hparse
      · rintro _ ⟨⟩
        rcases hkept with hsame | hnew
        · rw [hsame]
          exact hthis
        · rw [hnew]
          exact hstamped.2
  | left room => exact ⟨htimed.checkpoints, forall_handlers_update htimed.handlers (by simp)⟩
  | stored label store hstore hcall =>
    have hsame := (hstore.effect.sameSnapshots hcall).symm
    refine ⟨fun roomId row hrow state hparse => ?_, htimed.handlers⟩
    obtain ⟨row', hrow', -, htime, htext⟩ := hsame.checkpoint hrow
    rw [← htime]
    exact htimed.checkpoints roomId row' hrow' state (htext ▸ hparse)

/-! ### Runs -/

theorem noRooms_clocked (h : NoRooms s) : Clocked s := by
  obtain ⟨⟨sessions, hstore⟩, hnone⟩ := h
  refine ⟨fun id row hrow => ?_, fun room handler hhandler => ?_, fun id id' row row' hrow => ?_⟩
  · rw [hstore] at hrow
    cases hrow
  · rw [hnone] at hhandler
    cases hhandler
  · rw [hstore] at hrow
    cases hrow

theorem noRooms_timed (h : NoRooms s) : Timed localeCompare s := by
  obtain ⟨⟨sessions, hstore⟩, hnone⟩ := h
  refine ⟨fun roomId row hrow => ?_, fun room handler hhandler => ?_⟩
  · rw [hstore] at hrow
    cases hrow
  · rw [hnone] at hhandler
    cases hhandler

theorem commandsForward_of_stampedBy {handler : RoomCommandHandler}
    (h : handler.state.StampedBy handler.committedAtMs) : CommandsForward handler := by
  intro state hstate clockMs nowMs hnow
  rw [hstate] at h
  exact fun stamp hstamp => (h stamp hstamp).trans (committedAtMs_le hnow)

/-- Whatever the clocks, a gameplay command is not given a time before one stored in its game. -/
theorem run_commandsForward {start : RoomHosts} {labels : List RoomHostsLabel}
    (hstart : NoRooms start) (hrun : Run (RoomHostsStep localeCompare digest) start labels s) :
    ∀ room handler, s.handlers room = some handler → CommandsForward handler :=
  fun room handler hhandler => commandsForward_of_stampedBy
    ((hrun.invariant (fun _ _ _ htimed hstep => hstep.timed htimed) (noRooms_timed hstart)).handlers
      room handler hhandler)

end Steps

/-- While every admission is committed in time, the time of a room does not run backwards. -/
theorem room_time_forward (localeCompare : String → String → ℤ) (digest : String → List UInt8)
    (start s : RoomHosts) (labels : List RoomHostsLabel) (hstart : NoRooms start)
    (hrun : Run (Guarded AdmitsInTime (RoomHostsStep localeCompare digest)) start labels s) :
    EventsForward s.store ∧
      ∀ room handler, s.handlers room = some handler → CommandsForward handler :=
  ⟨(hrun.invariant (fun _ _ _ hclocked hstep => hstep.1.clocked hstep.2 hclocked)
      (noRooms_clocked hstart)).forward,
    run_commandsForward hstart (hrun.mono fun _ _ _ hstep => hstep.1)⟩

/-! ### A restart after an admission -/

section Calls

variable (codec : RoomCodec) (handler : RoomCommandHandler) (client : AuthenticatedRoomPlayer)
  {db db' : Realtime} {proposal : Proposal} {storeMs committedAtMs : ℤ}

variable {codec} in
theorem Commits.run_none {value : CommandCommit} {lease : RoomLease}
    (h : Commits codec.toCodec lease value storeMs db db') :
    Fault.none.run (commit codec.toCodec lease value storeMs) db
      = .ok ⟨value.acknowledgement, false⟩ db' := by
  simp only [Fault.run, commit_eq_ok.2 ⟨h.checked, h.owned,
    .inr ⟨h.expected, h.recordable, rfl, h.store_eq⟩⟩]

variable {codec} in
theorem Commits.findReplay_none {value : CommandCommit} {lease : RoomLease}
    (h : Commits codec.toCodec lease value storeMs db db') :
    Fault.none.run (findReplay codec.toCodec lease value.playerId value.command storeMs) db
      = .ok none db := by
  simp only [Fault.run, findReplay_eq_ok.2 ⟨h.checked.player, h.owned, storedResponse_eq_ok.2
    ⟨rfl, .inl ⟨h.recordable.command, rfl⟩⟩⟩]

/-- A player's command that is decided on and can be recorded is committed. -/
theorem handle_commits {payload : RoomPayload false} {command : RoomCommand} {clockMs nowMs : ℤ}
    (hcommand : payload.command = some command)
    (hnow : commandTimestampMs handler clockMs = .ok nowMs)
    (hdecide : playerDecision client.playerId handler.state command nowMs
      (some (scriptedSource [] handler.state.rng)) = .ok proposal)
    (h : Commits codec.toCodec handler.lease (proposal.toCommit codec client.playerId command
      (sessionFinalization codec client command)) nowMs db db') :
    HandlerStep codec ⟨handler, db⟩
      (.handle (surroundings clockMs .none) client payload
        (.accepted ⟨command.requestId, proposal.nextState.stateVersion,
          proposal.events.map RoomEvent.eventId⟩ false))
      ⟨{ handler with state := proposal.nextState, committedAtMs := nowMs }, db'⟩ := by
  have hhandled : handleSerial codec ((surroundings clockMs .none).call codec) client payload
      ⟨handler, db⟩ = .ok (.accepted _ proposal.events false)
        ⟨{ handler with state := proposal.nextState, committedAtMs := nowMs }, db'⟩ :=
    handleWith_committed hcommand hnow h.findReplay_none hdecide h.run_none
  exact .handle _ _ _ _ _ _ (by rw [hhandled]; rfl)

/-- An admission that is decided on and can be recorded is committed. -/
theorem admission_commits {joinedAtMs : ℤ} {lobby : GameState}
    (htime : IsSafeInteger joinedAtMs ∧ 0 ≤ joinedAtMs)
    (hlobby : admissionLobby handler.state client = .ok lobby)
    (hseat : Slots.slotAt handler.state.players client.seatIndex ≠ some client.playerId)
    (hcommittedAt : committedAtMs =
      max (max joinedAtMs handler.committedAtMs) (committedTimestampFloor handler.state))
    (hdecide : admissionDecision client lobby (admissionCommand codec client handler.state)
      joinedAtMs committedAtMs (scriptedSource [] handler.state.rng) = .ok proposal)
    (h : Commits codec.toCodec handler.lease (proposal.toCommit codec client.playerId
      (admissionCommand codec client handler.state) none) storeMs db db') :
    HandlerStep codec ⟨handler, db⟩ (.ensureAdmitted (surroundings storeMs .none) client joinedAtMs)
      ⟨{ handler with state := proposal.nextState, committedAtMs := committedAtMs }, db'⟩ := by
  have hadmitted : ensureAdmittedPlayerSerial codec ((surroundings storeMs .none).call codec) client
      joinedAtMs ⟨handler, db⟩ = .ok proposal.events
        ⟨{ handler with state := proposal.nextState, committedAtMs := committedAtMs }, db'⟩ :=
    ensureAdmittedPlayerSerial_committed htime hlobby hseat rfl hcommittedAt h.findReplay_none hdecide
      h.run_none
  exact .ensureAdmitted _ _ _ _ _ (by rw [hadmitted]; rfl)

end Calls

/-- Alice's lobby, with a guest or without. -/
def clockLobby (stateVersion : ℤ) (guest : Option PlayerSeat) : GameState :=
  { aliceLobby with
    stateVersion := stateVersion
    seats := [some (createSeat "alice" 0 0), guest, none, none] }

def guest (playerId : String) : AuthenticatedRoomPlayer :=
  ⟨"game", playerId, "res_" ++ playerId, "room", 1, "user_" ++ playerId⟩

def leaveCommand (requestId : String) (stateVersion : ℤ) : RoomCommand :=
  ⟨requestId, stateVersion, .lifecycle .leaveGame⟩

def leavePayload (requestId : String) (stateVersion : ℤ) : RoomPayload false where
  requestId := some requestId
  command := some (leaveCommand requestId stateVersion)
  parsed := by
    rintro _ ⟨⟩
    exact ⟨rfl, rfl⟩

/-- A guest leaves the lobby at `nowMs`. -/
def leaveProposal (playerId requestId : String) (stateVersion nowMs : ℤ) : Proposal where
  nextState := .lifecycle (clockLobby (stateVersion + 1) none)
  events := lifecycleEvents [.playerLeft playerId 1 1] requestId (stateVersion + 1) nowMs
  proof := none

def leaveCommit (playerId requestId : String) (stateVersion nowMs : ℤ) : CommandCommit :=
  (leaveProposal playerId requestId stateVersion nowMs).toCommit clockCodec playerId
    (leaveCommand requestId stateVersion)
    (sessionFinalization clockCodec (guest playerId) (leaveCommand requestId stateVersion))

/-- Carol is admitted, having joined at 600, when the room's last commit was at 1000. -/
def carolProposal : Proposal where
  nextState := .lifecycle (clockLobby 3 (some (createSeat "carol" 1 600)))
  events := lifecycleEvents [.playerJoined "carol" 1 2] (admissionRequestId clockCodec (guest "carol"))
    3 1000
  proof := none

def carolAdmission : CommandCommit :=
  carolProposal.toCommit clockCodec "carol"
    (admissionCommand clockCodec (guest "carol") (.lifecycle (clockLobby 2 none))) none

/-- The lobbies below, as far as their snapshots go. -/
def Written (lobby : GameState) : Prop := (hydrateState (stateJson lobby)).isOk = true

theorem written_bob : Written (clockLobby 1 (some (createSeat "bob" 1 0))) := by
  unfold Written
  decide +kernel

theorem written_carol : Written (clockLobby 3 (some (createSeat "carol" 1 600))) := by
  unfold Written
  decide +kernel

theorem written_left : Written (clockLobby 2 none) ∧ Written (clockLobby 4 none) := by
  unfold Written
  constructor <;> decide +kernel

theorem Written.fits {lobby : GameState} (h : Written lobby) :
    StateFits lobby ∧ Coherent lobby := by
  unfold Written at h
  cases hread : hydrateState (stateJson lobby) with
  | error error =>
    rw [hread] at h
    cases h
  | ok lobby' => exact (hydrateState_stateJson.1 hread).2

theorem Written.snapshot {lobby : GameState} (h : Written lobby) :
    ValidSnapshot clockCodec.toCodec (clockCodec.serialize (.lifecycle lobby))
      lobby.stateVersion := by
  unfold clockCodec
  exact (@validSnapshot_lobby compareLetters strokeCodec.digest lobby h.fits.1 h.fits.2).2

/-! The store after each step. -/

def clockLease (fencingToken : ℕ) (leaseUntil : ℤ) : RoomLease :=
  ⟨fencingToken, "game", "server", leaseUntil, "room"⟩

def leasedStore : Realtime :=
  setLease "room" ⟨"game", "server", 60000, 1, 0⟩ (freshRealtime fun _ => some "room")

def openedStore : Realtime :=
  setCheckpoint "room" (snapshotRow clockCodec.toCodec (clockLease 1 60000) 1
    (clockCodec.serialize (.lifecycle (clockLobby 1 (some (createSeat "bob" 1 0))))) 10) leasedStore

def bobLeftStore : Realtime :=
  committed clockCodec.toCodec (clockLease 1 60000) (leaveCommit "bob" "b" 1 1000) 1000 openedStore

def carolStore : Realtime :=
  committed clockCodec.toCodec (clockLease 1 60000) carolAdmission 601 bobLeftStore

def releasedStore : Realtime := setLease "room" ⟨"game", "server", 602, 1, 602⟩ carolStore

def takenStore : Realtime :=
  setLease "room" ⟨"game", "server", 60603, 2, 603⟩ (moveToken "room" 2 602 603 releasedStore)

def carolLeftStore : Realtime :=
  committed clockCodec.toCodec (clockLease 2 60603) (leaveCommit "carol" "c" 3 700) 700 takenStore

theorem leaveCommit_commits {playerId requestId : String} {stateVersion nowMs : ℤ}
    {lease : RoomLease} {db : Realtime}
    (hplayer : validOpaqueId playerId = true ∧ validOpaqueId ("res_" ++ playerId) = true)
    (hkey : validIdempotencyKey (sessionFinalizationIdempotencyKey clockCodec "game" "room" playerId
      requestId .leave) = true)
    (hwritten : Written (clockLobby (stateVersion + 1) none)) (howned : Owned db lease nowMs)
    (hrow : ∃ row, leasedCheckpoint db lease = some row ∧ row.stateVersion = stateVersion)
    (hevent : db.events (eventId requestId 0) = none)
    (hcommand : db.commands (commandKey lease.roomId playerId requestId) = none)
    (hfinal : db.finalizations (commandKey lease.roomId playerId requestId) = none) :
    Commits clockCodec.toCodec lease (leaveCommit playerId requestId stateVersion nowMs) nowMs db
      (committed clockCodec.toCodec lease (leaveCommit playerId requestId stateVersion nowMs) nowMs
        db) where
  checked := by
    have hsnapshot : ValidSnapshot clockCodec.toCodec
        (leaveCommit playerId requestId stateVersion nowMs).serializedState (stateVersion + 1) :=
      hwritten.snapshot
    have hids : (leaveCommit playerId requestId stateVersion nowMs).acknowledgement.eventIds.length
        = 1 := rfl
    refine ⟨hplayer.1, by omega, fun _ => rfl, ?_, ⟨rfl, rfl, rfl, ?_, rfl⟩, hsnapshot⟩
    · rintro _ ⟨⟩
      rfl
    · rintro event hevent
      obtain ⟨index, hindex, rfl⟩ := List.mem_mapIdx.1 hevent
      rfl
  owned := howned
  expected := hrow
  recordable := by
    refine ⟨List.nodup_singleton _, ?_, ?_, hcommand, ?_⟩
    · intro event hmem
      rw [List.mem_singleton.1 hmem]
      exact hevent
    · rintro _ ⟨⟩
    · rintro _ ⟨⟩
      exact ⟨hplayer.2, hkey, hfinal⟩
  store_eq := rfl

theorem clock_opened : RoomHostsStep compareLetters strokeCodec.digest ⟨leasedStore, fun _ => none⟩
    (.opened "first") ⟨openedStore, Function.update (fun _ => none) "first"
      (some ⟨.lifecycle (clockLobby 1 (some (createSeat "bob" 1 0))), 10, clockLease 1 60000⟩)⟩ := by
  obtain ⟨text, htext, hparse, hserialize⟩ :=
    (@validSnapshot_lobby compareLetters strokeCodec.digest _ written_bob.fits.1
      written_bob.fits.2).1
  have hsnapshot := written_bob.snapshot
  unfold clockCodec at hsnapshot
  have hcreate : createWaitingState compareLetters
      { gameId := "game", lifecycle := .opened, stateVersion := 0, creatorPlayerId := "alice",
        maximumPlayers := 4, timeLimitMs := none, createdAtMs := 0, startedAtMs := none,
        players := [⟨"alice", 0, 0⟩, ⟨"bob", 1, 0⟩] } (scriptedSource [] twoPlayerLobby.rng)
        = .ok (clockLobby 1 (some (createSeat "bob" 1 0))) := by
    simp only [createWaitingState, bind_eq_ok, require_eq_ok, exists_const, requireSome_eq_ok]
    exact ⟨by decide, _, rfl, "game", rfl, "alice", rfl, _, rfl, text, htext, hparse⟩
  refine .opened _ "first" (clockLease 1 60000) 10 _ _ _ text
    ⟨clockCodec.toCodec.sha256 text, 1, text, 1, 10⟩ _ _ rfl hcreate htext ?_ rfl
  simp only [initializeCheckpoint, validate_bind_eq_ok, Transactions.check_bind_eq_ok,
    assertOwned_bind_eq_ok, Transactions.read_bind, Transactions.write_bind, parseRow_eq_ok]
  rw [← hserialize]
  exact ⟨hsnapshot, by decide, ⟨_, rfl, rfl, rfl, rfl, by decide⟩, rfl, by decide, hsnapshot,
    trivial, rfl, rfl⟩

theorem clock_bobLeaves : HandlerStep clockCodec
    ⟨⟨.lifecycle (clockLobby 1 (some (createSeat "bob" 1 0))), 10, clockLease 1 60000⟩, openedStore⟩
    (.handle (surroundings 1000 .none) (guest "bob") (leavePayload "b" 1)
      (.accepted ⟨"b", 2, ["evt_b_0"]⟩ false))
    ⟨⟨.lifecycle (clockLobby 2 none), 1000, clockLease 1 60000⟩, bobLeftStore⟩ := by
  have hdecide : playerDecision "bob" (.lifecycle (clockLobby 1 (some (createSeat "bob" 1 0))))
      (leaveCommand "b" 1) 1000 (some (scriptedSource [] twoPlayerLobby.rng))
      = .ok (leaveProposal "bob" "b" 1 1000) := rfl
  have howned : Owned openedStore (clockLease 1 60000) 1000 := ⟨_, rfl, rfl, rfl, rfl, by decide⟩
  have hcommits : Commits clockCodec.toCodec (clockLease 1 60000) (leaveCommit "bob" "b" 1 1000)
      1000 _ _ :=
    leaveCommit_commits (by decide) (by decide) written_left.1 howned
      ⟨_, leasedCheckpoint_eq_some.2 ⟨rfl, rfl, rfl⟩, rfl⟩ rfl rfl rfl
  exact handle_commits clockCodec
    ⟨.lifecycle (clockLobby 1 (some (createSeat "bob" 1 0))), 10, clockLease 1 60000⟩ (guest "bob")
    rfl rfl hdecide hcommits

theorem carolAdmission_commits {storeMs : ℤ} (hlive : storeMs < 60000) :
    Commits clockCodec.toCodec (clockLease 1 60000) carolAdmission storeMs bobLeftStore
      (committed clockCodec.toCodec (clockLease 1 60000) carolAdmission storeMs bobLeftStore) where
  checked := by
    have hsnapshot : ValidSnapshot clockCodec.toCodec carolAdmission.serializedState 3 :=
      written_carol.snapshot
    refine ⟨by decide, by decide, fun h => absurd rfl h, ?_, ⟨rfl, rfl, rfl, ?_, rfl⟩, hsnapshot⟩
    · rintro _ ⟨⟩
    · rintro event hevent
      obtain ⟨index, hindex, rfl⟩ := List.mem_mapIdx.1 hevent
      rfl
  owned := ⟨_, rfl, rfl, rfl, rfl, hlive⟩
  expected := ⟨_, leasedCheckpoint_eq_some.2 ⟨rfl, rfl, rfl⟩, rfl⟩
  recordable := by
    refine ⟨List.nodup_singleton _, ?_, ?_, ?_, ?_⟩
    · intro event hmem
      rw [List.mem_singleton.1 hmem]
      rfl
    · rintro _ ⟨⟩
    · exact committed_commands_of_ne (commandKey_ne (by decide))
    · rintro _ ⟨⟩
  store_eq := rfl

theorem clock_carolAdmitted {storeMs : ℤ} (hlive : storeMs < 60000) : HandlerStep clockCodec
    ⟨⟨.lifecycle (clockLobby 2 none), 1000, clockLease 1 60000⟩, bobLeftStore⟩
    (.ensureAdmitted (surroundings storeMs .none) (guest "carol") 600)
    ⟨⟨.lifecycle (clockLobby 3 (some (createSeat "carol" 1 600))), 1000, clockLease 1 60000⟩,
      committed clockCodec.toCodec (clockLease 1 60000) carolAdmission storeMs bobLeftStore⟩ := by
  have hlobby : admissionLobby (.lifecycle (clockLobby 2 none)) (guest "carol")
      = .ok (clockLobby 2 none) := rfl
  have hdecide : admissionDecision (guest "carol") (clockLobby 2 none)
      (admissionCommand clockCodec (guest "carol") (.lifecycle (clockLobby 2 none))) 600 1000
      (scriptedSource [] twoPlayerLobby.rng) = .ok carolProposal := rfl
  have htime : IsSafeInteger 600 ∧ (0 : ℤ) ≤ 600 := by decide
  have hseat : Slots.slotAt (RoomGameState.lifecycle (clockLobby 2 none)).players 1
      ≠ some "carol" := by decide
  have hcommittedAt : (1000 : ℤ) = max (max 600 1000)
      (committedTimestampFloor (.lifecycle (clockLobby 2 none))) := by decide
  exact admission_commits clockCodec ⟨.lifecycle (clockLobby 2 none), 1000, clockLease 1 60000⟩
    (guest "carol") htime hlobby hseat hcommittedAt hdecide
    (carolAdmission_commits hlive)

theorem clock_carolLeaves : HandlerStep clockCodec
    ⟨⟨.lifecycle (clockLobby 3 (some (createSeat "carol" 1 600))), 601, clockLease 2 60603⟩,
      takenStore⟩
    (.handle (surroundings 700 .none) (guest "carol") (leavePayload "c" 3)
      (.accepted ⟨"c", 4, ["evt_c_0"]⟩ false))
    ⟨⟨.lifecycle (clockLobby 4 none), 700, clockLease 2 60603⟩, carolLeftStore⟩ := by
  have hdecide : playerDecision "carol" (.lifecycle (clockLobby 3 (some (createSeat "carol" 1 600))))
      (leaveCommand "c" 3) 700 (some (scriptedSource [] twoPlayerLobby.rng))
      = .ok (leaveProposal "carol" "c" 3 700) := rfl
  have hcommand : takenStore.commands (commandKey "room" "carol" "c") = none := by
    have hcarol : commandKey "room" "carol" "c" ≠ commandKey "room" "carol"
        (admissionRequestId clockCodec (guest "carol")) := commandKey_ne_of_length (by decide)
    have hbob : commandKey "room" "carol" "c" ≠ commandKey "room" "bob" "b" :=
      commandKey_ne (by decide)
    have hfirst : carolStore.commands (commandKey "room" "carol" "c")
        = bobLeftStore.commands (commandKey "room" "carol" "c") := committed_commands_of_ne hcarol
    have hsecond : bobLeftStore.commands (commandKey "room" "carol" "c")
        = openedStore.commands (commandKey "room" "carol" "c") := committed_commands_of_ne hbob
    exact hfirst.trans hsecond
  have howned : Owned takenStore (clockLease 2 60603) 700 := ⟨_, rfl, rfl, rfl, rfl, by decide⟩
  have hcommits : Commits clockCodec.toCodec (clockLease 2 60603) (leaveCommit "carol" "c" 3 700)
      700 _ _ :=
    leaveCommit_commits (by decide) (by decide) written_left.2 howned
      ⟨_, leasedCheckpoint_eq_some.2 ⟨rfl, rfl, rfl⟩, rfl⟩ rfl hcommand rfl
  exact handle_commits clockCodec
    ⟨.lifecycle (clockLobby 3 (some (createSeat "carol" 1 600))), 601, clockLease 2 60603⟩
    (guest "carol") rfl rfl hdecide hcommits

theorem clock_restored (handlers : String → Option RoomCommandHandler)
    (hnone : handlers "second" = none) :
    RoomHostsStep compareLetters strokeCodec.digest ⟨takenStore, handlers⟩ (.restored "second")
      ⟨takenStore, Function.update handlers "second" (some
        ⟨.lifecycle (clockLobby 3 (some (createSeat "carol" 1 600))), 601, clockLease 2 60603⟩)⟩ := by
  obtain ⟨text, htext, hparse, hserialize⟩ :=
    (@validSnapshot_lobby compareLetters strokeCodec.digest _ written_carol.fits.1
      written_carol.fits.2).1
  have hsnapshot := written_carol.snapshot
  unfold clockCodec at hsnapshot
  rw [hserialize] at hsnapshot
  have hread : parseCheckpointState compareLetters text
      = .ok (.lifecycle (clockLobby 3 (some (createSeat "carol" 1 600)))) := by
    simp only [parseCheckpointState, hparse]
  have hleased : leasedCheckpoint takenStore (clockLease 2 60603) = some
      ⟨"game", 3, 2, clockCodec.toCodec.sha256 text, text, 601⟩ := by
    rw [← hserialize]
    exact leasedCheckpoint_eq_some.2 ⟨rfl, rfl, rfl⟩
  refine .restored _ "second" (clockLease 2 60603) 604
    ⟨clockCodec.toCodec.sha256 text, 2, text, 3, 601⟩ _ _ hnone ?_ hread rfl
  have howned : Owned takenStore (clockLease 2 60603) 604 := ⟨_, rfl, rfl, rfl, rfl, by decide⟩
  simp only [loadCheckpoint, assertOwned_bind_eq_ok, Transactions.read_bind, hleased]
  refine ⟨howned, ?_⟩
  simp only [Transactions.bind_eq_ok, parseRow_eq_ok, Transactions.pure_eq_ok]
  exact ⟨_, _, ⟨by decide, hsnapshot, rfl, rfl, rfl⟩, rfl, rfl⟩

/-- Bob leaves on a host whose clock is ahead, at 1000, and Carol is admitted at 1001. -/
theorem room_time_forward_admitted : EventsForward
    (committed clockCodec.toCodec (clockLease 1 60000) carolAdmission 1001 bobLeftStore) := by
  have hstart : NoRooms ⟨freshRealtime fun _ => some "room", fun _ => none⟩ :=
    ⟨⟨_, rfl⟩, fun _ => rfl⟩
  have hinTime : AdmitsInTime ⟨bobLeftStore, Function.update (Function.update (fun _ => none) "first"
        (some ⟨.lifecycle (clockLobby 1 (some (createSeat "bob" 1 0))), 10, clockLease 1 60000⟩))
        "first" (some ⟨.lifecycle (clockLobby 2 none), 1000, clockLease 1 60000⟩)⟩
      (.called "first" (.ensureAdmitted (surroundings 1001 .none) (guest "carol") 600)) := by
    rintro _ ⟨⟩ - - -
    decide
  exact (room_time_forward compareLetters strokeCodec.digest _ _ _ hstart
    (.cons ⟨.stored _ ⟨.acquire "server" 60000 "room" "game", 0, .lease (clockLease 1 60000)⟩
      leasedStore rfl rfl, trivial⟩
    (.cons ⟨clock_opened, trivial⟩
    (.cons ⟨.called _ "first" _ _ _ rfl (by simp) clock_bobLeaves, trivial⟩
    (.cons ⟨.called _ "first" _ _ _ rfl (by simp)
      (clock_carolAdmitted (by decide : (1001 : ℤ) < 60000)), hinTime⟩ (.nil _)))))).1

/-- Bob leaves on a host whose clock is ahead, at 1000; the admission of Carol is stored at 601, by
the clock of the database; after a restart she leaves at 700. -/
theorem not_room_time_forward : ∃ start labels s, NoRooms start ∧
    Run (RoomHostsStep compareLetters strokeCodec.digest) start labels s ∧
    ¬ EventsForward s.store := by
  refine ⟨⟨freshRealtime fun _ => some "room", fun _ => none⟩, _, _, ⟨⟨_, rfl⟩, fun _ => rfl⟩,
    .cons (.stored _ ⟨.acquire "server" 60000 "room" "game", 0, .lease (clockLease 1 60000)⟩
      leasedStore rfl rfl)
    (.cons clock_opened
    (.cons (.called _ "first" _ _ _ rfl (by simp) clock_bobLeaves)
    (.cons (.called _ "first" _ _ _ rfl (by simp)
      (clock_carolAdmitted (by decide : (601 : ℤ) < 60000)))
    (.cons (.stored _ ⟨.release (clockLease 1 60000), 602, .released true⟩ releasedStore rfl rfl)
    (.cons (.left _ "first")
    (.cons (.stored _ ⟨.acquire "server" 60000 "room" "game", 603, .lease (clockLease 2 60603)⟩
      takenStore rfl rfl)
    (.cons (clock_restored _ rfl)
    (.cons (.called _ "second" _ _ _ rfl (by simp) clock_carolLeaves) (.nil _))))))))), ?_⟩
  intro hforward
  have hle := hforward (eventId (admissionRequestId clockCodec (guest "carol")) 0) (eventId "c" 0)
    ⟨"room", 3, ⟨eventId (admissionRequestId clockCodec (guest "carol")) 0, 3, 1000,
      .lifecycle (.playerJoined "carol" 1 2)⟩, 601⟩
    ⟨"room", 4, ⟨eventId "c" 0, 4, 700, .lifecycle (.playerLeft "carol" 1 1)⟩, 700⟩ rfl rfl rfl
    (by decide)
  exact absurd hle (by decide)

end Pootown.Server
