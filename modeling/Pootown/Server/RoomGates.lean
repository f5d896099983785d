import Mathlib.Tactic
import Pootown.Server.GameRoom

/-!
# The gates of a room

A room is a system: clients are authenticated, messages are delivered one after the other, the
timer dispatches commands, and other servers write the store.

* `RoomSystem`, `RoomSystemStep`: the room, the message in delivery, whose start has closed the gate,
  and what the API has confirmed;
* `Outstanding`: a command that stands in the store and is not confirmed yet;
* `FaultsSpared`: no message fails before its commit and leaves its gate closed;
* `Gated`: a closed gate belongs to an outstanding command, or to the message in delivery;
* `gates_outstanding`, `not_gates_outstanding`.
-/

namespace Pootown.Server

open Fallible Runs Transactions

/-! ### The system -/

/-- A player's command, as the API confirms it. -/
abbrev ConfirmedCommand : Type := String × RoomCommand

/-- `startedBy` is the player and the request id of the start that closed its gate last. -/
structure RoomSystem where
  room : GameRoom
  delivering : Option RoomMessage
  startedBy : Option (String × String)
  confirmed : Set ConfirmedCommand

def RoomMessage.starter (message : RoomMessage) : Option (String × String) :=
  message.requestId.map fun requestId => (message.client.playerId, requestId)

/-- The rows of commands stay. -/
def KeepsCommands (db db' : Realtime) : Prop :=
  ∀ key row, db.commands key = some row → db'.commands key = some row

inductive RoomSystemLabel
  | authenticating
  | authenticated (outside : CallSurroundings) (authenticated : AuthenticatedRoomPlayer)
      (joinedAtMs : ℤ)
  | authenticationFailed
  | refused (message : RoomMessage)
  | received (message : RoomMessage)
  | processed (outside : CallSurroundings) (confirms : Bool) (reply : RoomReply)
  | timer (outside : CallSurroundings) (payload : RoomPayload true)
  | others

/-- What the API has confirmed once a message is acknowledged. -/
def confirmedBy (message : RoomMessage) : RoomReply → Set ConfirmedCommand
  | .acknowledged _ _ => { entry | entry.1 = message.client.playerId ∧
      message.payload.command = some entry.2 ∧
      (message.startsGame = true ∨ message.finalizationAction ≠ none) }
  | _ => ∅

inductive RoomSystemStep (codec : RoomCodec) :
    RoomSystem → RoomSystemLabel → RoomSystem → Prop
  | authenticating (s : RoomSystem) : s.room.admits = true →
      RoomSystemStep codec s .authenticating
        { s with room := { s.room with
          authenticationsInFlight := s.room.authenticationsInFlight + 1 } }
  | authenticated (s : RoomSystem) (outside : CallSurroundings)
      (authenticated : AuthenticatedRoomPlayer) (joinedAtMs : ℤ) :
      s.room.authenticationsInFlight ≠ 0 →
      RoomSystemStep codec s (.authenticated outside authenticated joinedAtMs)
        { s with room := { s.room with
          core := (admissionEnding (ensureAdmittedPlayerSerial codec (outside.call codec)
            authenticated joinedAtMs s.room.core)).2
          authenticationsInFlight := s.room.authenticationsInFlight - 1 } }
  | authenticationFailed (s : RoomSystem) : s.room.authenticationsInFlight ≠ 0 →
      RoomSystemStep codec s .authenticationFailed
        { s with room := { s.room with
          authenticationsInFlight := s.room.authenticationsInFlight - 1 } }
  | refused (s : RoomSystem) (message : RoomMessage) : s.delivering = none →
      s.room.refusal message ≠ none → RoomSystemStep codec s (.refused message) s
  | received (s : RoomSystem) (message : RoomMessage) : s.delivering = none →
      s.room.refusal message = none →
      RoomSystemStep codec s (.received message)
        { s with
          room := s.room.close message
          delivering := some message
          startedBy := if message.startsGame = true ∧ s.room.starting = false then message.starter
            else s.startedBy }
  | processed (s : RoomSystem) (message : RoomMessage) (outside : CallSurroundings)
      (confirms : Bool) (reply : RoomReply) (room : GameRoom) : s.delivering = some message →
      (message.startsGame = true ∨ message.finalizationAction ≠ none →
        s.room.authenticationsInFlight = 0) →
      s.room.process codec outside confirms message = (reply, room) →
      RoomSystemStep codec s (.processed outside confirms reply)
        ⟨room, none, s.startedBy, s.confirmed ∪ confirmedBy message reply⟩
  | timer (s : RoomSystem) (outside : CallSurroundings) (payload : RoomPayload true) :
      s.delivering = none →
      RoomSystemStep codec s (.timer outside payload)
        { s with room := { s.room with
          core := (handlingEnding (handleInternalSerial codec (outside.call codec) payload
            s.room.core)).2 } }
  | others (s : RoomSystem) (db : Realtime) : KeepsCommands s.room.core.store db →
      RoomSystemStep codec s .others
        { s with room := { s.room with core := { s.room.core with store := db } } }

/-- A room that has just been opened. -/
def OpenedRoom (s : RoomSystem) : Prop :=
  s.room.starting = false ∧ s.room.pendingStartPublication = none ∧
    s.room.pendingSessionFinalization = none ∧ s.delivering = none ∧ s.confirmed = ∅

/-! ### Outstanding commands -/

/-- A command of a player that the store has recorded. -/
def Recorded (codec : RoomCodec) (roomId playerId : String) (command : RoomCommand)
    (db : Realtime) : Prop :=
  ∃ row, db.commands (commandKey roomId playerId command.requestId) = some row ∧
    row.requestHash = requestHash codec.toCodec command

/-- A lifecycle command stands in the store, and the API has not confirmed it. -/
def Outstanding (codec : RoomCodec) (roomId : String) (confirmed : Set ConfirmedCommand)
    (playerId requestId : String) (body : GameCommandBody) (db : Realtime) : Prop :=
  ∃ version, Recorded codec roomId playerId ⟨requestId, version, .lifecycle body⟩ db ∧
    (playerId, ⟨requestId, version, .lifecycle body⟩) ∉ confirmed

def finalizationBody : FinalizationAction → GameCommandBody
  | .leave => .leaveGame
  | .cancel => .cancelGame

def RoomSystem.roomId (s : RoomSystem) : String := s.room.core.handler.lease.roomId

/-- A closed gate belongs to an outstanding command, that of starts to the one that closed it. -/
structure GatesOutstanding (codec : RoomCodec) (s : RoomSystem) : Prop where
  start : s.room.starting = true → ∃ playerId requestId, s.startedBy = some (playerId, requestId) ∧
    Outstanding codec s.roomId s.confirmed playerId requestId .startGame s.room.core.store
  finalization : ∀ pending ∈ s.room.pendingSessionFinalization,
    Outstanding codec s.roomId s.confirmed pending.playerId pending.requestId
      (finalizationBody pending.action) s.room.core.store
  opened : s.room.starting = false → s.room.pendingSessionFinalization = none →
    s.room.admits = true ∧ ∀ message, s.room.refusal message = none

/-- With both gates open nothing is refused. -/
theorem opened_admits {room : GameRoom} (hstart : room.starting = false)
    (hpending : room.pendingSessionFinalization = none) :
    room.admits = true ∧ ∀ message, room.refusal message = none := by
  refine ⟨by simp [GameRoom.admits, hstart, hpending], fun message => ?_⟩
  simp [GameRoom.refusal, hstart, hpending]

/-! ### Where a message may fail -/

/-- The handling of a command fails before anything of it is committed: at the clock, in the search
for a replay, or in a commit that leaves the store as it was. -/
inductive FailsEarly (codec : RoomCodec) (outside : CallSurroundings)
    (client : AuthenticatedRoomPlayer) (command : RoomCommand) (core : HandlerState Realtime) :
    ServerError → Prop
  | clock (error : ServerError) :
      commandTimestampMs core.handler outside.clockMs = .error error →
      FailsEarly codec outside client command core error
  | replay (nowMs : ℤ) (error : ServerError) (db : Realtime) :
      commandTimestampMs core.handler outside.clockMs = .ok nowMs →
      (outside.call codec).store.findReplay core.handler.lease client.playerId command nowMs
        core.store = .error error db → FailsEarly codec outside client command core error
  | commit (nowMs : ℤ) (proposal : Proposal) (error : ServerError) :
      commandTimestampMs core.handler outside.clockMs = .ok nowMs →
      playerDecision client.playerId core.handler.state command nowMs
        (outside.randomSource core.handler.state.rng) = .ok proposal →
      (outside.call codec).store.commit core.handler.lease (proposal.toCommit codec client.playerId
        command (sessionFinalization codec client command)) nowMs core.store
          = .error error core.store → FailsEarly codec outside client command core error

/-- The message in delivery has closed a gate: it leaves, cancels, or is the start that `startedBy`
names, and not a later one of the same request id. -/
def HoldsGate (s : RoomSystem) (message : RoomMessage) : Prop :=
  message.finalizationAction ≠ none ∨ message.startsGame = true ∧ s.startedBy = message.starter

/-- An error opens the gate of a start only if it is about the command and no publication of an
earlier start is pending. -/
def StaysClosed (room : GameRoom) (message : RoomMessage) (error : ServerError) : Prop :=
  ¬ (error.name = .invalidRoomCommand ∧ message.startsGame = true ∧
    room.pendingStartPublication = none)

/-- A message that has closed a gate fails before its commit only where the gate opens again, or
where its command stood in the store already and was not confirmed; and the API does not fail about
a command that it has confirmed. -/
def FaultsSpared (codec : RoomCodec) (s : RoomSystem) : RoomSystemLabel → Prop
  | .processed outside confirms _ => ∀ message ∈ s.delivering, ∀ command ∈ message.payload.command,
      ∀ body, command.body = .lifecycle body → HoldsGate s message →
      (∀ error, FailsEarly codec outside message.client command s.room.core error →
        StaysClosed s.room message error →
        Outstanding codec s.roomId s.confirmed message.client.playerId command.requestId body
          s.room.core.store) ∧
      (confirms = false → (message.client.playerId, command) ∉ s.confirmed)
  | _ => True

/-! ### What the calls keep -/

section Keeps

variable {codec : RoomCodec} {s s' : HandlerState Realtime} {db db' : Realtime}
  {outside : CallSurroundings}

theorem KeepsCommands.refl (db : Realtime) : KeepsCommands db db := fun _ _ h => h

theorem KeepsCommands.committed {lease : RoomLease} {value : CommandCommit} {now : ℤ}
    (h : db.commands (commandKey lease.roomId value.playerId value.command.requestId) = none) :
    KeepsCommands db (committed codec.toCodec lease value now db) := by
  intro key row hrow
  by_cases hkey : key = commandKey lease.roomId value.playerId value.command.requestId
  · rw [hkey, h] at hrow
    cases hrow
  · exact (Function.update_of_ne hkey _ _).trans hrow

/-- A commit keeps the commands whatever befalls it, and has recorded its own when it answers. -/
theorem commit_keeps {fault : Fault} {lease : RoomLease} {value : CommandCommit} {now : ℤ}
    {result : EStateM.Result ServerError Realtime CommandCommitResult}
    (h : fault.run (commit codec.toCodec lease value now) db = result) :
    (∀ error db', result = .error error db' → KeepsCommands db db') ∧
      ∀ answer db', result = .ok answer db' → KeepsCommands db db' ∧
        Recorded codec lease.roomId value.playerId value.command db' := by
  subst h
  cases hcommit : commit codec.toCodec lease value now db with
  | error error =>
    refine ⟨fun _ db' h => ?_, fun _ db' h => ?_⟩ <;>
      cases fault <;> simp only [Fault.run, hcommit] at h <;> cases h <;> exact .refl db
  | ok result =>
    obtain ⟨answer, db₁⟩ := result
    have hkeeps : KeepsCommands db db₁ ∧
        Recorded codec lease.roomId value.playerId value.command db₁ := by
      obtain ⟨-, -, ⟨prior, hprior, hhash, -, rfl⟩ | ⟨-, hrecord, -, rfl⟩⟩ := commit_eq_ok.1 hcommit
      · exact ⟨.refl _, prior, hprior, hhash⟩
      · exact ⟨.committed hrecord.command, _, Function.update_self .., rfl⟩
    refine ⟨fun _ db' h => ?_, fun _ db' h => ?_⟩
    · cases fault <;> simp only [Fault.run, hcommit] at h <;> cases h
      · exact .refl db
      · exact hkeeps.1
    · cases fault <;> simp only [Fault.run, hcommit] at h <;> cases h
      exact hkeeps

/-- A commit that throws leaves the store as it was, or has recorded a command that was not there. -/
theorem commit_threw {fault : Fault} {lease : RoomLease} {value : CommandCommit} {now : ℤ}
    {error : ServerError}
    (h : fault.run (commit codec.toCodec lease value now) db = .error error db') : db' = db ∨
      db.commands (value.key lease.roomId) = none ∧
        Recorded codec lease.roomId value.playerId value.command db' := by
  cases hcommit : commit codec.toCodec lease value now db with
  | error error' =>
    cases fault <;> simp only [Fault.run, hcommit] at h <;> cases h <;> exact .inl rfl
  | ok result =>
    obtain ⟨answer, db₁⟩ := result
    cases fault <;> simp only [Fault.run, hcommit] at h <;> cases h
    · exact .inl rfl
    · obtain ⟨-, -, ⟨prior, -, -, -, rfl⟩ | ⟨-, hrecord, -, rfl⟩⟩ := commit_eq_ok.1 hcommit
      · exact .inl rfl
      · exact .inr ⟨hrecord.command, _, Function.update_self .., rfl⟩

/-- A search for a replay that finds one has found the command it is about. -/
theorem findReplay_recorded {fault : Fault} {lease : RoomLease} {playerId : String}
    {command : RoomCommand} {now : ℤ} {acknowledgement : CommandAcknowledgement}
    (h : fault.run (findReplay codec.toCodec lease playerId command now) db
      = .ok (some acknowledgement) db') : Recorded codec lease.roomId playerId command db := by
  cases hreplay : findReplay codec.toCodec lease playerId command now db with
  | error error => cases fault <;> simp only [Fault.run, hreplay] at h <;> cases h
  | ok result =>
    obtain ⟨replay, db₁⟩ := result
    cases fault <;> simp only [Fault.run, hreplay] at h <;> cases h
    obtain ⟨-, -, hresponse⟩ := findReplay_eq_ok.1 hreplay
    obtain ⟨-, ⟨-, hnone⟩ | ⟨prior, hprior, hhash, -⟩⟩ := storedResponse_eq_ok.1 hresponse
    · cases hnone
    · exact ⟨prior, hprior, hhash⟩

/-- Every call keeps the recorded commands, and the lease. -/
theorem Handled.keeps {actorId : String} {refusals : ServerError → Prop}
    {asked : RoomCommand → ℤ → Prop} {replies : CommandAcknowledgement → Ending → Prop}
    {decided : RoomCommand → ℤ → ℤ → Proposal → Prop}
    {finalization : RoomCommand → Option SessionFinalization} {ending : Ending}
    (h : Handled codec (outside.call codec) actorId refusals asked replies decided finalization s
      ending s') :
    s'.handler.lease = s.handler.lease ∧ KeepsCommands s.store s'.store := by
  cases h with
  | unasked => exact ⟨rfl, .refl _⟩
  | replayThrew command storeMs error store hasked hreplay =>
    obtain rfl := (findReplay_store hreplay).1 _ _ rfl
    exact ⟨rfl, .refl _⟩
  | replayed command storeMs acknowledgement store _ hasked hreplay =>
    obtain ⟨rfl, -⟩ := (findReplay_store hreplay).2 _ _ rfl
    exact ⟨rfl, .refl _⟩
  | refused command storeMs store _ hasked hreplay =>
    obtain ⟨rfl, -⟩ := (findReplay_store hreplay).2 _ _ rfl
    exact ⟨rfl, .refl _⟩
  | commitThrew command storeMs committedAtMs proposal store store' error hasked hreplay hdecided
      hcommit =>
    obtain ⟨rfl, -⟩ := (findReplay_store hreplay).2 _ _ rfl
    exact ⟨rfl, (commit_keeps hcommit).1 _ _ rfl⟩
  | duplicate command storeMs committedAtMs proposal store store' acknowledgement _ hasked hreplay
      hdecided hcommit =>
    obtain ⟨rfl, -⟩ := (findReplay_store hreplay).2 _ _ rfl
    exact ⟨rfl, ((commit_keeps hcommit).2 _ _ rfl).1⟩
  | committed command storeMs committedAtMs proposal store store' acknowledgement hasked hreplay
      hdecided hcommit =>
    obtain ⟨rfl, -⟩ := (findReplay_store hreplay).2 _ _ rfl
    exact ⟨rfl, ((commit_keeps hcommit).2 _ _ rfl).1⟩

/-- A command that a call accepts is recorded. -/
theorem Handled.recorded {actorId : String} {refusals : ServerError → Prop}
    {asked : RoomCommand → ℤ → Prop} {replies : CommandAcknowledgement → Ending → Prop}
    {decided : RoomCommand → ℤ → ℤ → Proposal → Prop}
    {finalization : RoomCommand → Option SessionFinalization}
    {acknowledgement : CommandAcknowledgement} {replayed : Bool}
    (h : Handled codec (outside.call codec) actorId refusals asked replies decided finalization s
      (.accepted acknowledgement replayed) s') (hreplies : Faithful replies) :
    ∃ command storeMs, asked command storeMs ∧
      Recorded codec s.handler.lease.roomId actorId command s'.store ∧
      (replayed = false → acknowledgement.requestId = command.requestId) := by
  cases h with
  | unasked _ hnone => rcases hnone with h | ⟨error, -, h⟩ <;> cases h
  | replayed command storeMs acknowledgement store _ hasked hreplay hpasses =>
    obtain ⟨rfl, -⟩ := (findReplay_store hreplay).2 _ _ rfl
    refine ⟨command, storeMs, hasked, findReplay_recorded hreplay, fun hfresh => ?_⟩
    rw [(hreplies _ _ hpasses _ _ rfl).2] at hfresh
    cases hfresh
  | refused _ _ _ _ _ _ hnone => rcases hnone with h | ⟨error, -, h⟩ <;> cases h
  | duplicate command storeMs committedAtMs proposal store store' acknowledgement _ hasked hreplay
      hdecided hcommit hpasses =>
    obtain ⟨rfl, -⟩ := (findReplay_store hreplay).2 _ _ rfl
    refine ⟨command, storeMs, hasked, ((commit_keeps hcommit).2 _ _ rfl).2, fun hfresh => ?_⟩
    rw [(hreplies _ _ hpasses _ _ rfl).2] at hfresh
    cases hfresh
  | committed command storeMs committedAtMs proposal store store' acknowledgement hasked hreplay
      hdecided hcommit =>
    obtain ⟨rfl, -⟩ := (findReplay_store hreplay).2 _ _ rfl
    exact ⟨command, storeMs, hasked, ((commit_keeps hcommit).2 _ _ rfl).2, fun _ => rfl⟩

/-- A lifecycle command leaves a lobby or a game in progress, or its result is refused. -/
theorem initialized_cases (result : GameState) :
    (∃ error, initialized result = .error (.rejection error)) ∨
      ∃ nextState, initialized result = .ok nextState ∧ terminalProof nextState = .ok none := by
  unfold initialized
  cases result.toInProgress with
  | none => exact .inr ⟨.lifecycle result, rfl, rfl⟩
  | some started =>
    cases hgame : initializeGameplayAggregate started with
    | none =>
      refine .inl ⟨⟨.invalidState, "Started lifecycle state cannot initialize gameplay", false⟩, ?_⟩
      simp only [hgame]
      rfl
    | some game =>
      refine .inr ⟨.gameplay (.inProgress game), ?_, rfl⟩
      simp only [hgame]
      rfl

/-- The decision on a lifecycle command never throws. -/
theorem playerDecision_lifecycle {playerId : String} {state : RoomGameState}
    {command : RoomCommand} {body : GameCommandBody} {nowMs : ℤ} {source : Option RandomSource}
    {error : ServerError} (hbody : command.body = .lifecycle body) :
    playerDecision playerId state command nowMs source ≠ .error (.thrown error) := by
  intro h
  unfold playerDecision at h
  rw [hbody] at h
  cases source with
  | none => cases h
  | some randomSource =>
    cases state with
    | gameplay game => cases h
    | lifecycle lobby =>
      simp only [lifecycleDecision] at h
      split at h
      next => cases h
      next result events htransition =>
        rcases initialized_cases result with ⟨refused, hrefused⟩ | ⟨nextState, hnext, hproof⟩
        · rw [hrefused] at h
          cases h
        · simp only [hnext, bind, Except.bind, hproof, thrown] at h
          cases h

/-- A lifecycle command whose handling throws failed early, or has been recorded by it. -/
theorem handleSerial_threw {client : AuthenticatedRoomPlayer} {payload : RoomPayload false}
    {command : RoomCommand} {body : GameCommandBody} {error : ServerError}
    (hcommand : payload.command = some command) (hbody : command.body = .lifecycle body)
    (h : handleSerial codec (outside.call codec) client payload s = .error error s') :
    FailsEarly codec outside client command s error ∨
      s.store.commands (commandKey s.handler.lease.roomId client.playerId command.requestId) = none ∧
        Recorded codec s.handler.lease.roomId client.playerId command s'.store := by
  have hhandled := handleSerial_handled (congrArg handlingEnding h)
  have hrefuses : ∀ error', Refuses (outside.call codec) payload s.handler
      (playerDecision client.playerId) error' →
      commandTimestampMs s.handler outside.clockMs = .error error' := by
    rintro error' (hnone | hclock | ⟨command', nowMs, hcommand', hdecide⟩)
    · rw [hcommand] at hnone
      cases hnone
    · exact hclock
    · obtain rfl := Option.some.inj (hcommand.symm.trans hcommand')
      exact absurd hdecide (playerDecision_lifecycle hbody)
  cases hhandled with
  | unasked _ hending =>
    rcases hending with heq | ⟨error', hrefuse, heq⟩ <;> cases heq
    exact .inl (.clock _ (hrefuses _ hrefuse))
  | replayThrew command' nowMs _ store hasked hreplay =>
    obtain rfl := Option.some.inj (hcommand.symm.trans hasked.1)
    exact .inl (.replay nowMs _ _ hasked.2 hreplay)
  | replayed _ _ _ _ _ _ _ hreplies => cases hreplies
  | refused command' nowMs store _ hasked _ hending =>
    rcases hending with heq | ⟨error', hrefuse, heq⟩ <;> cases heq
    cases hasked.2.symm.trans (hrefuses _ hrefuse)
  | commitThrew command' nowMs committedAtMs proposal store store' _ hasked hreplay hdecided
      hcommit =>
    obtain rfl := Option.some.inj (hcommand.symm.trans hasked.1)
    obtain ⟨rfl, -⟩ := (findReplay_store hreplay).2 _ _ rfl
    rcases commit_threw hcommit with rfl | hrecorded
    · exact .inl (.commit nowMs proposal _ hasked.2 hdecided.2 hcommit)
    · exact .inr hrecorded
  | duplicate _ _ _ _ _ _ _ _ _ _ _ _ hreplies => cases hreplies

end Keeps

/-! ### Closed gates -/

section Gates

variable {codec : RoomCodec} {s s' : RoomSystem} {message : RoomMessage} {command : RoomCommand}

/-- The start that closed the gate stands in the store, unconfirmed. -/
def StartStands (codec : RoomCodec) (startedBy : Option (String × String)) (roomId : String)
    (confirmed : Set ConfirmedCommand) (db : Realtime) : Prop :=
  ∃ playerId requestId, startedBy = some (playerId, requestId) ∧
    Outstanding codec roomId confirmed playerId requestId .startGame db

/-- A closed gate belongs to an outstanding command, or to the message in delivery; and what the API
has confirmed is recorded. -/
structure Gated (codec : RoomCodec) (s : RoomSystem) : Prop where
  start : s.room.starting = true →
    StartStands codec s.startedBy s.roomId s.confirmed s.room.core.store ∨
    ∃ message ∈ s.delivering, message.startsGame = true ∧ s.startedBy = message.starter
  finalization : ∀ pending ∈ s.room.pendingSessionFinalization,
    Outstanding codec s.roomId s.confirmed pending.playerId pending.requestId
      (finalizationBody pending.action) s.room.core.store ∨
    ∃ message ∈ s.delivering, GameRoom.Awaits pending message
  confirmed : ∀ entry ∈ s.confirmed, Recorded codec s.roomId entry.1 entry.2 s.room.core.store

/-- The commands confirmed since are not about `body`. -/
def ConfirmsOther (confirmed confirmed' : Set ConfirmedCommand) (body : GameCommandBody) : Prop :=
  ∀ entry ∈ confirmed', entry.2.body = .lifecycle body → entry ∈ confirmed

theorem Recorded.mono {roomId playerId : String} {db db' : Realtime}
    (h : Recorded codec roomId playerId command db) (hkeeps : KeepsCommands db db') :
    Recorded codec roomId playerId command db' := by
  obtain ⟨row, hrow, hhash⟩ := h
  exact ⟨row, hkeeps _ _ hrow, hhash⟩

theorem Outstanding.mono {roomId playerId requestId : String}
    {confirmed confirmed' : Set ConfirmedCommand} {body : GameCommandBody} {db db' : Realtime}
    (h : Outstanding codec roomId confirmed playerId requestId body db)
    (hkeeps : KeepsCommands db db') (hother : ConfirmsOther confirmed confirmed' body) :
    Outstanding codec roomId confirmed' playerId requestId body db' := by
  obtain ⟨version, hrecorded, hconfirmed⟩ := h
  exact ⟨version, hrecorded.mono hkeeps, fun hmem => hconfirmed (hother _ hmem rfl)⟩

theorem Outstanding.of_recorded {roomId playerId : String} {confirmed : Set ConfirmedCommand}
    {body : GameCommandBody} {db : Realtime} (hbody : command.body = .lifecycle body)
    (hrecorded : Recorded codec roomId playerId command db)
    (hunconfirmed : (playerId, command) ∉ confirmed) :
    Outstanding codec roomId confirmed playerId command.requestId body db := by
  obtain ⟨requestId, version, body'⟩ := command
  obtain rfl : body' = .lifecycle body := hbody
  exact ⟨version, hrecorded, hunconfirmed⟩

theorem StartStands.mono {startedBy : Option (String × String)} {roomId : String}
    {confirmed confirmed' : Set ConfirmedCommand} {db db' : Realtime}
    (h : StartStands codec startedBy roomId confirmed db) (hkeeps : KeepsCommands db db')
    (hother : ConfirmsOther confirmed confirmed' .startGame) :
    StartStands codec startedBy roomId confirmed' db' := by
  obtain ⟨playerId, requestId, hstarted, hstands⟩ := h
  exact ⟨playerId, requestId, hstarted, hstands.mono hkeeps hother⟩

/-- A step that leaves the gates and the delivery alone keeps them in order. -/
theorem Gated.of_same (h : Gated codec s) (hstarting : s'.room.starting = s.room.starting)
    (hstarted : s'.startedBy = s.startedBy)
    (hpending : s'.room.pendingSessionFinalization = s.room.pendingSessionFinalization)
    (hdelivering : s'.delivering = s.delivering) (hconfirmed : s'.confirmed = s.confirmed)
    (hroom : s'.roomId = s.roomId) (hkeeps : KeepsCommands s.room.core.store s'.room.core.store) :
    Gated codec s' where
  start := by
    intro hstart
    rw [hroom, hconfirmed, hdelivering, hstarted]
    rw [hstarting] at hstart
    exact (h.start hstart).imp_left fun hstands => hstands.mono hkeeps fun _ hmem _ => hmem
  finalization := by
    intro pending hmem
    rw [hroom, hconfirmed, hdelivering]
    rw [hpending] at hmem
    exact (h.finalization pending hmem).imp_left fun hstands =>
      hstands.mono hkeeps fun _ hmem' _ => hmem'
  confirmed := by
    intro entry hmem
    rw [hroom]
    rw [hconfirmed] at hmem
    exact (h.confirmed entry hmem).mono hkeeps

theorem Gated.received (h : Gated codec s) (hnone : s.delivering = none) :
    Gated codec { s with
      room := s.room.close message
      delivering := some message
      startedBy := if message.startsGame = true ∧ s.room.starting = false then message.starter
        else s.startedBy } where
  start := by
    intro hstart
    by_cases hcloses : message.startsGame = true ∧ s.room.starting = false
    · exact .inr ⟨message, rfl, hcloses.1, if_pos hcloses⟩
    · have hbefore : s.room.starting = true := by
        by_contra hopen
        rw [Bool.not_eq_true] at hopen
        have hstarts : message.startsGame = true := by
          simpa [GameRoom.close, hopen] using hstart
        exact hcloses ⟨hstarts, hopen⟩
      refine .inl ?_
      show StartStands codec (if _ then _ else _) _ _ _
      rw [if_neg hcloses]
      refine (h.start hbefore).resolve_right ?_
      rintro ⟨other, hother, -⟩
      rw [hnone] at hother
      cases hother
  finalization := by
    intro pending hmem
    cases hbefore : s.room.pendingSessionFinalization with
    | some before =>
      have heq : before = pending := by
        simpa [GameRoom.close, hbefore] using hmem
      subst heq
      refine .inl ((h.finalization before hbefore).resolve_right ?_)
      rintro ⟨other, hother, -⟩
      rw [hnone] at hother
      cases hother
    | none =>
      refine .inr ⟨message, rfl, ?_⟩
      have hmap : message.finalizationAction.map (fun action => (⟨action, [],
          message.client.playerId, message.requestId.getD ""⟩ : PendingSessionFinalization))
          = some pending := by
        simp only [GameRoom.close, hbefore] at hmem
        exact hmem
      obtain ⟨action, haction, rfl⟩ := Option.map_eq_some_iff.1 hmap
      refine ⟨haction, rfl, ?_⟩
      obtain ⟨command, hcommand, -⟩ := Option.bind_eq_some_iff.1 haction
      simp [RoomMessage.requestId, hcommand]
  confirmed := h.confirmed

theorem startsGame_iff : message.startsGame = true ↔
    ∃ command, message.payload.command = some command ∧ command.body = .lifecycle .startGame := by
  simp only [RoomMessage.startsGame, Option.any_eq_true]
  constructor
  · rintro ⟨command, hcommand, hstarts⟩
    refine ⟨command, hcommand, ?_⟩
    unfold isStartGame at hstarts
    split at hstarts
    next hbody => exact hbody
    next => cases hstarts
  · rintro ⟨command, hcommand, hbody⟩
    exact ⟨command, hcommand, by rw [hbody]; rfl⟩

theorem finalizationAction_eq_some {action : FinalizationAction} :
    message.finalizationAction = some action ↔ ∃ command,
      message.payload.command = some command ∧
        command.body = .lifecycle (finalizationBody action) := by
  simp only [RoomMessage.finalizationAction, Option.bind_eq_some_iff]
  refine exists_congr fun command => and_congr_right fun _ => ?_
  unfold expectedFinalization
  constructor
  · intro haction
    split at haction
    next hbody =>
      cases haction
      exact hbody
    next hbody =>
      cases haction
      exact hbody
    next => cases haction
  · intro hbody
    rw [hbody]
    cases action <;> rfl

/-- Starts are no finalizations. -/
theorem finalizationAction_of_starts (h : message.startsGame = true) :
    message.finalizationAction = none := by
  obtain ⟨command, hcommand, hbody⟩ := startsGame_iff.1 h
  simp [RoomMessage.finalizationAction, hcommand, expectedFinalization, hbody]

/-- What becomes of the gates when the handling throws. -/
theorem caught_cases {room room' : GameRoom} {error : ServerError} {reply : RoomReply}
    (h : room.caught message error = (reply, room')) :
    room'.core = room.core ∧
    room'.pendingSessionFinalization = room.pendingSessionFinalization ∧
    confirmedBy message reply = ∅ ∧
    (room'.starting = true → room.starting = true ∧ StaysClosed room message error) := by
  unfold GameRoom.caught at h
  split at h
  next hname =>
    cases h
    exact ⟨rfl, rfl, rfl, fun hstart => ⟨hstart, fun ⟨hname', _⟩ => by simp [hname] at hname'⟩⟩
  next hname =>
    cases h
    refine ⟨rfl, rfl, rfl, fun hstart => ?_⟩
    simp only [Bool.and_eq_true, Bool.not_eq_true', Bool.and_eq_false_iff] at hstart
    refine ⟨hstart.1, fun ⟨_, hstarts, hnone⟩ => ?_⟩
    rcases hstart.2 with hnot | hsome
    · rw [hstarts] at hnot
      cases hnot
    · rw [hnone] at hsome
      cases hsome
  next _ hinvalid =>
    cases h
    exact ⟨rfl, rfl, rfl, fun hstart => ⟨hstart, fun ⟨hname', _⟩ => hinvalid hname'⟩⟩

theorem confirmsOther_empty (confirmed : Set ConfirmedCommand) (body : GameCommandBody) :
    ConfirmsOther confirmed (confirmed ∪ ∅) body := by
  intro entry hmem _
  simpa using hmem

/-- A command that its own handling has recorded before it threw is outstanding. -/
theorem Gated.outstanding_of_threw {outside : CallSurroundings} {confirms : Bool}
    {reply : RoomReply} {error : ServerError} {core : HandlerState Realtime}
    {body : GameCommandBody} (h : Gated codec s) (hdelivering : s.delivering = some message)
    (hcommand : message.payload.command = some command) (hbody : command.body = .lifecycle body)
    (hhandled : handleSerial codec (outside.call codec) message.client message.payload s.room.core
      = .error error core)
    (hkeeps : KeepsCommands s.room.core.store core.store)
    (hspared : FaultsSpared codec s (.processed outside confirms reply))
    (hholds : HoldsGate s message) (hcloses : StaysClosed s.room message error) :
    Outstanding codec s.roomId s.confirmed message.client.playerId command.requestId body
      core.store := by
  rcases handleSerial_threw hcommand hbody hhandled with hearly | ⟨hnew, hrecorded⟩
  · have hstood := (hspared message hdelivering command hcommand body hbody hholds).1 error hearly
      hcloses
    exact hstood.mono hkeeps fun _ hmem _ => hmem
  · refine .of_recorded hbody hrecorded fun hmem => ?_
    obtain ⟨row, hrow, -⟩ := h.confirmed _ hmem
    cases hnew.symm.trans hrow

/-- A handling that threw keeps the gates in order, where faults are spared. -/
theorem Gated.threw {outside : CallSurroundings} {confirms : Bool} {reply : RoomReply}
    {room : GameRoom} {error : ServerError} {core : HandlerState Realtime} (h : Gated codec s)
    (hdelivering : s.delivering = some message)
    (hhandled : handleSerial codec (outside.call codec) message.client message.payload s.room.core
      = .error error core)
    (hcaught : { s.room with core := core }.caught message error = (reply, room))
    (hkeeps : core.handler.lease = s.room.core.handler.lease ∧
      KeepsCommands s.room.core.store core.store)
    (hspared : FaultsSpared codec s (.processed outside confirms reply)) :
    Gated codec ⟨room, none, s.startedBy, s.confirmed ∪ confirmedBy message reply⟩ := by
  obtain ⟨hcore, hpending, hconfirmed, hstart⟩ := caught_cases hcaught
  have hroom : room.core.handler.lease.roomId = s.roomId := by
    rw [hcore, hkeeps.1]
    rfl
  have hother : ∀ body, ConfirmsOther s.confirmed (s.confirmed ∪ confirmedBy message reply) body :=
    fun body => hconfirmed ▸ confirmsOther_empty s.confirmed body
  have hstore : room.core.store = core.store := by rw [hcore]
  refine ⟨fun hstarting => .inl ?_, fun pending hmem => .inl ?_, fun entry hmem => ?_⟩
  · obtain ⟨hbefore, hcloses⟩ := hstart hstarting
    show StartStands codec s.startedBy room.core.handler.lease.roomId _ room.core.store
    rw [hroom, hstore]
    rcases h.start hbefore with hstood | ⟨other, hmem, hstarts, hstarted⟩
    · exact hstood.mono hkeeps.2 (hother _)
    · obtain rfl := Option.some.inj (hdelivering.symm.trans hmem)
      obtain ⟨command, hcommand, hbody⟩ := startsGame_iff.1 hstarts
      refine ⟨message.client.playerId, command.requestId, ?_, (h.outstanding_of_threw hdelivering
        hcommand hbody hhandled hkeeps.2 hspared (.inr ⟨hstarts, hstarted⟩) hcloses).mono (.refl _)
          (hother _)⟩
      rw [hstarted, RoomMessage.starter, RoomMessage.requestId, hcommand]
      rfl
  · show Outstanding codec room.core.handler.lease.roomId _ _ _ _ room.core.store
    rw [hroom, hstore]
    rcases h.finalization pending (hpending ▸ hmem) with hstood | ⟨other, hmem, hawaits⟩
    · exact hstood.mono hkeeps.2 (hother _)
    · obtain rfl := Option.some.inj (hdelivering.symm.trans hmem)
      obtain ⟨haction, hplayer, hrequest⟩ := hawaits
      obtain ⟨command, hcommand, hbody⟩ := finalizationAction_eq_some.1 haction
      have hid : pending.requestId = command.requestId := by
        rw [RoomMessage.requestId, hcommand] at hrequest
        exact (Option.some.inj hrequest).symm
      have hcloses : StaysClosed s.room message error := by
        rintro ⟨-, hstarts, -⟩
        cases haction.symm.trans (finalizationAction_of_starts hstarts)
      rw [hplayer, hid]
      exact (h.outstanding_of_threw hdelivering hcommand hbody hhandled hkeeps.2 hspared
        (.inl (by rw [haction]; exact Option.some_ne_none _)) hcloses).mono (.refl _) (hother _)
  · show Recorded codec room.core.handler.lease.roomId _ _ room.core.store
    rw [hroom, hstore]
    refine (h.confirmed entry ?_).mono hkeeps.2
    simpa [hconfirmed] using hmem

/-- A message that leaves nothing to confirm opens its own gate. -/
theorem Gated.reject {core : HandlerState Realtime} (h : Gated codec s)
    (hdelivering : s.delivering = some message)
    (hkeeps : core.handler.lease = s.room.core.handler.lease ∧
      KeepsCommands s.room.core.store core.store) :
    Gated codec ⟨{ s.room with
      core := core
      starting := s.room.starting && !message.startsGame
      pendingSessionFinalization :=
        if message.finalizationAction.isSome then none else s.room.pendingSessionFinalization },
      none, s.startedBy, s.confirmed ∪ ∅⟩ := by
  have hroom : core.handler.lease.roomId = s.roomId := by
    rw [hkeeps.1]
    rfl
  refine ⟨fun hstarting => .inl ?_, fun pending hmem => .inl ?_, fun entry hmem => ?_⟩
  · rw [Bool.and_eq_true, Bool.not_eq_true'] at hstarting
    have hstood := (h.start hstarting.1).resolve_right (by
      rintro ⟨other, hother, hstarts, -⟩
      obtain rfl := Option.some.inj (hdelivering.symm.trans hother)
      rw [hstarting.2] at hstarts
      cases hstarts)
    rw [RoomSystem.roomId, hroom]
    exact hstood.mono hkeeps.2 (confirmsOther_empty _ _)
  · cases haction : message.finalizationAction with
    | some action =>
      rw [haction] at hmem
      cases hmem
    | none =>
      rw [haction] at hmem
      have hstood := (h.finalization pending hmem).resolve_right (by
        rintro ⟨other, hother, hawaits⟩
        obtain rfl := Option.some.inj (hdelivering.symm.trans hother)
        cases haction.symm.trans hawaits.1)
      rw [RoomSystem.roomId, hroom]
      exact hstood.mono hkeeps.2 (confirmsOther_empty _ _)
  · rw [RoomSystem.roomId, hroom]
    exact (h.confirmed entry (by simpa using hmem)).mono hkeeps.2

/-- A confirmation of a message confirms nothing about another command. -/
theorem confirmsOther_of_body {reply : RoomReply} {body body' : GameCommandBody}
    (hcommand : message.payload.command = some command) (hbody : command.body = .lifecycle body)
    (hne : body ≠ body') :
    ConfirmsOther s.confirmed (s.confirmed ∪ confirmedBy message reply) body' := by
  rintro entry (hmem | hmem) hbody'
  · exact hmem
  · cases reply with
    | acknowledged acknowledgement events =>
      obtain ⟨-, hentry, -⟩ := hmem
      rw [hcommand, Option.some.injEq] at hentry
      subst hentry
      rw [hbody] at hbody'
      exact absurd (RoomCommandBody.lifecycle.inj hbody') hne
    | error | rejected | reconnecting | leaseLost => cases hmem

/-- What a message has had confirmed is recorded. -/
theorem Gated.confirmed_processed {core : HandlerState Realtime} (h : Gated codec s)
    (hcommand : message.payload.command = some command)
    (hkeeps : KeepsCommands s.room.core.store core.store)
    (hrecorded : Recorded codec s.roomId message.client.playerId command core.store)
    (reply : RoomReply) : ∀ entry ∈ s.confirmed ∪ confirmedBy message reply,
      Recorded codec s.roomId entry.1 entry.2 core.store := by
  rintro ⟨playerId, command'⟩ (hmem | hmem)
  · exact (h.confirmed _ hmem).mono hkeeps
  · cases reply with
    | acknowledged acknowledgement events =>
      obtain ⟨rfl, hentry, -⟩ := hmem
      obtain rfl := Option.some.inj (hcommand.symm.trans hentry)
      exact hrecorded
    | error | rejected | reconnecting | leaseLost => cases hmem

/-- An accepted start opens its gate once the API has confirmed it; until then it is outstanding. -/
theorem Gated.markStarted {outside : CallSurroundings} {confirms replayed : Bool}
    {acknowledgement : CommandAcknowledgement} {events : List RoomEvent} {reply : RoomReply}
    {room : GameRoom} {core : HandlerState Realtime} (h : Gated codec s)
    (hdelivering : s.delivering = some message) (hcommand : message.payload.command = some command)
    (hbody : command.body = .lifecycle .startGame)
    (hconfirm : { s.room with core := core }.markStarted message confirms acknowledgement events
      replayed = (reply, room))
    (hkeeps : core.handler.lease = s.room.core.handler.lease ∧
      KeepsCommands s.room.core.store core.store)
    (hrecorded : Recorded codec s.roomId message.client.playerId command core.store)
    (hspared : FaultsSpared codec s (.processed outside confirms reply)) :
    Gated codec ⟨room, none, s.startedBy, s.confirmed ∪ confirmedBy message reply⟩ := by
  have hroom : core.handler.lease.roomId = s.roomId := by
    rw [hkeeps.1]
    rfl
  have hstarts := startsGame_iff.2 ⟨command, hcommand, hbody⟩
  have hpending : ∀ pending ∈ s.room.pendingSessionFinalization,
      Outstanding codec s.roomId (s.confirmed ∪ confirmedBy message reply) pending.playerId
        pending.requestId (finalizationBody pending.action) core.store := by
    intro pending hmem
    have hstood := (h.finalization pending hmem).resolve_right (by
      rintro ⟨other, hother, hawaits⟩
      obtain rfl := Option.some.inj (hdelivering.symm.trans hother)
      cases (finalizationAction_of_starts hstarts).symm.trans hawaits.1)
    refine hstood.mono hkeeps.2 (confirmsOther_of_body hcommand hbody ?_)
    cases pending.action <;> simp [finalizationBody]
  have hconfirmed := h.confirmed_processed hcommand hkeeps.2 hrecorded reply
  unfold GameRoom.markStarted at hconfirm
  cases confirms with
  | true =>
    cases hconfirm
    refine ⟨fun hstarting => (by cases hstarting), fun pending hmem => .inl ?_, fun entry hmem => ?_⟩
    · rw [RoomSystem.roomId, hroom]
      exact hpending pending hmem
    · rw [RoomSystem.roomId, hroom]
      exact hconfirmed entry hmem
  | false =>
    have hstands : s.room.starting = true →
        StartStands codec s.startedBy s.roomId s.confirmed core.store := by
      intro hstarting
      rcases h.start hstarting with hstood | ⟨other, hother, -, hstarted⟩
      · exact hstood.mono hkeeps.2 fun _ hmem _ => hmem
      · obtain rfl := Option.some.inj (hdelivering.symm.trans hother)
        have hunconfirmed := (hspared message hdelivering command hcommand .startGame hbody
          (.inr ⟨hstarts, hstarted⟩)).2 rfl
        refine ⟨_, _, ?_, .of_recorded hbody hrecorded hunconfirmed⟩
        rw [hstarted, RoomMessage.starter, RoomMessage.requestId, hcommand]
        rfl
    cases hconfirm
    refine ⟨fun hstarting => .inl ?_, fun pending hmem => .inl ?_, fun entry hmem => ?_⟩
    · show StartStands codec s.startedBy core.handler.lease.roomId _ core.store
      rw [hroom]
      exact (hstands hstarting).mono (.refl _) (confirmsOther_empty _ _)
    · show Outstanding codec core.handler.lease.roomId _ _ _ _ core.store
      rw [hroom]
      exact hpending pending hmem
    · show Recorded codec core.handler.lease.roomId _ _ core.store
      rw [hroom]
      exact hconfirmed entry hmem

/-- An accepted leave or cancellation opens its gate once the API has finalized it; until then it is
outstanding. -/
theorem Gated.finalize {outside : CallSurroundings} {confirms replayed : Bool}
    {action : FinalizationAction} {acknowledgement : CommandAcknowledgement}
    {events : List RoomEvent} {reply : RoomReply} {room : GameRoom} {core : HandlerState Realtime}
    (h : Gated codec s) (hdelivering : s.delivering = some message)
    (hcommand : message.payload.command = some command)
    (hbody : command.body = .lifecycle (finalizationBody action))
    (hconfirm : { s.room with core := core }.finalize message action confirms acknowledgement events
      replayed = (reply, room))
    (hkeeps : core.handler.lease = s.room.core.handler.lease ∧
      KeepsCommands s.room.core.store core.store)
    (hrecorded : Recorded codec s.roomId message.client.playerId command core.store)
    (hrequest : replayed = false → acknowledgement.requestId = command.requestId)
    (hspared : FaultsSpared codec s (.processed outside confirms reply)) :
    Gated codec ⟨room, none, s.startedBy, s.confirmed ∪ confirmedBy message reply⟩ := by
  have hroom : core.handler.lease.roomId = s.roomId := by
    rw [hkeeps.1]
    rfl
  have hne : finalizationBody action ≠ .startGame := by
    cases action <;> simp [finalizationBody]
  have haction := finalizationAction_eq_some.2 ⟨command, hcommand, hbody⟩
  have hstart : s.room.starting = true → StartStands codec s.startedBy s.roomId
      (s.confirmed ∪ confirmedBy message reply) core.store := by
    intro hstarting
    have hstood := (h.start hstarting).resolve_right (by
      rintro ⟨other, hother, hstarts, -⟩
      obtain rfl := Option.some.inj (hdelivering.symm.trans hother)
      cases (finalizationAction_of_starts hstarts).symm.trans haction)
    exact hstood.mono hkeeps.2 (confirmsOther_of_body hcommand hbody hne)
  have hconfirmed := h.confirmed_processed hcommand hkeeps.2 hrecorded reply
  unfold GameRoom.finalize at hconfirm
  cases confirms with
  | true =>
    cases hconfirm
    refine ⟨fun hstarting => .inl ?_, fun pending hmem => (by cases hmem), fun entry hmem => ?_⟩
    · rw [RoomSystem.roomId, hroom]
      exact hstart hstarting
    · rw [RoomSystem.roomId, hroom]
      exact hconfirmed entry hmem
  | false =>
    have hunconfirmed := (hspared message hdelivering command hcommand (finalizationBody action)
      hbody (.inl (by rw [haction]; exact Option.some_ne_none _))).2 rfl
    have hstands : Outstanding codec s.roomId s.confirmed message.client.playerId
        command.requestId (finalizationBody action) core.store :=
      .of_recorded hbody hrecorded hunconfirmed
    cases hconfirm
    refine ⟨fun hstarting => .inl ?_, fun pending hmem => .inl ?_, fun entry hmem => ?_⟩
    · show StartStands codec s.startedBy core.handler.lease.roomId _ core.store
      rw [hroom]
      exact hstart hstarting
    · show Outstanding codec core.handler.lease.roomId _ _ _ _ core.store
      rw [hroom]
      cases replayed with
      | false =>
        cases hmem
        show Outstanding codec s.roomId _ message.client.playerId acknowledgement.requestId
          (finalizationBody action) core.store
        rw [hrequest rfl]
        exact hstands.mono (.refl _) (confirmsOther_empty _ _)
      | true =>
        rcases h.finalization pending hmem with hstood | ⟨other, hother, hawaits⟩
        · exact hstood.mono hkeeps.2 (confirmsOther_empty _ _)
        · obtain rfl := Option.some.inj (hdelivering.symm.trans hother)
          obtain ⟨hown, hplayer, hid⟩ := hawaits
          have heq : pending.action = action := Option.some.inj (hown.symm.trans haction)
          have hid' : pending.requestId = command.requestId := by
            rw [RoomMessage.requestId, hcommand] at hid
            exact (Option.some.inj hid).symm
          rw [heq, hplayer, hid']
          exact hstands.mono (.refl _) (confirmsOther_empty _ _)
    · show Recorded codec core.handler.lease.roomId _ _ core.store
      rw [hroom]
      exact hconfirmed entry hmem

/-- The handling of a message keeps the gates in order, where faults are spared. -/
theorem Gated.processed {outside : CallSurroundings} {confirms : Bool} {reply : RoomReply}
    {room : GameRoom} (h : Gated codec s) (hdelivering : s.delivering = some message)
    (hprocess : s.room.process codec outside confirms message = (reply, room))
    (hspared : FaultsSpared codec s (.processed outside confirms reply)) :
    Gated codec ⟨room, none, s.startedBy, s.confirmed ∪ confirmedBy message reply⟩ := by
  unfold GameRoom.process at hprocess
  cases hhandled : handleSerial codec (outside.call codec) message.client message.payload
      s.room.core with
  | error error core =>
    have hending := handleSerial_handled (congrArg handlingEnding hhandled)
    simp only [hhandled] at hprocess
    exact h.threw hdelivering hhandled hprocess hending.keeps hspared
  | ok result core =>
    cases result with
    | rejected rejection =>
      have hending := handleSerial_handled (congrArg handlingEnding hhandled)
      simp only [hhandled] at hprocess
      cases hprocess
      exact h.reject hdelivering hending.keeps
    | accepted acknowledgement events replayed =>
      have hending := handleSerial_handled (congrArg handlingEnding hhandled)
      obtain ⟨command, nowMs, ⟨hcommand, -⟩, hrecorded, hrequest⟩ :=
        hending.recorded passesOn_faithful
      simp only [hhandled, GameRoom.confirm] at hprocess
      cases haction : message.finalizationAction with
      | some action =>
        obtain ⟨command', hcommand', hbody⟩ := finalizationAction_eq_some.1 haction
        obtain rfl := Option.some.inj (hcommand.symm.trans hcommand')
        simp only [haction] at hprocess
        exact h.finalize hdelivering hcommand hbody hprocess hending.keeps hrecorded hrequest hspared
      | none =>
        simp only [haction] at hprocess
        by_cases hstarts : message.startsGame = true
        · obtain ⟨command', hcommand', hbody⟩ := startsGame_iff.1 hstarts
          obtain rfl := Option.some.inj (hcommand.symm.trans hcommand')
          rw [if_pos hstarts] at hprocess
          exact h.markStarted hdelivering hcommand hbody hprocess hending.keeps hrecorded hspared
        · rw [if_neg hstarts] at hprocess
          cases hprocess
          have hconfirmed : confirmedBy message (.acknowledged acknowledgement events) = ∅ := by
            ext entry
            simp [confirmedBy, hstarts, haction]
          have hopened := h.reject hdelivering hending.keeps
          rw [haction, eq_false_of_ne_true hstarts] at hopened
          simpa [hconfirmed] using hopened

theorem initial_gated (h : OpenedRoom s) : Gated codec s := by
  obtain ⟨hstarting, -, hpending, -, hconfirmed⟩ := h
  refine ⟨fun hstart => ?_, fun pending hmem => ?_, fun entry hmem => ?_⟩
  · rw [hstarting] at hstart
    cases hstart
  · rw [hpending] at hmem
    cases hmem
  · rw [hconfirmed] at hmem
    cases hmem

/-- Every step keeps the gates in order, where faults are spared. -/
theorem RoomSystemStep.gated {label : RoomSystemLabel} (h : RoomSystemStep codec s label s')
    (hspared : FaultsSpared codec s label) (hgated : Gated codec s) : Gated codec s' := by
  cases h with
  | authenticating => exact hgated.of_same rfl rfl rfl rfl rfl rfl (.refl _)
  | authenticated outside authenticated joinedAtMs =>
    have hending : admissionEnding (ensureAdmittedPlayerSerial codec (outside.call codec)
        authenticated joinedAtMs s.room.core) = (_, _) := rfl
    obtain ⟨ending, hhandled⟩ := ensureAdmittedPlayerSerial_handled (congrArg Prod.snd hending)
    obtain ⟨hlease, hkeeps⟩ := hhandled.keeps
    exact hgated.of_same rfl rfl rfl rfl rfl (congrArg RoomLease.roomId hlease) hkeeps
  | authenticationFailed => exact hgated.of_same rfl rfl rfl rfl rfl rfl (.refl _)
  | refused => exact hgated
  | received message hnone => exact hgated.received hnone
  | processed message outside confirms reply room hdelivering _ hprocess =>
    exact hgated.processed hdelivering hprocess hspared
  | timer outside payload =>
    have hending : handlingEnding (handleInternalSerial codec (outside.call codec) payload
        s.room.core) = (_, _) := rfl
    obtain ⟨hlease, hkeeps⟩ := (handleWith_handled hending).keeps
    exact hgated.of_same rfl rfl rfl rfl rfl (congrArg RoomLease.roomId hlease) hkeeps
  | others db hkeeps => exact hgated.of_same rfl rfl rfl rfl rfl rfl hkeeps

/-- Between two messages, a closed gate belongs to an outstanding command. -/
theorem Gated.outstanding (h : Gated codec s) (hnone : s.delivering = none) :
    GatesOutstanding codec s where
  start := by
    intro hstarting
    refine (h.start hstarting).resolve_right ?_
    rintro ⟨other, hother, -⟩
    rw [hnone] at hother
    cases hother
  finalization := by
    intro pending hmem
    refine (h.finalization pending hmem).resolve_right ?_
    rintro ⟨other, hother, -⟩
    rw [hnone] at hother
    cases hother
  opened := opened_admits

/-- Where faults are spared, a gate that is closed between two messages belongs to an outstanding
command, that of starts to the one that closed it. -/
theorem gates_outstanding (codec : RoomCodec) (start s : RoomSystem) (labels : List RoomSystemLabel)
    (hopened : OpenedRoom start)
    (hrun : Run (Guarded (FaultsSpared codec) (RoomSystemStep codec)) start labels s)
    (hnone : s.delivering = none) : GatesOutstanding codec s := by
  have hgated : Gated codec s :=
    hrun.invariant (fun _ _ _ hgated hstep => hstep.1.gated hstep.2 hgated) (initial_gated hopened)
  exact hgated.outstanding hnone

end Gates

/-! ### A gate that stays closed -/

/-- Alice's room, with both gates open. -/
def aliceSystem : RoomSystem where
  room := ⟨aliceRoom, false, none, none, 0, false, false⟩
  delivering := none
  startedBy := none
  confirmed := ∅

/-- A lifecycle command of Alice's. -/
def aliceAsks (stateVersion : ℤ) (body : GameCommandBody) : RoomMessage where
  client := ⟨"game", "alice", "res_alice", "room", 0, "user_alice"⟩
  payload :=
    { requestId := some "s"
      command := some ⟨"s", stateVersion, .lifecycle body⟩
      parsed := by
        rintro _ ⟨⟩
        exact ⟨rfl, rfl⟩ }

/-- Alice's room, once a start of hers is in delivery. -/
def aliceDelivering : RoomSystem :=
  { aliceSystem with
    room := aliceSystem.room.close (aliceAsks 1 .startGame)
    delivering := some (aliceAsks 1 .startGame)
    startedBy := some ("alice", "s") }

/-- Bob joins Alice's lobby. -/
def bobAsks : RoomMessage := ⟨bobSeated, bobJoins⟩

/-- Bob's message is in delivery. -/
def bobArrives : RoomSystem :=
  { aliceSystem with room := aliceSystem.room.close bobAsks, delivering := some bobAsks }

/-- Bob's message has been processed. -/
def bobArrived : RoomSystem :=
  let handled := bobArrives.room.process strokeCodec (surroundings 2 .none) true bobAsks
  ⟨handled.2, none, none, ∅ ∪ confirmedBy bobAsks handled.1⟩

/-- Alice's start is in delivery. -/
def aliceStarting : RoomSystem :=
  { bobArrived with
    room := bobArrived.room.close (aliceAsks 2 .startGame)
    delivering := some (aliceAsks 2 .startGame)
    startedBy := some ("alice", "s") }

theorem bobArrives_spared (outside : CallSurroundings) (confirms : Bool) (reply : RoomReply) :
    FaultsSpared strokeCodec bobArrives (.processed outside confirms reply) := by
  rintro _ ⟨⟩ _ ⟨⟩ _ ⟨⟩ (haction | ⟨hstarts, -⟩)
  · exact absurd rfl haction
  · cases hstarts

theorem aliceStarting_commits (nowMs : ℤ) (proposal : Proposal) (error : ServerError) (db : Realtime)
    (hclock : commandTimestampMs aliceStarting.room.core.handler 3 = .ok nowMs)
    (hdecided : playerDecision "alice" aliceStarting.room.core.handler.state
      ⟨"s", 2, .lifecycle .startGame⟩ nowMs
      ((surroundings 3 .none).randomSource aliceStarting.room.core.handler.state.rng) = .ok proposal) :
    ((surroundings 3 .none).call strokeCodec).store.commit aliceStarting.room.core.handler.lease
      (proposal.toCommit strokeCodec "alice" ⟨"s", 2, .lifecycle .startGame⟩ none) nowMs
        aliceStarting.room.core.store ≠ .error error db := by
  cases hclock
  obtain rfl := Except.ok.inj hdecided
  intro hcommit
  have hanswers := congrArg (fun
    | .ok _ _ => true
    | .error _ _ => false : EStateM.Result ServerError Realtime CommandCommitResult → Bool) hcommit
  exact Bool.noConfusion (show true = false from hanswers)

theorem aliceStarting_spared (reply : RoomReply) :
    FaultsSpared strokeCodec aliceStarting (.processed (surroundings 3 .none) false reply) := by
  rintro _ ⟨⟩ _ ⟨⟩ _ ⟨⟩ -
  refine ⟨fun error hfails => ?_, fun _ hconfirmed => ?_⟩
  · cases hfails with
    | clock _ hclock => cases hclock
    | replay _ _ _ hclock hreplay =>
      cases hclock
      cases hreplay
    | commit nowMs proposal _ hclock hdecided hcommit =>
      exact absurd hcommit (aliceStarting_commits nowMs proposal error _ hclock hdecided)
  · rcases hconfirmed with hmem | ⟨hplayer, -⟩
    · exact hmem
    · exact absurd hplayer (by decide)

/-- Bob joins, Alice starts the game, and the API does not confirm it: her command stands, and the
gate is closed. -/
theorem gates_outstanding_started : ∃ events, ∃ s : RoomSystem,
    Run (Guarded (FaultsSpared strokeCodec) (RoomSystemStep strokeCodec)) aliceSystem
      [.received bobAsks,
        .processed (surroundings 2 .none) true (.acknowledged ⟨"r", 2, ["evt_r_0"]⟩ events),
        .received (aliceAsks 2 .startGame), .processed (surroundings 3 .none) false .reconnecting] s ∧
      s.room.starting = true ∧ s.startedBy = some ("alice", "s") ∧
      GatesOutstanding strokeCodec s := by
  have hjoins : bobArrives.room.process strokeCodec (surroundings 2 .none) true bobAsks
      = (.acknowledged ⟨"r", 2, ["evt_r_0"]⟩ _, bobArrived.room) := rfl
  have hstarts : aliceStarting.room.process strokeCodec (surroundings 3 .none) false
      (aliceAsks 2 .startGame) = (.reconnecting, _) := rfl
  have hrun : Run (Guarded (FaultsSpared strokeCodec) (RoomSystemStep strokeCodec)) aliceSystem _ _ :=
    .cons ⟨.received aliceSystem bobAsks rfl rfl, trivial⟩
      (.cons ⟨.processed bobArrives _ _ _ _ _ rfl (fun _ => rfl) hjoins, bobArrives_spared _ _ _⟩
        (.cons ⟨.received bobArrived (aliceAsks 2 .startGame) rfl rfl, trivial⟩
          (.cons ⟨.processed aliceStarting _ _ _ _ _ rfl (fun _ => rfl) hstarts,
            aliceStarting_spared _⟩ (.nil _))))
  exact ⟨_, _, hrun, rfl, rfl,
    gates_outstanding strokeCodec aliceSystem _ _ ⟨rfl, rfl, rfl, rfl, rfl⟩ hrun rfl⟩

/-- The store cannot be asked whether Alice has started the game already: nothing is committed, and
yet the room refuses everybody, Alice's next try included. -/
theorem not_gates_outstanding : OpenedRoom aliceSystem ∧ ∃ labels s,
    Run (RoomSystemStep strokeCodec) aliceSystem labels s ∧ s.delivering = none ∧
      (∀ key, s.room.core.store.commands key = none) ∧ s.room.admits = false ∧
      (∀ message, s.room.refusal message ≠ none) ∧ ¬ GatesOutstanding strokeCodec s := by
  let lost : CallSurroundings :=
    { surroundings 2 .none with replayFault := .before ⟨.database, "connection lost"⟩ }
  have hprocess : aliceDelivering.room.process strokeCodec lost false
      (aliceAsks 1 .startGame) = (.reconnecting, _) := rfl
  refine ⟨⟨rfl, rfl, rfl, rfl, rfl⟩, _, _,
    .cons (.received _ (aliceAsks 1 .startGame) rfl rfl)
      (.cons (.processed _ _ lost false _ _ rfl (fun _ => rfl) hprocess) (.nil _)),
    rfl, fun _ => rfl, rfl, ?_, ?_⟩
  · intro message
    have hawaited : ¬ (message.startsGame = true ∧ none = message.requestId) := by
      rintro ⟨hstarts, hnone⟩
      obtain ⟨command, hcommand, -⟩ := startsGame_iff.1 hstarts
      rw [RoomMessage.requestId, hcommand] at hnone
      cases hnone
    rw [GameRoom.refusal, if_pos ⟨rfl, hawaited⟩]
    exact Option.some_ne_none _
  · intro hgates
    obtain ⟨playerId, requestId, -, version, ⟨row, hrow, -⟩, -⟩ := hgates.start rfl
    cases hrow

end Pootown.Server
