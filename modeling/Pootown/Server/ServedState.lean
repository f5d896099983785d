import Mathlib.Tactic
import Pootown.Server.CommandHandler
import Pootown.Server.CommitChain

/-!
# The state a handler serves

A handler whose store loses answers: a transaction may fail to start, or may take effect and then
throw.

* `Fault`, `realtimeStore`: the realtime store under faults;
* `HandlerStep`: the calls of one handler, among which the rest of the system works on other rooms;
* `Serving`: the handler holds the state of the stored checkpoint, and no recorded answer is ahead
  of it; every call keeps this but for a commit whose answer is lost;
* `handler_serves_acknowledged`, `not_handler_serves_acknowledged`.
-/

namespace Pootown.Server

open Runs Transactions

/-! ### Faults -/

/-- What befalls a transaction: nothing, or it throws before it starts, or it throws although it
took effect. -/
inductive Fault
  | none
  | before (error : ServerError)
  | after (error : ServerError)

/-- A transaction under a fault. -/
def Fault.run {α : Type} (fault : Fault) (tx : Tx Realtime ServerError α) :
    EStateM ServerError Realtime α := fun db =>
  match fault, tx db with
  | .before error, _ => .error error db
  | _, .error error => .error error db
  | .none, .ok (a, db') => .ok a db'
  | .after error, .ok (_, db') => .error error db'

def realtimeStore (codec : Codec) (replayFault commitFault : Fault) : RoomCommandStore Realtime where
  findReplay lease playerId command now := replayFault.run (findReplay codec lease playerId command now)
  commit lease value now := commitFault.run (commit codec lease value now)

/-! ### Steps -/

/-- What a call takes from outside, with what befalls its two transactions. -/
structure CallSurroundings where
  clockMs : ℤ
  storeMs : ℤ
  randomSource : RandomCheckpoint → Option RandomSource
  replayFault : Fault
  commitFault : Fault

def CallSurroundings.call (outside : CallSurroundings) (codec : RoomCodec) :
    HandlerCall Realtime where
  clockMs := outside.clockMs
  storeMs := outside.storeMs
  randomSource := outside.randomSource
  store := realtimeStore codec.toCodec outside.replayFault outside.commitFault

inductive HandlerLabel
  | handle (outside : CallSurroundings) (authenticated : AuthenticatedRoomPlayer)
      (payload : RoomPayload false) (ending : Ending)
  | handleInternal (outside : CallSurroundings) (payload : RoomPayload true) (ending : Ending)
  | ensureAdmitted (outside : CallSurroundings) (authenticated : AuthenticatedRoomPlayer)
      (joinedAtMs : ℤ)
  | others

/-- The checkpoint and the commands of a room are left alone, but for the token. -/
structure SameRoom (roomId : String) (db db' : Realtime) : Prop where
  checkpoint : (db'.checkpoints roomId).map (fun row => (row.stateVersion, row.serializedState)) =
    (db.checkpoints roomId).map fun row => (row.stateVersion, row.serializedState)
  commands : ∀ key, key.roomId = roomId → db'.commands key = db.commands key

/-- One call of the handler, or a step of others, who do not write its room. -/
inductive HandlerStep (codec : RoomCodec) :
    HandlerState Realtime → HandlerLabel → HandlerState Realtime → Prop
  | handle (s s' : HandlerState Realtime) (outside : CallSurroundings)
      (authenticated : AuthenticatedRoomPlayer) (payload : RoomPayload false) (ending : Ending) :
      handlingEnding (handleSerial codec (outside.call codec) authenticated payload s)
        = (ending, s') →
      HandlerStep codec s (.handle outside authenticated payload ending) s'
  | handleInternal (s s' : HandlerState Realtime) (outside : CallSurroundings)
      (payload : RoomPayload true) (ending : Ending) :
      handlingEnding (handleInternalSerial codec (outside.call codec) payload s) = (ending, s') →
      HandlerStep codec s (.handleInternal outside payload ending) s'
  | ensureAdmitted (s s' : HandlerState Realtime) (outside : CallSurroundings)
      (authenticated : AuthenticatedRoomPlayer) (joinedAtMs : ℤ) :
      (admissionEnding (ensureAdmittedPlayerSerial codec (outside.call codec) authenticated
        joinedAtMs s)).2 = s' →
      HandlerStep codec s (.ensureAdmitted outside authenticated joinedAtMs) s'
  | others (s : HandlerState Realtime) (db : Realtime) :
      SameRoom s.handler.lease.roomId s.store db → HandlerStep codec s .others { s with store := db }

/-- What a label acknowledges. -/
def HandlerLabel.acknowledges : HandlerLabel → Option CommandAcknowledgement
  | .handle _ _ _ (.accepted acknowledgement _) => some acknowledgement
  | .handleInternal _ _ (.accepted acknowledgement _) => some acknowledgement
  | _ => none

def HandlerLabel.outside : HandlerLabel → Option CallSurroundings
  | .handle outside _ _ _ => some outside
  | .handleInternal outside _ _ => some outside
  | .ensureAdmitted outside _ _ => some outside
  | .others => none

/-- No commit of the step throws after it took effect. -/
def AnswersCommits (_ : HandlerState Realtime) (label : HandlerLabel) : Prop :=
  ∀ outside ∈ label.outside, ∀ error, outside.commitFault ≠ .after error

/-! ### What is kept -/

/-- The stored checkpoint of the room is of the state the handler holds. -/
def HoldsCheckpoint (codec : RoomCodec) (s : HandlerState Realtime) : Prop :=
  ∃ row, s.store.checkpoints s.handler.lease.roomId = some row ∧
    row.stateVersion = s.handler.state.stateVersion ∧
    row.serializedState = codec.serialize s.handler.state

/-- No recorded answer of a room is ahead of `version`. -/
def AnsweredUpTo (roomId : String) (version : ℤ) (db : Realtime) : Prop :=
  ∀ key row, db.commands key = some row → key.roomId = roomId →
    row.acknowledgement.stateVersion ≤ version

structure Serving (codec : RoomCodec) (s : HandlerState Realtime) : Prop where
  holds : HoldsCheckpoint codec s
  answered : AnsweredUpTo s.handler.lease.roomId s.handler.state.stateVersion s.store

section Steps

variable {codec : RoomCodec} {s s' : HandlerState Realtime} {db db' : Realtime}
  {lease : RoomLease} {now version : ℤ}

/-- An answer that the table of commands holds for a room. -/
def RecordedAnswer (roomId : String) (db : Realtime) (acknowledgement : CommandAcknowledgement) :
    Prop :=
  ∃ key row, db.commands key = some row ∧ key.roomId = roomId ∧
    row.acknowledgement = acknowledgement

/-- Looking for a replay changes nothing, and finds what is recorded. -/
theorem findReplay_fault (fault : Fault) (playerId : String) (command : RoomCommand) :
    (∃ error, fault.run (findReplay codec.toCodec lease playerId command now) db
        = .error error db) ∨
      ∃ replay, fault.run (findReplay codec.toCodec lease playerId command now) db
          = .ok replay db ∧
        ∀ acknowledgement ∈ replay, RecordedAnswer lease.roomId db acknowledgement := by
  cases hreplay : findReplay codec.toCodec lease playerId command now db with
  | error error =>
    refine .inl ?_
    cases fault <;> simp [Fault.run, hreplay]
  | ok result =>
    obtain ⟨replay, db'⟩ := result
    obtain ⟨-, -, hresponse⟩ := findReplay_eq_ok.1 hreplay
    obtain ⟨rfl, hstored⟩ := storedResponse_eq_ok.1 hresponse
    cases fault with
    | before error => exact .inl ⟨error, rfl⟩
    | after error =>
      refine .inl ⟨error, ?_⟩
      simp only [Fault.run, hreplay]
    | none =>
      refine .inr ⟨replay, ?_, fun acknowledgement hmem => ?_⟩
      · simp only [Fault.run, hreplay]
      · rcases hstored with ⟨-, rfl⟩ | ⟨prior, hprior, -, rfl⟩
        · cases hmem
        · cases hmem
          exact ⟨_, prior, hprior, rfl, rfl⟩

/-- A commit whose answer is not lost throws without effect, repeats a recorded answer, or takes
effect. -/
theorem commit_fault {fault : Fault} (hfault : ∀ error, fault ≠ .after error)
    (value : CommandCommit) :
    (∃ error, fault.run (commit codec.toCodec lease value now) db = .error error db) ∨
      (∃ acknowledgement, fault.run (commit codec.toCodec lease value now) db
          = .ok ⟨acknowledgement, true⟩ db ∧
        RecordedAnswer lease.roomId db acknowledgement) ∨
      (CheckedCommit codec.toCodec value ∧ AtExpected db lease value ∧
        fault.run (commit codec.toCodec lease value now) db
          = .ok ⟨value.acknowledgement, false⟩ (committed codec.toCodec lease value now db)) := by
  cases hcommit : commit codec.toCodec lease value now db with
  | error error =>
    refine .inl ?_
    cases fault <;> simp [Fault.run, hcommit]
  | ok result =>
    obtain ⟨result, db'⟩ := result
    cases fault with
    | before error => exact .inl ⟨error, rfl⟩
    | after error => exact absurd rfl (hfault error)
    | none =>
      have hrun : Fault.none.run (commit codec.toCodec lease value now) db = .ok result db' := by
        simp only [Fault.run, hcommit]
      obtain ⟨hchecked, -, ⟨prior, hprior, -, rfl, rfl⟩ | ⟨hat, -, rfl, rfl⟩⟩ :=
        commit_eq_ok.1 hcommit
      · exact .inr (.inl ⟨_, hrun, _, prior, hprior, rfl, rfl⟩)
      · exact .inr (.inr ⟨hchecked, hat, hrun⟩)

theorem RecordedAnswer.le {acknowledgement : CommandAcknowledgement}
    (h : RecordedAnswer lease.roomId db acknowledgement)
    (hup : AnsweredUpTo lease.roomId version db) : acknowledgement.stateVersion ≤ version := by
  obtain ⟨key, row, hrow, hroom, rfl⟩ := h
  exact hup key row hrow hroom

/-- A commit records an answer at its own version. -/
theorem AnsweredUpTo.committed {value : CommandCommit} (hup : AnsweredUpTo lease.roomId version db)
    (hle : version ≤ value.stateVersion)
    (hack : value.acknowledgement.stateVersion = value.stateVersion) :
    AnsweredUpTo lease.roomId value.stateVersion
      (committed codec.toCodec lease value now db) := by
  intro key row hrow hroom
  by_cases hkey : key = commandKey lease.roomId value.playerId value.command.requestId
  · subst hkey
    simp only [Server.committed, Function.update_self, Option.some.injEq] at hrow
    subst hrow
    exact hack.le
  · simp only [Server.committed, Function.update_of_ne hkey] at hrow
    exact (hup key row hrow hroom).trans hle

/-- Whatever the store answers to a search for a replay, it is as it was. -/
theorem findReplay_store {fault : Fault} {playerId : String} {command : RoomCommand}
    {result : EStateM.Result ServerError Realtime (Option CommandAcknowledgement)}
    (h : fault.run (findReplay codec.toCodec lease playerId command now) db = result) :
    (∀ error db', result = .error error db' → db' = db) ∧
      ∀ replay db', result = .ok replay db' → db' = db ∧
        ∀ acknowledgement ∈ replay, RecordedAnswer lease.roomId db acknowledgement := by
  subst h
  rcases @findReplay_fault codec db lease now fault playerId command with
    ⟨error, herror⟩ | ⟨replay, hreplay, hrecorded⟩
  · rw [herror]
    refine ⟨fun _ _ h => ?_, fun _ _ h => ?_⟩ <;> cases h
    rfl
  · rw [hreplay]
    refine ⟨fun _ _ h => ?_, fun _ _ h => ?_⟩ <;> cases h
    exact ⟨rfl, hrecorded⟩

/-- A call that answers with a recorded acknowledgement passes it on, if it acknowledges anything. -/
def Faithful (replies : CommandAcknowledgement → Ending → Prop) : Prop :=
  ∀ acknowledgement ending, replies acknowledgement ending → ∀ acknowledgement' replayed,
    ending = .accepted acknowledgement' replayed → acknowledgement' = acknowledgement ∧
      replayed = true

theorem passesOn_faithful : Faithful Ending.PassesOn := by
  rintro acknowledgement _ rfl acknowledgement' replayed heq
  cases heq
  exact ⟨rfl, rfl⟩

theorem throws_faithful : Faithful Ending.Throws := by
  rintro acknowledgement _ ⟨error, rfl⟩ acknowledgement' replayed heq
  cases heq

/-- Every ending of a call whose commit is answered keeps the handler at the stored checkpoint, and
acknowledges nothing beyond it. -/
theorem Handled.serving {actorId : String} {outside : CallSurroundings}
    {refusals : ServerError → Prop} {asked : RoomCommand → ℤ → Prop}
    {replies : CommandAcknowledgement → Ending → Prop} {decided : RoomCommand → ℤ → ℤ → Proposal → Prop}
    {finalization : RoomCommand → Option SessionFinalization} {ending : Ending}
    (h : Handled codec (outside.call codec) actorId refusals asked replies decided finalization s
      ending s') (hreplies : Faithful replies)
    (hfault : ∀ error, outside.commitFault ≠ .after error) (hserving : Serving codec s) :
    Serving codec s' ∧ ∀ acknowledgement replayed, ending = .accepted acknowledgement replayed →
      acknowledgement.stateVersion ≤ s'.handler.state.stateVersion := by
  cases h with
  | unasked _ hnone =>
    refine ⟨hserving, fun acknowledgement _ hack => ?_⟩
    rcases hnone with rfl | ⟨error, -, rfl⟩ <;> cases hack
  | replayThrew command storeMs error store hasked hreplay =>
    obtain rfl := (findReplay_store hreplay).1 _ _ rfl
    exact ⟨hserving, fun _ _ hack => by cases hack⟩
  | replayed command storeMs acknowledgement store _ hasked hreplay hpasses =>
    obtain ⟨rfl, hrecorded⟩ := (findReplay_store hreplay).2 _ _ rfl
    refine ⟨hserving, fun acknowledgement' _ hack => ?_⟩
    rw [(hreplies _ _ hpasses _ _ hack).1]
    exact (hrecorded acknowledgement rfl).le hserving.answered
  | refused command storeMs store _ hasked hreplay hnone =>
    obtain ⟨rfl, -⟩ := (findReplay_store hreplay).2 _ _ rfl
    refine ⟨hserving, fun acknowledgement _ hack => ?_⟩
    rcases hnone with rfl | ⟨error, -, rfl⟩ <;> cases hack
  | commitThrew command storeMs committedAtMs proposal store store' error hasked hreplay hdecided
      hcommit =>
    obtain ⟨rfl, -⟩ := (findReplay_store hreplay).2 _ _ rfl
    rcases commit_fault hfault _ with ⟨_, hrun⟩ | ⟨_, hrun, -⟩ | ⟨-, -, hrun⟩
    · cases hrun.symm.trans hcommit
      exact ⟨hserving, fun _ _ hack => by cases hack⟩
    · cases hrun.symm.trans hcommit
    · cases hrun.symm.trans hcommit
  | duplicate command storeMs committedAtMs proposal store store' acknowledgement _ hasked hreplay
      hdecided hcommit hpasses =>
    obtain ⟨rfl, -⟩ := (findReplay_store hreplay).2 _ _ rfl
    rcases commit_fault hfault _ with ⟨_, hrun⟩ | ⟨_, hrun, hrecorded⟩ | ⟨-, -, hrun⟩
    · cases hrun.symm.trans hcommit
    · cases hrun.symm.trans hcommit
      refine ⟨hserving, fun acknowledgement' _ hack => ?_⟩
      rw [(hreplies _ _ hpasses _ _ hack).1]
      exact hrecorded.le hserving.answered
    · cases hrun.symm.trans hcommit
  | committed command storeMs committedAtMs proposal store store' acknowledgement hasked hreplay
      hdecided hcommit =>
    obtain ⟨rfl, -⟩ := (findReplay_store hreplay).2 _ _ rfl
    rcases commit_fault hfault _ with ⟨_, hrun⟩ | ⟨_, hrun, hrecorded⟩ | ⟨hchecked, hat, hrun⟩
    · cases hrun.symm.trans hcommit
    · cases hrun.symm.trans hcommit
    · cases hrun.symm.trans hcommit
      -- the checkpoint moves to the next state, and the handler with it
      obtain ⟨row, hrow, hversion, -⟩ := hserving.holds
      obtain ⟨row', hleased, hexpected⟩ := hat
      obtain ⟨hrow', -⟩ := leasedCheckpoint_eq_some.1 hleased
      obtain rfl := Option.some.inj (hrow.symm.trans hrow')
      have hnext := hchecked.consistent.1
      refine ⟨⟨⟨_, Function.update_self .., rfl, rfl⟩, ?_⟩, fun acknowledgement' _ hack => ?_⟩
      · refine hserving.answered.committed ?_ hchecked.consistent.2.2.1
        rw [hnext, ← hexpected, hversion]
        exact Int.le.intro 1 rfl
      · cases hack
        exact le_rfl

/-- A step whose commit is answered keeps the handler at the stored checkpoint. -/
theorem HandlerStep.serving {label : HandlerLabel} (h : HandlerStep codec s label s')
    (hanswers : AnswersCommits s label) (hserving : Serving codec s) :
    Serving codec s' ∧ ∀ acknowledgement ∈ label.acknowledges,
      acknowledgement.stateVersion ≤ s'.handler.state.stateVersion := by
  cases h with
  | handle _ outside authenticated payload ending hhandle =>
    obtain ⟨hnext, hack⟩ := (handleWith_handled hhandle).serving passesOn_faithful
      (hanswers outside rfl) hserving
    refine ⟨hnext, fun acknowledgement hmem => ?_⟩
    cases ending <;> cases hmem
    exact hack acknowledgement _ rfl
  | handleInternal _ outside payload ending hhandle =>
    obtain ⟨hnext, hack⟩ := (handleWith_handled hhandle).serving passesOn_faithful
      (hanswers outside rfl) hserving
    refine ⟨hnext, fun acknowledgement hmem => ?_⟩
    cases ending <;> cases hmem
    exact hack acknowledgement _ rfl
  | ensureAdmitted _ outside authenticated joinedAtMs hhandle =>
    obtain ⟨ending, hhandled⟩ := ensureAdmittedPlayerSerial_handled hhandle
    exact ⟨(hhandled.serving throws_faithful (hanswers outside rfl) hserving).1, fun _ hmem => by cases hmem⟩
  | others db hsame =>
    obtain ⟨row, hrow, hversion, hstate⟩ := hserving.holds
    have hcheckpoint := hsame.checkpoint
    rw [hrow] at hcheckpoint
    obtain ⟨row', hrow', heq⟩ := Option.map_eq_some_iff.1 hcheckpoint
    rw [Prod.mk.injEq] at heq
    refine ⟨⟨⟨row', hrow', heq.1.trans hversion, heq.2.trans hstate⟩, fun key answer hmem hroom => ?_⟩,
      fun _ hmem => by cases hmem⟩
    rw [hsame.commands key hroom] at hmem
    exact hserving.answered key answer hmem hroom

end Steps

/-! ### Opened handlers -/

/-- A handler that has just been opened on the checkpoint of a store in use. -/
def Opened (codec : RoomCodec) (s : HandlerState Realtime) : Prop :=
  HoldsCheckpoint codec s ∧
    ∃ start labels, Fresh start ∧ Run (RoomStep codec.toCodec) start labels s.store

/-- Every recorded answer of a room is below its checkpoint. -/
def AnswersBelow (db : Realtime) : Prop :=
  ∀ key answer, db.commands key = some answer → ∃ row, db.checkpoints key.roomId = some row ∧
    answer.acknowledgement.stateVersion ≤ row.stateVersion

section Opening

variable {codec : Codec} {db db' : Realtime} {now : ℤ}

theorem AnswersBelow.of_same (h : AnswersBelow db) (hcommands : db'.commands = db.commands)
    (hrows : ∀ roomId, (db'.checkpoints roomId).map (fun row =>
        (row.checksum, row.stateVersion, row.serializedState)) =
      (db.checkpoints roomId).map fun row =>
        (row.checksum, row.stateVersion, row.serializedState)) : AnswersBelow db' := by
  intro key answer hanswer
  rw [hcommands] at hanswer
  obtain ⟨row, hrow, hle⟩ := h key answer hanswer
  have hsame := hrows key.roomId
  rw [hrow] at hsame
  obtain ⟨row', hrow', heq⟩ := Option.map_eq_some_iff.1 hsame
  simp only [Prod.mk.injEq] at heq
  exact ⟨row', hrow', heq.2.1.symm ▸ hle⟩

theorem StoreEffect.answersBelow {call : StoreCall} {result : StoreResult}
    (h : StoreEffect codec db now call result db')
    (hsave : ∀ lease expected version state, call ≠ .saveCheckpoint lease expected version state)
    (hdb : AnswersBelow db) : AnswersBelow db' := by
  cases h with
  | acquired _ _ _ _ _ _ hacquired =>
    exact hdb.of_same hacquired.snapshots.1 hacquired.snapshots.2
  | initialized lease stateVersion serializedState checkpoint howned hnone =>
    intro key answer hanswer
    obtain ⟨row, hrow, hle⟩ := hdb key answer hanswer
    have hroom : key.roomId ≠ lease.roomId := by
      intro heq
      rw [heq, hnone] at hrow
      cases hrow
    exact ⟨row, (Function.update_of_ne hroom _ _).trans hrow, hle⟩
  | saved lease expected version state => exact absurd rfl (hsave lease expected version state)
  | committed lease value hchecked howned hat hrecord =>
    obtain ⟨current, hleased, hexpected⟩ := hat
    obtain ⟨hcurrent, -⟩ := leasedCheckpoint_eq_some.1 hleased
    intro key answer hanswer
    by_cases hkey : key = commandKey lease.roomId value.playerId value.command.requestId
    · subst hkey
      simp only [Server.committed, Function.update_self, Option.some.injEq] at hanswer
      subst hanswer
      exact ⟨_, Function.update_self .., hchecked.consistent.2.2.1.le⟩
    · simp only [Server.committed, Function.update_of_ne hkey] at hanswer ⊢
      obtain ⟨row, hrow, hle⟩ := hdb key answer hanswer
      by_cases hroom : key.roomId = lease.roomId
      · rw [hroom, hcurrent, Option.some.injEq] at hrow
        subst hrow
        refine ⟨_, by rw [hroom, Function.update_self], hle.trans ?_⟩
        show current.stateVersion ≤ value.stateVersion
        rw [hchecked.consistent.1, ← hexpected]
        exact Int.le.intro 1 rfl
      · exact ⟨row, by rw [Function.update_of_ne hroom, hrow], hle⟩
  | _ => exact hdb.of_same rfl fun _ => rfl

theorem run_answersBelow {start : Realtime} {labels : List StoreLabel} (hstart : Fresh start)
    (h : Run (RoomStep codec) start labels db) : AnswersBelow db := by
  refine h.invariant (fun _ _ _ hm hstep => hstep.1.effect.answersBelow hstep.2 hm) ?_
  obtain ⟨sessions, rfl⟩ := hstart
  intro key answer hanswer
  cases hanswer

end Opening

theorem Opened.serving {codec : RoomCodec} {s : HandlerState Realtime} (h : Opened codec s) :
    Serving codec s := by
  obtain ⟨hholds, start, labels, hstart, hrun⟩ := h
  refine ⟨hholds, fun key answer hanswer hroom => ?_⟩
  obtain ⟨row, hrow, hversion, -⟩ := hholds
  obtain ⟨row', hrow', hle⟩ := run_answersBelow hstart hrun key answer hanswer
  rw [hroom, hrow, Option.some.injEq] at hrow'
  subst hrow'
  exact hversion ▸ hle

/-- Where no commit throws after it took effect, the handler of a room always holds the state of
the stored checkpoint, and never acknowledges a version beyond it. -/
theorem handler_serves_acknowledged (codec : RoomCodec) (start s s' : HandlerState Realtime)
    (labels : List HandlerLabel) (label : HandlerLabel) (hopened : Opened codec start)
    (hrun : Run (Guarded AnswersCommits (HandlerStep codec)) start labels s)
    (hstep : Guarded AnswersCommits (HandlerStep codec) s label s') :
    HoldsCheckpoint codec s' ∧ ∀ acknowledgement ∈ label.acknowledges,
      acknowledgement.stateVersion ≤ s'.handler.state.stateVersion := by
  have hserving := hrun.invariant (fun _ _ _ hm hnext => (hnext.1.serving hnext.2 hm).1)
    hopened.serving
  obtain ⟨hnext, hacknowledged⟩ := hstep.1.serving hstep.2 hserving
  exact ⟨hnext.holds, hacknowledged⟩

/-! ### A lost answer -/

/-- Alice has opened a lobby for four. -/
def aliceLobby : GameState where
  stateVersion := 1
  gameId := "game"
  creatorId := "alice"
  minimumPlayers := 2
  maximumPlayers := 4
  seats := [some (createSeat "alice" 0 0), none, none, none]
  bankCash := 1000000
  freeParkingPool := 0
  housesRemaining := 32
  hotelsRemaining := 12
  createdAtMs := 0
  timeLimitMs := none
  turnTimeoutMs := 90000
  rng := twoPlayerLobby.rng
  lifecycle := .waitingForPlayers

/-- A codec that writes a state as its version in strokes. -/
def strokeCodec : RoomCodec where
  digest text := text.toList.map fun c => c.toNat.toUInt8
  snapshotVersion text := some text.length
  serialize state := String.ofList (List.replicate state.stateVersion.toNat 'a')

/-- The room of Alice's lobby, opened by its first server. -/
def aliceRoom : HandlerState Realtime where
  handler := ⟨.lifecycle aliceLobby, 0, sampleLease⟩
  store := setCheckpoint "room" (snapshotRow strokeCodec.toCodec sampleLease 1 "a" 1)
    (setLease "room" ⟨"game", "server", 100, 1, 0⟩ (freshRealtime fun _ => some "room"))

theorem aliceRoom_opened : Opened strokeCodec aliceRoom := by
  refine ⟨⟨_, rfl, rfl, rfl⟩, freshRealtime fun _ => some "room",
    [⟨.acquire "server" 100 "room" "game", 0, .lease sampleLease⟩,
      ⟨.initializeCheckpoint sampleLease 1 "a", 1,
        .checkpoint ⟨strokeCodec.toCodec.sha256 "a", 1, "a", 1, 1⟩⟩], ⟨_, rfl⟩, ?_⟩
  exact .cons ⟨rfl, fun _ _ _ _ h => by cases h⟩
    (.cons ⟨rfl, fun _ _ _ _ h => by cases h⟩ (.nil _))

def bobSeated : AuthenticatedRoomPlayer := ⟨"game", "bob", "res_bob", "room", 1, "user_bob"⟩

/-- Bob asks to join the lobby, at version one. -/
def bobJoins : RoomPayload false where
  requestId := some "r"
  command := some ⟨"r", 1, .lifecycle .joinGame⟩
  parsed := by
    rintro _ ⟨⟩
    exact ⟨rfl, rfl⟩

/-- The surroundings of a call at time `now`. -/
def surroundings (now : ℤ) (commitFault : Fault) : CallSurroundings :=
  ⟨now, now, fun rng => some (scriptedSource [] rng), .none, commitFault⟩

/-- Bob joins, and is told of the version the handler then holds. -/
theorem handler_serves_acknowledged_join : ∃ s', HandlerStep strokeCodec aliceRoom
      (.handle (surroundings 2 .none) bobSeated bobJoins (.accepted ⟨"r", 2, ["evt_r_0"]⟩ false)) s' ∧
    HoldsCheckpoint strokeCodec s' := by
  have hstep : HandlerStep strokeCodec aliceRoom
      (.handle (surroundings 2 .none) bobSeated bobJoins (.accepted ⟨"r", 2, ["evt_r_0"]⟩ false)) _ :=
    .handle _ _ _ _ _ _ rfl
  have hserves := handler_serves_acknowledged strokeCodec aliceRoom aliceRoom _ [] _ aliceRoom_opened
    (.nil _) ⟨hstep, by rintro _ ⟨⟩ _ ⟨⟩⟩
  exact ⟨_, hstep, hserves.1⟩

/-- What Bob's joining commits. -/
def bobCommit : CommandCommit where
  acknowledgement := ⟨"r", 2, ["evt_r_0"]⟩
  events := [⟨"evt_r_0", 2, 2, .lifecycle (.playerJoined "bob" 1 2)⟩]
  playerId := "bob"
  command := ⟨"r", 1, .lifecycle .joinGame⟩
  serializedState := "aa"
  stateVersion := 2
  terminalProof := none
  sessionFinalization := none

/-- The room after Bob's joining took effect in the store alone. -/
def lostRoom : HandlerState Realtime where
  handler := aliceRoom.handler
  store := committed strokeCodec.toCodec sampleLease bobCommit 2 aliceRoom.store

/-- The answer to a commit of Bob's is lost; asked again, the handler acknowledges version two while
it still holds version one. -/
theorem not_handler_serves_acknowledged : Opened strokeCodec aliceRoom ∧ ∃ error acknowledgement,
    HandlerStep strokeCodec aliceRoom (.handle (surroundings 2 (.after error)) bobSeated bobJoins
      (.threw error)) lostRoom ∧
    HandlerStep strokeCodec lostRoom (.handle (surroundings 3 .none) bobSeated bobJoins
      (.accepted acknowledgement true)) lostRoom ∧
    acknowledgement.stateVersion = 2 ∧ lostRoom.handler.state.stateVersion = 1 ∧
    ¬ HoldsCheckpoint strokeCodec lostRoom := by
  have howned : Owned lostRoom.store sampleLease 3 := ⟨_, rfl, rfl, rfl, rfl, by decide⟩
  have hreplay : findReplay strokeCodec.toCodec sampleLease "bob" bobCommit.command 3
      lostRoom.store = .ok (some bobCommit.acknowledgement, lostRoom.store) :=
    findReplay_eq_ok.2 ⟨rfl, howned, storedResponse_eq_ok.2
      ⟨rfl, .inr ⟨commandRow strokeCodec.toCodec bobCommit 2, Function.update_self .., rfl, rfl⟩⟩⟩
  have hretry : handleSerial strokeCodec ((surroundings 3 .none).call strokeCodec) bobSeated bobJoins
      lostRoom = .ok (.accepted bobCommit.acknowledgement [] true) lostRoom := by
    have hnow : commandTimestampMs lostRoom.handler 3 = .ok 3 := rfl
    refine handleWith_replayed rfl hnow ?_
    show Fault.none.run (findReplay strokeCodec.toCodec sampleLease "bob" bobCommit.command 3)
      lostRoom.store = _
    simp only [Fault.run, hreplay]
    rfl
  refine ⟨aliceRoom_opened, ⟨.database, "connection lost"⟩, bobCommit.acknowledgement,
    .handle _ _ _ _ _ _ rfl, .handle _ _ _ _ _ _ (by rw [hretry]; rfl), rfl, rfl, ?_⟩
  rintro ⟨row, hrow, hversion, -⟩
  cases hrow
  cases hversion

end Pootown.Server
