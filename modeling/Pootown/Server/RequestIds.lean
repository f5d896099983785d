import Mathlib.Tactic
import Pootown.Invariants.Unpublished
import Pootown.Server.ServedState

/-!
# Request ids of different actors

Commands are recorded by room, player and request id, but the ids of their events and of the trades
they open are derived from the request id alone, and event ids are unique in the whole store.

* `HandlerCommit`: what the three calls of handlers commit, and in which state they do;
* `PublishesNothing`: the commands of which no event tells;
* `Independent`: two commits under one request id share no derived id, and the first has no say in
  whether the second succeeds;
* `requests_independent_iff`: this is so exactly when one of the two publishes nothing.
-/

namespace Pootown.Server

open Fallible Transactions

/-- The commits of an actor in a state: what the handler of some room hands to the store. -/
inductive HandlerCommit (codec : RoomCodec) : String → RoomGameState → CommandCommit → Prop
  | player (authenticated : AuthenticatedRoomPlayer) (state : RoomGameState)
      (command : RoomCommand) (nowMs : ℤ) (source : Option RandomSource) (proposal : Proposal) :
      playerDecision authenticated.playerId state command nowMs source = .ok proposal →
      HandlerCommit codec authenticated.playerId state (proposal.toCommit codec
        authenticated.playerId command (sessionFinalization codec authenticated command))
  | timer (state : RoomGameState) (command : RoomCommand) (nowMs : ℤ)
      (source : Option RandomSource) (proposal : Proposal) :
      internalDecision state command nowMs source = .ok proposal →
      HandlerCommit codec systemActorId state (proposal.toCommit codec systemActorId command none)
  | admission (authenticated : AuthenticatedRoomPlayer) (state : RoomGameState) (lobby : GameState)
      (joinedAtMs committedAtMs : ℤ) (source : RandomSource) (proposal : Proposal) :
      admissionLobby state authenticated = .ok lobby →
      admissionDecision authenticated lobby (admissionCommand codec authenticated state) joinedAtMs
        committedAtMs source = .ok proposal →
      HandlerCommit codec authenticated.playerId state (proposal.toCommit codec
        authenticated.playerId (admissionCommand codec authenticated state) none)

/-- In a game, a command of which no event tells. -/
def PublishesNothing (state : RoomGameState) (command : RoomCommand) : Prop :=
  match state, command.body with
  | .gameplay (.inProgress active), .gameplay body => Unpublished active body
  | _, _ => False

/-- `value'` is `value` under another request id: the texts derived from it differ, the versions,
the number of events and the kinds of rows do not. -/
structure Renamed (value value' : CommandCommit) : Prop where
  playerId : value'.playerId = value.playerId
  body : value'.command.body = value.command.body
  stateVersion : value'.stateVersion = value.stateVersion
  events : value'.events.length = value.events.length
  eventIds : value'.events.map RoomEvent.eventId =
    (List.range value.events.length).map (eventId value'.command.requestId)
  terminalProof : value'.terminalProof = value.terminalProof
  finalization : value'.sessionFinalization.map SessionFinalization.action =
    value.sessionFinalization.map SessionFinalization.action

def createsTrade (command : RoomCommand) : Bool :=
  match command.body with
  | .gameplay body => isCreateTrade body
  | .lifecycle _ => false

/-- Two commits, in rooms `room` and `room'`, do not interact: their events have different ids, and
so have the trades they open, and after the first the second succeeds exactly when it succeeds after
the first under another request id. -/
structure Independent (codec : Codec) (room room' : String) (first second : CommandCommit) :
    Prop where
  eventIds : ∀ id ∈ first.events.map RoomEvent.eventId, id ∉ second.events.map RoomEvent.eventId
  tradeIds : createsTrade first.command = true → createsTrade second.command = true →
    tradeId first.command.requestId ≠ tradeId second.command.requestId
  commits : ∀ db lease lease' now now' renamed, lease.roomId = room → lease'.roomId = room' →
    Renamed first renamed →
    ((∃ result, commit codec lease' second now' (committed codec lease first now db) = .ok result) ↔
      ∃ result, commit codec lease' second now' (committed codec lease renamed now db) = .ok result)

/-! ### Reading the tables -/

section Reading

variable {codec : Codec} {db db' : Realtime} {lease lease' : RoomLease} {now now' : ℤ}
  {first first' second : CommandCommit}

/-- The tables `db'` admit all that a commit of `value` finds admissible in `db`. -/
structure Alike (lease : RoomLease) (value : CommandCommit) (db db' : Realtime) : Prop where
  leases : db'.leases = db.leases
  sessions : db'.sessions = db.sessions
  checkpoint : (db'.checkpoints lease.roomId).map (fun row =>
      (row.gameSessionId, row.fencingToken, row.stateVersion)) =
    (db.checkpoints lease.roomId).map fun row =>
      (row.gameSessionId, row.fencingToken, row.stateVersion)
  command : db'.commands (value.key lease.roomId) = db.commands (value.key lease.roomId)
  events : ∀ event ∈ value.events, db.events event.eventId = none → db'.events event.eventId = none
  proofs : db.proofs lease.gameId = none → db'.proofs lease.gameId = none
  finalizations : db'.finalizations (value.key lease.roomId) =
    db.finalizations (value.key lease.roomId)

theorem Alike.commit (h : Alike lease second db db')
    (hcommit : ∃ result, Server.commit codec lease second now db = .ok result) :
    ∃ result, Server.commit codec lease second now db' = .ok result := by
  obtain ⟨⟨result, db₁⟩, hresult⟩ := hcommit
  obtain ⟨hchecked, howned, hcases⟩ := commit_eq_ok.1 hresult
  have howned' : Owned db' lease now := by
    rw [Owned, h.leases]
    exact howned
  rcases hcases with ⟨prior, hprior, hhash, -, -⟩ | ⟨⟨row, hrow, hversion⟩, hrecord, -, -⟩
  · refine ⟨_, commit_eq_ok.2 ⟨hchecked, howned', .inl ⟨prior, ?_, hhash, rfl, rfl⟩⟩⟩
    exact h.command.trans hprior
  · obtain ⟨hcheckpoint, hgame, htoken⟩ := leasedCheckpoint_eq_some.1 hrow
    have hsame := h.checkpoint
    rw [hcheckpoint] at hsame
    obtain ⟨row', hrow', heq⟩ := Option.map_eq_some_iff.1 hsame
    simp only [Prod.mk.injEq] at heq
    obtain ⟨hgame', htoken', hversion'⟩ := heq
    refine ⟨_, commit_eq_ok.2 ⟨hchecked, howned', .inr ⟨⟨row', leasedCheckpoint_eq_some.2
      ⟨hrow', hgame'.trans hgame, htoken'.trans htoken⟩, hversion'.trans hversion⟩, ?_, rfl, rfl⟩⟩⟩
    exact {
      events_nodup := hrecord.events_nodup
      events_new := fun event hevent => h.events event hevent (hrecord.events_new event hevent)
      proof := by
        intro proof hproof
        obtain ⟨hwinner, hsession, hnone⟩ := hrecord.proof proof hproof
        exact ⟨hwinner, h.sessions ▸ hsession, h.proofs hnone⟩
      command := h.command.trans hrecord.command
      finalization := by
        intro finalization hfinalization
        obtain ⟨hreservation, hkey, hnone⟩ := hrecord.finalization finalization hfinalization
        exact ⟨hreservation, hkey, h.finalizations.trans hnone⟩ }

theorem addProof_eq_none {gameId : String} {table : Table String ProofRow} :
    addProof codec lease first now table gameId = none ↔
      table gameId = none ∧ (gameId = lease.gameId → first.terminalProof = none) := by
  unfold addProof
  cases first.terminalProof with
  | none => simp
  | some proof =>
    by_cases hgame : gameId = lease.gameId
    · simp [hgame]
    · simp [hgame]

/-- A commit adds a finalization under its own key only. -/
theorem addFinalization_of_ne {key : CommandKey} {table : Table CommandKey FinalizationRow}
    (h : key ≠ first.key lease.roomId) :
    addFinalization lease first now table key = table key := by
  unfold addFinalization
  cases first.sessionFinalization with
  | none => rfl
  | some finalization => exact Function.update_of_ne h _ _

/-- After two commits of one actor at one version, a commit of another actor that publishes nothing,
or that comes after commits that publish nothing, finds the same. -/
theorem alike_committed (hkey : second.key lease'.roomId ≠ first.key lease.roomId)
    (hkey' : second.key lease'.roomId ≠ first'.key lease.roomId)
    (hversion : first'.stateVersion = first.stateVersion)
    (hproof : first'.terminalProof = first.terminalProof)
    (hevents : first.events = [] ∧ first'.events = [] ∨ second.events = []) :
    Alike lease' second (committed codec lease first now db)
      (committed codec lease first' now db) where
  leases := rfl
  sessions := rfl
  checkpoint := by
    by_cases hroom : lease'.roomId = lease.roomId
    · simp [committed, snapshotRow, hroom, hversion]
    · simp [committed, hroom]
  command := by
    show Function.update db.commands (first'.key lease.roomId) _ _ =
      Function.update db.commands (first.key lease.roomId) _ _
    rw [Function.update_of_ne hkey, Function.update_of_ne hkey']
  events := by
    intro event hevent hnone
    rcases hevents with ⟨hfirst, hfirst'⟩ | hsecond
    · rw [committed, addEvents, hfirst] at hnone
      rw [committed, addEvents, hfirst']
      exact hnone
    · rw [hsecond] at hevent
      cases hevent
  proofs := by
    intro hnone
    obtain ⟨htable, hown⟩ := addProof_eq_none.1 hnone
    exact addProof_eq_none.2 ⟨htable, fun hgame => hproof.trans (hown hgame)⟩
  finalizations := by
    show addFinalization lease first' now db.finalizations _ =
      addFinalization lease first now db.finalizations _
    rw [addFinalization_of_ne hkey, addFinalization_of_ne hkey']

end Reading

/-! ### Independence -/

section Independence

variable {codec : RoomCodec} {actorId : String} {state : RoomGameState} {value : CommandCommit}

theorem envelopes_eventIds (requestId : String) (stateVersion occurredAtMs : ℤ)
    (payloads : List RoomEventPayload) :
    (envelopes requestId stateVersion occurredAtMs payloads).map RoomEvent.eventId =
      (List.range payloads.length).map (eventId requestId) := by
  apply List.ext_getElem?
  intro i
  by_cases hi : i < payloads.length
  · simp [envelopes, hi]
  · simp [envelopes, hi]

/-- The events of a proposal are numbered under the request id of its command. -/
def Numbered (command : RoomCommand) (proposal : Proposal) : Prop :=
  proposal.events.map RoomEvent.eventId =
    (List.range proposal.events.length).map (eventId command.requestId)

theorem numbered_envelopes {command : RoomCommand} {proposal : Proposal}
    {stateVersion occurredAtMs : ℤ} {payloads : List RoomEventPayload}
    (h : proposal.events = envelopes command.requestId stateVersion occurredAtMs payloads) :
    Numbered command proposal := by
  rw [Numbered, h, envelopes_eventIds]
  simp [envelopes]

theorem mapM_length {α β : Type} {f : α → Except ServerError β} {l : List α} {r : List β}
    (h : l.mapM f = .ok r) : r.length = l.length := by
  induction l generalizing r with
  | nil =>
    cases h
    rfl
  | cons a rest ih =>
    rw [List.mapM_cons] at h
    obtain ⟨b, -, h⟩ := bind_eq_ok.1 h
    obtain ⟨bs, hrest, h⟩ := bind_eq_ok.1 h
    cases h
    simp [ih hrest]

theorem thrown_eq_ok {α : Type} {x : Except ServerError α} {a : α} :
    thrown x = .ok a ↔ x = .ok a := by
  cases x <;> simp [thrown]

/-- A decision on a gameplay command publishes one event for each of the core's. -/
theorem gameplayDecision_events {state : GameplayAggregateState} {command : RoomCommand}
    {body : GameplayCommandBody} {context : GameplayCommandContext} {proposal : Proposal}
    (hbody : command.body = .gameplay body)
    (h : gameplayDecision state command body context = .ok proposal) :
    Numbered command proposal ∧
      (proposal.events = [] ↔ PublishesNothing (.gameplay state) command) := by
  unfold gameplayDecision at h
  split at h
  next => cases h
  next nextState events htransition =>
    obtain ⟨published, hpublished, h⟩ := bind_eq_ok.1 h
    obtain ⟨proof, -, h⟩ := bind_eq_ok.1 h
    cases h
    obtain ⟨payloads, hpayloads, hdone⟩ := bind_eq_ok.1 (thrown_eq_ok.1 hpublished)
    cases hdone
    refine ⟨numbered_envelopes rfl, ?_⟩
    have hlength : (envelopes command.requestId (GameplayAggregateState.base nextState).stateVersion
        context.nowMs (payloads.map (.gameplay (GameplayAggregateState.base nextState).gameId))).length
          = events.length := by
      simp [envelopes, mapM_length hpayloads]
    rw [← List.length_eq_zero_iff, hlength, List.length_eq_zero_iff]
    cases state with
    | finished finished =>
      obtain ⟨error, hrejected⟩ := transitionGameplay_finished finished
        ⟨command.expectedStateVersion, body⟩ context
      rw [hrejected] at htransition
      cases htransition
    | inProgress active =>
      simp only [PublishesNothing, hbody]
      exact events_eq_nil_iff htransition

/-- What happens in a lobby is published. -/
theorem lobby_publishes {lobby result : GameState} {command : GameCommand}
    {context : TransitionContext} {events : List DomainEvent} {requestId : String}
    {stateVersion occurredAtMs : ℤ}
    (h : transition (some lobby) command context = .ok (result, events)) :
    lifecycleEvents events requestId stateVersion occurredAtMs ≠ [] := by
  obtain ⟨-, rng, -, hstep⟩ := transition_step h
  generalize command.body = body at hstep
  cases hstep <;> exact List.cons_ne_nil _ _

theorem lifecycleDecision_events {lobby : GameState} {command : RoomCommand}
    {body : GameCommandBody} {context : TransitionContext} {proposal : Proposal}
    (h : lifecycleDecision lobby command body context = .ok proposal) :
    Numbered command proposal ∧ proposal.events ≠ [] := by
  unfold lifecycleDecision at h
  split at h
  next => cases h
  next htransition =>
    obtain ⟨nextState, -, h⟩ := bind_eq_ok.1 h
    obtain ⟨proof, -, h⟩ := bind_eq_ok.1 h
    cases h
    exact ⟨numbered_envelopes rfl, lobby_publishes htransition⟩

theorem admissionDecision_events {authenticated : AuthenticatedRoomPlayer} {lobby : GameState}
    {command : RoomCommand} {joinedAtMs committedAtMs : ℤ} {source : RandomSource}
    {proposal : Proposal}
    (h : admissionDecision authenticated lobby command joinedAtMs committedAtMs source
      = .ok proposal) : Numbered command proposal ∧ proposal.events ≠ [] := by
  unfold admissionDecision at h
  split at h
  next => cases h
  next htransition =>
    simp only [Fallible.bind_eq_ok, require_eq_ok, Fallible.pure_eq_ok, exists_const] at h
    obtain ⟨-, -, rfl⟩ := h
    exact ⟨numbered_envelopes rfl, lobby_publishes htransition⟩

theorem not_publishesNothing_lobby {command : RoomCommand} {body : GameCommandBody}
    (hbody : command.body = .lifecycle body) : ¬ PublishesNothing state command := by
  simp [PublishesNothing, hbody]

/-- The commits of a handler number their events under the request id, and lack events only where
the command publishes none. -/
theorem HandlerCommit.events_eq (h : HandlerCommit codec actorId state value) :
    value.playerId = actorId ∧ value.events.map RoomEvent.eventId =
      (List.range value.events.length).map (eventId value.command.requestId) ∧
    (value.events = [] ↔ PublishesNothing state value.command) := by
  have hpublished : ∀ {events : List RoomEvent} {state : RoomGameState} {command : RoomCommand},
      events ≠ [] → ¬ PublishesNothing state command →
        (events = [] ↔ PublishesNothing state command) :=
    fun hne hnot => iff_of_false hne hnot
  cases h with
  | player authenticated _ command nowMs source proposal hdecision =>
    refine ⟨rfl, ?_⟩
    show Numbered command proposal ∧ (proposal.events = [] ↔ PublishesNothing state command)
    unfold playerDecision at hdecision
    split at hdecision
    next => cases hdecision
    next =>
      split at hdecision
      next => cases hdecision
      next _ body _ hbody => exact gameplayDecision_events hbody hdecision
      next => cases hdecision
      next _ body _ hbody =>
        obtain ⟨hnumbered, hne⟩ := lifecycleDecision_events hdecision
        exact ⟨hnumbered, hpublished hne (not_publishesNothing_lobby hbody)⟩
  | timer _ command nowMs source proposal hdecision =>
    refine ⟨rfl, ?_⟩
    show Numbered command proposal ∧ (proposal.events = [] ↔ PublishesNothing state command)
    unfold internalDecision at hdecision
    split at hdecision
    next _ body _ _ hbody => exact gameplayDecision_events hbody hdecision
    next => cases hdecision
    next => cases hdecision
  | admission authenticated _ lobby joinedAtMs committedAtMs source proposal hlobby hdecision =>
    obtain ⟨hnumbered, hne⟩ := admissionDecision_events hdecision
    exact ⟨rfl, hnumbered, hpublished hne (not_publishesNothing_lobby rfl)⟩

theorem not_publishesNothing_of_createsTrade {command : RoomCommand}
    (htrade : createsTrade command = true) : ¬ PublishesNothing state command := by
  unfold PublishesNothing
  split
  next active body hbody =>
    rw [createsTrade, hbody] at htrade
    refine not_unpublished_of_free ?_ ?_
    · rintro rfl
      cases htrade
    · unfold amountDue
      split <;> first | rfl | cases htrade
  next => exact id

/-- Two commits of different actors under one request id interact, unless the command of one of them
publishes nothing: they share the id of their first event. -/
theorem requests_independent_iff (codec : RoomCodec) (room room' actor actor' : String)
    (state state' : RoomGameState) (first second : CommandCommit)
    (hfirst : HandlerCommit codec actor state first)
    (hsecond : HandlerCommit codec actor' state' second) (hactors : (room, actor) ≠ (room', actor'))
    (hrequest : first.command.requestId = second.command.requestId) :
    Independent codec.toCodec room room' first second ↔
      PublishesNothing state first.command ∨ PublishesNothing state' second.command := by
  obtain ⟨hactor, hids, hnone⟩ := hfirst.events_eq
  obtain ⟨hactor', hids', hnone'⟩ := hsecond.events_eq
  constructor
  · intro hindependent
    rw [← hnone, ← hnone']
    by_contra hboth
    rw [not_or] at hboth
    -- both number an event zero under the same request id
    have hzero : ∀ {value : CommandCommit}, value.events ≠ [] → value.events.map RoomEvent.eventId =
        (List.range value.events.length).map (eventId value.command.requestId) →
        eventId value.command.requestId 0 ∈ value.events.map RoomEvent.eventId := by
      intro value hne hvalue
      rw [hvalue]
      exact List.mem_map_of_mem (List.mem_range.2 (List.length_pos_iff.2 hne))
    refine hindependent.eventIds _ (hzero hboth.1 hids) ?_
    rw [hrequest]
    exact hzero hboth.2 hids'
  · intro hquiet
    have hsilent := hquiet.imp hnone.2 hnone'.2
    refine ⟨fun id hid hid' => ?_, fun hcreates hcreates' => ?_, ?_⟩
    · rcases hsilent with hnone | hnone
      · simp [hnone] at hid
      · simp [hnone] at hid'
    · rcases hquiet with hquiet | hquiet
      · exact absurd hquiet (not_publishesNothing_of_createsTrade hcreates)
      · exact absurd hquiet (not_publishesNothing_of_createsTrade hcreates')
    · intro db lease lease' now now' renamed hroom hroom' hrenamed
      subst hroom hroom'
      have hkeys : ∀ request, commandKey lease'.roomId second.playerId second.command.requestId ≠
          commandKey lease.roomId first.playerId request := by
        intro request
        rw [hactor, hactor']
        exact commandKey_ne (Ne.symm hactors)
      have hkey : second.key lease'.roomId ≠ first.key lease.roomId := hkeys _
      have hkey' : second.key lease'.roomId ≠ renamed.key lease.roomId := by
        rw [CommandCommit.key, CommandCommit.key, hrenamed.playerId]
        exact hkeys _
      have hevents : first.events = [] ∧ renamed.events = [] ∨ second.events = [] := by
        rcases hsilent with hnone | hnone
        · refine .inl ⟨hnone, List.length_eq_zero_iff.1 ?_⟩
          rw [hrenamed.events, hnone]
          rfl
        · exact .inr hnone
      constructor
      · exact (alike_committed hkey hkey' hrenamed.stateVersion hrenamed.terminalProof hevents).commit
      · exact (alike_committed hkey' hkey hrenamed.stateVersion.symm hrenamed.terminalProof.symm
          (hevents.imp_left And.symm)).commit

end Independence

/-! ### Two players, one request id -/

/-- The lobby Bob's joining leaves. -/
def bobLobby : GameState :=
  { aliceLobby with
    stateVersion := 2
    seats := [some (createSeat "alice" 0 0), some (createSeat "bob" 1 2), none, none] }

/-- What Carol's joining commits, under the request id of Bob's. -/
def carolCommit : CommandCommit where
  acknowledgement := ⟨"r", 3, ["evt_r_0"]⟩
  events := [⟨"evt_r_0", 3, 3, .lifecycle (.playerJoined "carol" 2 3)⟩]
  playerId := "carol"
  command := ⟨"r", 2, .lifecycle .joinGame⟩
  serializedState := "aaa"
  stateVersion := 3
  terminalProof := none
  sessionFinalization := none

/-- What Bob's joining commits under another request id. -/
def bobElsewhere : CommandCommit :=
  { bobCommit with
    acknowledgement := ⟨"q", 2, ["evt_q_0"]⟩
    events := [⟨"evt_q_0", 2, 2, .lifecycle (.playerJoined "bob" 1 2)⟩]
    command := ⟨"q", 1, .lifecycle .joinGame⟩ }

def carolSeated : AuthenticatedRoomPlayer := ⟨"game", "carol", "res_carol", "room", 2, "user_carol"⟩

theorem bobCommit_handler : HandlerCommit strokeCodec "bob" (.lifecycle aliceLobby) bobCommit :=
  .player bobSeated (.lifecycle aliceLobby) ⟨"r", 1, .lifecycle .joinGame⟩ 2
    (some (scriptedSource [] aliceLobby.rng)) ⟨.lifecycle bobLobby, bobCommit.events, none⟩ rfl

theorem carolCommit_handler : HandlerCommit strokeCodec "carol" (.lifecycle bobLobby) carolCommit :=
  .player carolSeated (.lifecycle bobLobby) ⟨"r", 2, .lifecycle .joinGame⟩ 3
    (some (scriptedSource [] aliceLobby.rng))
    ⟨.lifecycle { bobLobby with
      stateVersion := 3
      seats := [some (createSeat "alice" 0 0), some (createSeat "bob" 1 2),
        some (createSeat "carol" 2 3), none] }, carolCommit.events, none⟩ rfl

/-- Bob and Carol join with one request id: Carol's commit fails on Bob's event. Had Bob used
another id, it would have succeeded. -/
theorem not_requests_independent :
    HandlerCommit strokeCodec "bob" (.lifecycle aliceLobby) bobCommit ∧
    HandlerCommit strokeCodec "carol" (.lifecycle bobLobby) carolCommit ∧
    bobCommit.command.requestId = carolCommit.command.requestId ∧ Renamed bobCommit bobElsewhere ∧
    commit strokeCodec.toCodec sampleLease carolCommit 3
        (committed strokeCodec.toCodec sampleLease bobCommit 2 aliceRoom.store)
      = .error (constraintError "room_events_pkey") ∧
    ∃ result, commit strokeCodec.toCodec sampleLease carolCommit 3
      (committed strokeCodec.toCodec sampleLease bobElsewhere 2 aliceRoom.store) = .ok result :=
  ⟨bobCommit_handler, carolCommit_handler, rfl, ⟨rfl, rfl, rfl, rfl, rfl, rfl, rfl⟩, rfl, _, rfl⟩

/-- Alice has bought a space and may end her turn, in another room than Bob's. -/
def aliceBought : Option GameplayAggregateState :=
  twoPlayerGame [rolls 1 2 1 10, plays "alice" (.property (.buyProperty 3)) 2 20]

/-- What the end of Alice's turn commits, under the request id of Bob's joining. -/
theorem exists_aliceEnds : ∃ state value, aliceBought = some (.inProgress state) ∧
    HandlerCommit strokeCodec "alice" (.gameplay (.inProgress state)) value ∧
    value.command = ⟨"r", 3, .gameplay (.turn .endTurn)⟩ := by
  let context : GameplayCommandContext :=
    ⟨.player "alice", 30, scriptedSource [] twoPlayerLobby.rng, none⟩
  obtain ⟨state, state', events, hstate, hok, -⟩ := exists_of_acceptedWith aliceBought
    (⟨3, .turn .endTurn⟩, context) (fun _ _ _ => true) (by decide +kernel)
  obtain rfl : events = [] := (events_eq_nil_iff hok).2 (.inl rfl)
  obtain ⟨active, rfl⟩ : ∃ active, state' = .inProgress active := by
    obtain ⟨-, hstep⟩ := transitionGameplay_step hok
    cases hstep with
    | turn command current active events hc hstep => exact ⟨active, rfl⟩
  refine ⟨state, _, hstate, .player ⟨"other", "alice", "res_alice", "other room", 0, "user_alice"⟩ _
    ⟨"r", 3, .gameplay (.turn .endTurn)⟩ 30 (some context.randomSource)
    ⟨.gameplay (.inProgress active), [], none⟩ ?_, rfl⟩
  show gameplayDecision (.inProgress state) _ _ context = _
  simp only [gameplayDecision, hok]
  rfl

/-- Under one request id Bob's and Carol's joinings interact; the end of Alice's turn in another room
and Bob's joining do not. -/
theorem requests_independent_iff_joins :
    ¬ Independent strokeCodec.toCodec "room" "room" bobCommit carolCommit ∧
    ∃ state value, aliceBought = some (.inProgress state) ∧
      HandlerCommit strokeCodec "alice" (.gameplay (.inProgress state)) value ∧
      value.command = ⟨"r", 3, .gameplay (.turn .endTurn)⟩ ∧
      Independent strokeCodec.toCodec "other room" "room" value bobCommit := by
  constructor
  · rw [requests_independent_iff strokeCodec "room" "room" "bob" "carol" _ _ bobCommit carolCommit
      bobCommit_handler carolCommit_handler (by decide) rfl]
    rintro (hnothing | hnothing) <;> cases hnothing
  · obtain ⟨state, value, hstate, hcommit, hcommand⟩ := exists_aliceEnds
    refine ⟨state, value, hstate, hcommit, hcommand, ?_⟩
    rw [requests_independent_iff strokeCodec "other room" "room" "alice" "bob" _ _ value bobCommit
      hcommit bobCommit_handler (by decide) (by rw [hcommand]; rfl), hcommand]
    exact .inl (.inl rfl)

end Pootown.Server
