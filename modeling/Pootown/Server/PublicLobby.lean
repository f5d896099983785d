import Mathlib.Tactic
import Pootown.Contracts.GameState
import Pootown.Invariants.Handover
import Pootown.Server.PublicEvents

/-!
# The published lobby

Before the game the room shows its lobby: the state is read back from its own snapshot first, and
then held to the schema of the contract, as are the events of every command.

* `publicLifecycleState`: what is published of a lobby, or why nothing is;
* `publicLobby`: what the clients see;
* `publicLifecycleEvents`: the envelopes of the events of a command;
* `lobby_published`: every lobby a game goes through is published as it is seen, and every event of
  every accepted command.
-/

namespace Pootown.Server

open Contracts Fallible Slots Snapshot

/-! ### Publication -/

def publicSeat (seat : PlayerSeat) : PlayerPublicState where
  seatIndex := seat.seatIndex
  playerId := seat.playerId
  status := seat.status
  cash := toString seat.cash
  position := seat.position
  inJail := seat.inJail

def lifecycleName : GameLifecycle → LifecycleName
  | .waitingForPlayers => .waitingForPlayers
  | .inProgress _ _ _ => .inProgress
  | .cancelled _ => .cancelled
  | .finished _ _ => .finished

def lobbyTurn : GameLifecycle → TurnState
  | .waitingForPlayers => .notStarted
  | .inProgress _ _ turn => .awaitingRoll turn.currentSeatIndex turn.startedAtMs turn.deadlineAtMs
  | .cancelled _ => .finished
  | .finished _ _ => .finished

def lobbyEndAtMs : GameLifecycle → Option ℤ
  | .inProgress _ gameEndAtMs _ => gameEndAtMs
  | .finished _ gameEndAtMs => some gameEndAtMs
  | _ => none

/-- What the clients of a lobby see. -/
def publicLobby (state : GameState) : PublicGameState where
  stateVersion := state.stateVersion
  gameId := state.gameId
  creatorId := state.creatorId
  lifecycle := lifecycleName state.lifecycle
  minimumPlayers := state.minimumPlayers
  maximumPlayers := state.maximumPlayers
  seats := mapSlots (fun _ => publicSeat) state.seats
  currentPlayers := (occupants state.seats).length
  activePlayers := ((occupants state.seats).filter fun seat => seat.status = .active).length
  bankCash := toString state.bankCash
  housesRemaining := state.housesRemaining
  hotelsRemaining := state.hotelsRemaining
  createdAtMs := state.createdAtMs
  startedAtMs := state.lifecycle.startedAtMs
  cancelledAtMs := state.lifecycle.cancelledAtMs
  gameEndAtMs := lobbyEndAtMs state.lifecycle
  turn := lobbyTurn state.lifecycle

def publicLifecycleState (localeCompare : String → String → ℤ) (state : GameState) :
    Except PublicationError PublicGameState := do
  let serialized ← (serializeSnapshot localeCompare state).mapError .error
  let canonical ← (parseSnapshot localeCompare serialized).mapError .error
  require (publicLobby canonical).Conforms .schema
  return publicLobby canonical

/-- The envelope of the event number `index`. -/
def lifecycleEnvelope (requestId : String) (stateVersion occurredAtMs : ℤ) (index : ℕ)
    (payload : DomainEvent) : DomainEventEnvelope where
  eventId := eventId requestId index
  stateVersion := stateVersion
  occurredAtMs := occurredAtMs
  payload := payload

def publicLifecycleEvents (events : List DomainEvent) (requestId : String)
    (stateVersion occurredAtMs : ℤ) : Except PublicationError (List DomainEventEnvelope) :=
  events.zipIdx.mapM fun entry => do
    let message := lifecycleEnvelope requestId stateVersion occurredAtMs entry.2 entry.1
    require message.Conforms .schema
    return message

/-! ### Sound lobbies -/

theorem isEpochMs_of_recordable {time : ℤ} (h : Snapshot.Recordable time) : IsEpochMs time :=
  ⟨h.2, h.1.2⟩

section Lobby

variable {state : GameState} (h : SoundLobby state)
include h

theorem publicSeat_conforms {seat : PlayerSeat} (hseat : seat ∈ occupants state.seats) :
    (publicSeat seat).Conforms := by
  obtain ⟨i, hi⟩ := mem_occupants.1 hseat
  have hfits := h.seatFits hi
  have hindex : seat.seatIndex ≤ 3 := by
    rw [hfits.seatIndex.1]
    exact hfits.seatIndex.2
  exact ⟨hindex, hfits.playerId, isCashString_toString hfits.cash, hfits.position⟩

theorem occupants_le : (occupants state.seats).length ≤ 4 :=
  h.length_seats ▸ List.length_filterMap_le ..

/-- The times of the lifecycle are readable and in order. -/
theorem lifecycle_times :
    (∀ time ∈ state.lifecycle.startedAtMs, IsEpochMs time ∧ state.createdAtMs ≤ time) ∧
    (∀ time ∈ state.lifecycle.cancelledAtMs, IsEpochMs time ∧ state.createdAtMs ≤ time) ∧
    (∀ time ∈ lobbyEndAtMs state.lifecycle, IsEpochMs time ∧
      ∀ started ∈ state.lifecycle.startedAtMs, started ≤ time) := by
  have hsound := h.lifecycle
  unfold SoundLifecycle at hsound
  cases hlife : state.lifecycle with
  | waitingForPlayers => simp [GameLifecycle.startedAtMs, GameLifecycle.cancelledAtMs, lobbyEndAtMs]
  | inProgress startedAtMs gameEndAtMs turn =>
    rw [hlife] at hsound
    obtain ⟨hstarted, hcreated, -, -, hend, hsafe, -, -⟩ := hsound
    refine ⟨?_, by simp [GameLifecycle.cancelledAtMs], ?_⟩
    · rintro time ⟨⟩
      exact ⟨isEpochMs_of_recordable hstarted, hcreated⟩
    · intro time htime
      have hsome : gameEndAtMs = some time := htime
      have hlater : startedAtMs ≤ time := by
        rw [hend] at hsome
        obtain ⟨limit, hlimit, rfl⟩ := Option.map_eq_some_iff.1 hsome
        have hpos := (h.limit limit hlimit).1
        omega
      have hnonneg := hstarted.2
      refine ⟨⟨by omega, (hsafe time hsome).2⟩, ?_⟩
      rintro started ⟨⟩
      exact hlater
  | cancelled cancelledAtMs =>
    rw [hlife] at hsound
    refine ⟨by simp [GameLifecycle.startedAtMs], ?_, by simp [lobbyEndAtMs]⟩
    rintro time ⟨⟩
    exact ⟨isEpochMs_of_recordable hsound.1, hsound.2⟩
  | finished startedAtMs gameEndAtMs =>
    rw [hlife] at hsound
    exact hsound.elim

theorem lobbyTurn_conforms : (lobbyTurn state.lifecycle).Conforms := by
  have hsound := h.lifecycle
  unfold SoundLifecycle at hsound
  cases hlife : state.lifecycle with
  | inProgress startedAtMs gameEndAtMs turn =>
    rw [hlife] at hsound
    obtain ⟨hstarted, -, -, -, -, -, rfl, hdeadline⟩ := hsound
    have hnonneg := hstarted.2
    refine ⟨Nat.zero_le 3, isEpochMs_of_recordable hstarted, ?_, hdeadline.2⟩
    show 0 ≤ startedAtMs + 90000
    omega
  | _ => trivial

theorem publicLobby_turnMatches : (publicLobby state).TurnMatches := by
  have hsound := h.lifecycle
  unfold SoundLifecycle at hsound
  unfold PublicGameState.TurnMatches
  cases hlife : state.lifecycle with
  | inProgress startedAtMs gameEndAtMs turn =>
    rw [hlife] at hsound
    obtain ⟨-, -, -, henough, -, -, rfl, -⟩ := hsound
    obtain ⟨creator, hcreator, -⟩ := Option.map_eq_some_iff.1 h.creator
    have hactive := h.active (mem_occupants.2 ⟨0, hcreator⟩)
    simp only [publicLobby, hlife, lobbyTurn, lifecycleName, GameLifecycle.startedAtMs,
      occupants_mapSlots, List.length_map, slotAt_mapSlots, hcreator, h.minimum]
    exact ⟨⟨by omega, _, rfl, le_rfl⟩, fun _ => ⟨henough, _, rfl, hactive⟩⟩
  | _ => simp [publicLobby, hlife, lobbyTurn]

theorem publicLobby_conforms : (publicLobby state).Conforms := by
  obtain ⟨hstarted, hcancelled, hend⟩ := lifecycle_times h
  have hlength := occupants_le h
  have hmin := h.version.1
  have hmax := h.version.2
  simp only [maxStateVersion] at hmax
  constructor
  · exact {
      stateVersion := ⟨by show 0 ≤ state.stateVersion; omega, hmax⟩
      gameId := h.gameId
      creatorId := h.creatorId
      minimumPlayers := h.minimum
      maximumPlayers := h.maximum
      length_seats := by simpa [publicLobby] using h.length_seats
      seats := by
        simp only [publicLobby, occupants_mapSlots]
        exact List.forall_mem_map.2 fun seat hseat => publicSeat_conforms h hseat
      currentPlayers := hlength
      activePlayers := (List.length_filter_le ..).trans hlength
      bankCash := isCashString_toString h.fits.bank
      housesRemaining := h.houses.le
      hotelsRemaining := h.hotels.le
      createdAtMs := isEpochMs_of_recordable h.created
      startedAtMs := fun time htime => (hstarted time htime).1
      cancelledAtMs := fun time htime => (hcancelled time htime).1
      gameEndAtMs := fun time htime => (hend time htime).1
      turn := lobbyTurn_conforms h }
  · exact {
      currentPlayers := by simp [publicLobby, occupants_mapSlots]
      activePlayers := by
        simp [publicLobby, PublicGameState.activeSeats, occupants_mapSlots, publicSeat,
          List.filter_map, Function.comp_def]
      playerIds := by
        simp only [publicLobby, occupants_mapSlots, List.map_map]
        exact h.ids
      creator := by
        simp only [publicLobby, slotAt_mapSlots, Option.map_map]
        exact h.creator
      seatIndices := by
        refine everySlot_eq_true.2 fun i seat hseat => ?_
        simp only [publicLobby, slotAt_mapSlots, Option.map_eq_some_iff] at hseat
        obtain ⟨player, hplayer, rfl⟩ := hseat
        exact decide_eq_true (h.seatFits hplayer).seatIndex.1
      capacity := by
        refine everySlot_eq_true.2 fun i seat hseat => ?_
        simp only [publicLobby, slotAt_mapSlots, Option.map_eq_some_iff] at hseat
        obtain ⟨player, hplayer, -⟩ := hseat
        exact decide_eq_true (h.seat i player hplayer).capacity
      lifecycle := by
        have hsound := h.lifecycle
        unfold SoundLifecycle at hsound
        cases hlife : state.lifecycle with
        | finished _ _ =>
          rw [hlife] at hsound
          exact hsound.elim
        | _ => simp [PublicGameState.lifecycleIsConsistent, publicLobby, hlife, lifecycleName,
            lobbyTurn, lobbyEndAtMs, GameLifecycle.startedAtMs, GameLifecycle.cancelledAtMs]
      turnMatches := publicLobby_turnMatches h
      started := fun time htime => (hstarted time htime).2
      cancelled := fun time htime => (hcancelled time htime).2
      gameEnd := fun gameEnd hgameEnd => (hend gameEnd hgameEnd).2 }

/-- A sound lobby is published as its clients see it. -/
theorem publicLifecycleState_eq {localeCompare : String → String → ℤ} :
    publicLifecycleState localeCompare state = .ok (publicLobby state) := by
  obtain ⟨text, htext, hparse⟩ : ∃ text, serializeSnapshot localeCompare state = .ok text ∧
      parseSnapshot localeCompare text = .ok state :=
    parseSnapshot_serializeSnapshot h.fits h.coherent
  simp only [publicLifecycleState, bind_eq_ok, require_eq_ok, pure_eq_ok]
  exact ⟨text, by rw [htext]; rfl, state, by rw [hparse]; rfl, (), publicLobby_conforms h, rfl⟩

end Lobby

/-! ### Every command -/

/-- What an accepted command leads to: a sound lobby, and one event of a readable time. -/
structure Announced (next : GameState) (events : List DomainEvent) (nowMs : ℤ) : Prop where
  sound : SoundLobby next
  conforms : ∀ event ∈ events, LifecycleEventConforms event
  single : events.length = 1
  now : IsEpochMs nowMs

theorem SoundLobby.one_le_length {state : GameState} (h : SoundLobby state) :
    1 ≤ (occupants state.seats).length := by
  obtain ⟨creator, hcreator, -⟩ := Option.map_eq_some_iff.1 h.creator
  exact List.length_pos_of_mem (mem_occupants.2 ⟨0, hcreator⟩)

theorem announced_created {command : GameCommand} {context : TransitionContext} {next : GameState}
    {events : List DomainEvent} (hactor : validOpaqueId context.actorId = true)
    (hgame : ∀ gameId maximumPlayers timeLimitMs,
      command.body = .createGame gameId maximumPlayers timeLimitMs → validOpaqueId gameId = true)
    (h : transition none command context = .ok (next, events)) :
    Announced next events context.nowMs := by
  obtain ⟨expectedStateVersion, body⟩ := command
  cases body with
  | createGame gameId maximumPlayers timeLimitMs =>
    have hsound := soundLobby_created (hgame _ _ _ rfl) hactor h
    simp only [transition, createGame, bind_eq_ok, require_eq_ok, requireSome_eq_ok, pure_eq_ok,
      exists_const, Prod.mk.injEq] at h
    obtain ⟨⟨hsafe, hnonneg⟩, -, -, -, rng, -, -, rfl⟩ := h
    refine ⟨hsound, ?_, rfl, hnonneg, hsafe.2⟩
    rw [List.forall_mem_singleton]
    exact hactor
  | _ => simp [transition, bind_eq_ok] at h

theorem announced_step {state next : GameState} {command : GameCommand}
    {context : TransitionContext} {events : List DomainEvent} (h : SoundLobby state)
    (hactor : validOpaqueId context.actorId = true)
    (hstep : transition (some state) command context = .ok (next, events)) :
    Announced next events context.nowMs := by
  have hnext := soundLobby_step h hactor hstep
  obtain ⟨hadmitted, rng, -, houtcome⟩ := transition_step hstep
  have hone := SoundLobby.one_le_length h
  have hone' := SoundLobby.one_le_length hnext
  have hlength := occupants_le h
  have hlength' := occupants_le hnext
  have hnow : IsEpochMs context.nowMs := ⟨hadmitted.nonneg, hadmitted.safe.2⟩
  suffices hevents : (∀ event ∈ events, LifecycleEventConforms event) ∧ events.length = 1 from
    ⟨hnext, hevents.1, hevents.2, hnow⟩
  generalize command.body = body at houtcome
  cases houtcome with
  | join seatIndex hnew hfree =>
    have hseat := (mem_freeSeats.1 (List.mem_of_head? (firstFreeSeat_eq_head .. ▸ hfree))).1
    rw [h.length_seats] at hseat
    rw [List.forall_mem_singleton]
    exact ⟨⟨hactor, Nat.le_of_lt_succ hseat, hone', hlength'⟩, rfl⟩
  | leave seatIndex hcreator hseat =>
    have hlt : seatIndex < state.seats.length := List.mem_range.1 (List.mem_of_find?_eq_some hseat)
    have hless := length_occupants_set_none hlt
    rw [h.length_seats] at hlt hless
    rw [List.forall_mem_singleton]
    exact ⟨⟨hactor, Nat.le_of_lt_succ hlt, hone', Nat.le_of_lt_succ hless⟩, rfl⟩
  | cancel hcreator =>
    rw [List.forall_mem_singleton]
    exact ⟨⟨hone, hlength⟩, rfl⟩
  | start gameEndAtMs hcreator henough hend =>
    rw [List.forall_mem_singleton]
    exact ⟨⟨h.minimum ▸ henough, hlength⟩, rfl⟩

/-- The events of a command are published as they stand. -/
theorem Announced.events {next : GameState} {events : List DomainEvent} {nowMs : ℤ}
    {requestId : String} (h : Announced next events nowMs) (hrequest : isUuid requestId = true) :
    publicLifecycleEvents events requestId next.stateVersion nowMs =
      .ok (events.zipIdx.map fun entry =>
        lifecycleEnvelope requestId next.stateVersion nowMs entry.2 entry.1) := by
  refine mapM_eq_ok fun entry hentry => ?_
  have hget := List.mem_zipIdx_iff_getElem?.1 hentry
  obtain ⟨hindex, -⟩ := List.getElem?_eq_some_iff.1 hget
  rw [h.single] at hindex
  obtain ⟨hfirst, hlast⟩ := h.sound.version
  simp only [maxStateVersion] at hlast
  have hmessage : (lifecycleEnvelope requestId next.stateVersion nowMs entry.2 entry.1).Conforms :=
    ⟨isOpaqueId_eventId hrequest (by omega), ⟨by show 0 ≤ next.stateVersion; omega, hlast⟩, h.now,
      h.conforms entry.1 (List.mem_of_getElem? hget)⟩
  simp only [bind_eq_ok, require_eq_ok, pure_eq_ok]
  exact ⟨(), hmessage, trivial⟩

/-- Every lobby a game goes through is published as its clients see it, and so are, under a UUID,
the events of every accepted command on it, creations included. -/
theorem lobby_published {localeCompare : String → String → ℤ} {before : Option GameState}
    {next : GameState} {command : GameCommand} {context : TransitionContext}
    {events : List DomainEvent} {requestId : String}
    (hbefore : ∀ state ∈ before, ReachedLobby localeCompare state)
    (hactor : validOpaqueId context.actorId = true)
    (hgame : ∀ gameId maximumPlayers timeLimitMs,
      command.body = .createGame gameId maximumPlayers timeLimitMs → validOpaqueId gameId = true)
    (h : transition before command context = .ok (next, events))
    (hrequest : isUuid requestId = true) :
    (∀ state ∈ before, publicLifecycleState localeCompare state = .ok (publicLobby state)) ∧
    publicLifecycleState localeCompare next = .ok (publicLobby next) ∧
    publicLifecycleEvents events requestId next.stateVersion context.nowMs =
      .ok (events.zipIdx.map fun entry =>
        lifecycleEnvelope requestId next.stateVersion context.nowMs entry.2 entry.1) := by
  have hsound : ∀ state ∈ before, SoundLobby state := fun state hstate =>
    soundLobby_of_reached (hbefore state hstate)
  have hannounced : Announced next events context.nowMs := by
    cases before with
    | none => exact announced_created hactor hgame h
    | some state => exact announced_step (hsound state rfl) hactor h
  exact ⟨fun state hstate => publicLifecycleState_eq (hsound state hstate),
    publicLifecycleState_eq hannounced.sound, hannounced.events hrequest⟩

/-- A guest joins the duel that the host has created. -/
theorem lobby_published_duel :
    ReachedLobby compareLetters (duelLobby 1 none .waitingForPlayers) ∧ ∃ next events,
    transition (some (duelLobby 1 none .waitingForPlayers)) ⟨1, .joinGame⟩
      (duelContext "guest" 200) = .ok (next, events) ∧
    publicLifecycleState compareLetters (duelLobby 1 none .waitingForPlayers) =
      .ok (publicLobby (duelLobby 1 none .waitingForPlayers)) ∧
    publicLifecycleState compareLetters next = .ok (publicLobby next) ∧
    publicLifecycleEvents events "00000000-0000-4000-8000-000000000000" 2 200 =
      .ok [⟨"evt_00000000000040008000000000000000_0", 2, 200, .playerJoined "guest" 1 2⟩] := by
  have huuid : isUuid "00000000-0000-4000-8000-000000000000" = true := by decide +kernel
  have hbefore : ∀ state ∈ some (duelLobby 1 none .waitingForPlayers),
      ReachedLobby compareLetters state := by
    rintro _ ⟨⟩
    exact duelLobby_created
  obtain ⟨hlobby, hnext, hevents⟩ :=
    lobby_published hbefore (by decide) (by rintro _ _ _ ⟨⟩) duelLobby_join huuid
  refine ⟨duelLobby_created, _, _, duelLobby_join, hlobby _ rfl, hnext, hevents.trans ?_⟩
  exact congrArg Except.ok (by decide +kernel)

end Pootown.Server
