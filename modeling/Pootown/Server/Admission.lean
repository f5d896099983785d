import Mathlib.Tactic
import Pootown.Server.RoomSnapshots

/-!
# Admission

A player whom the API has seated is admitted to the waiting room, where the core seats them again:
on the first free seat, and no earlier than the others.

* `SeatedPlayer`, `Seated`: whom the API seats, by joinings and releases;
* `Admitted`: an attempt to be admitted that succeeds; `Presented`: players are admitted one after
  the other, in any order;
* `Fits`: the core seats a player where the API did; `admitted_iff`;
* `Ready`: a waiting room, its lobby sound, and players who are new to it; `WritesLobbies`: a codec
  whose snapshots of sound lobbies the store accepts;
* `EventuallyAdmits`, `InOrder`: no order of attempts gets stuck, and exactly when;
* `eventuallyAdmits_iff`, `not_eventuallyAdmits`, over the codec of the rooms.
-/

namespace Pootown.Server

open Fallible Runs Slots

/-! ### Seats of the API -/

/-- A player the API has seated: who, where, and since when. -/
structure SeatedPlayer where
  authenticated : AuthenticatedRoomPlayer
  joinedAtMs : ℤ
  safe : IsSafeInteger joinedAtMs ∧ 0 ≤ joinedAtMs

/-- The first seat of a session that nobody has. -/
def nextSeatIndex (maximumPlayers : ℕ) (seated : List SeatedPlayer) : Option ℕ :=
  (List.range maximumPlayers).find? fun index =>
    decide (∀ player ∈ seated, player.authenticated.seatIndex ≠ index)

/-- Whom the API may have seated in a session, with the time of the latest joining. -/
inductive Seated (maximumPlayers : ℕ) : ℤ → List SeatedPlayer → Prop
  | created (creator : SeatedPlayer) : creator.authenticated.seatIndex = 0 →
      Seated maximumPlayers creator.joinedAtMs [creator]
  | joined {latest : ℤ} {seated : List SeatedPlayer} (player : SeatedPlayer) :
      Seated maximumPlayers latest seated →
      nextSeatIndex maximumPlayers seated = some player.authenticated.seatIndex →
      (∀ other ∈ seated, other.authenticated.playerId ≠ player.authenticated.playerId) →
      latest ≤ player.joinedAtMs →
      Seated maximumPlayers player.joinedAtMs (seated ++ [player])
  | released {latest : ℤ} {before after : List SeatedPlayer} (player : SeatedPlayer) :
      Seated maximumPlayers latest (before ++ player :: after) →
      player.authenticated.seatIndex ≠ 0 → Seated maximumPlayers latest (before ++ after)

/-! ### Attempts -/

/-- The store answers, the room holds its lease, and a generator resumes its checkpoint. -/
structure Sound (s : HandlerState Realtime) (outside : CallSurroundings) : Prop where
  replay : outside.replayFault = .none
  commit : outside.commitFault = .none
  owned : Owned s.store s.handler.lease outside.storeMs
  source : ∃ source, outside.randomSource s.handler.state.rng = some source ∧
    canResumeGameplayCheckpoint source source.cursor s.handler.state.rng = true ∧
    readRandomCheckpoint source source.cursor = some s.handler.state.rng

/-- An attempt of a player to be admitted succeeds. -/
def Admitted (codec : RoomCodec) (s : HandlerState Realtime) (player : SeatedPlayer)
    (s' : HandlerState Realtime) : Prop :=
  ∃ outside events, Sound s outside ∧ ensureAdmittedPlayerSerial codec (outside.call codec)
    player.authenticated player.joinedAtMs s = .ok events s'

/-- Some of the players are admitted, one after the other; the others are left. -/
inductive Presented (codec : RoomCodec) : HandlerState Realtime → List SeatedPlayer →
    HandlerState Realtime → List SeatedPlayer → Prop
  | nil (s : HandlerState Realtime) (players : List SeatedPlayer) :
      Presented codec s players s players
  | cons {s m s' : HandlerState Realtime} {players rest left : List SeatedPlayer}
      (player : SeatedPlayer) : players.Perm (player :: rest) → Admitted codec s player m →
      Presented codec m rest s' left → Presented codec s players s' left

/-- No attempt of the players can succeed. -/
def Stuck (codec : RoomCodec) (s : HandlerState Realtime) (players : List SeatedPlayer) : Prop :=
  ∀ player ∈ players, ∀ s', ¬ Admitted codec s player s'

/-- In whatever order the players try, each until they succeed or no attempt can, they end up on
their seats. -/
def EventuallyAdmits (codec : RoomCodec) (s : HandlerState Realtime)
    (players : List SeatedPlayer) : Prop :=
  ∀ s' left, Presented codec s players s' left → Stuck codec s' left → ∀ player ∈ players,
    slotAt s'.handler.state.players player.authenticated.seatIndex
      = some player.authenticated.playerId

/-! ### The decision of the core -/

/-- The core seats a player where the API did. -/
structure Fits (lobby : GameState) (player : SeatedPlayer) : Prop where
  seat : firstFreeSeat lobby.maximumPlayers lobby.seats = some player.authenticated.seatIndex
  observed : latestObservedAtMs lobby ≤ player.joinedAtMs
  version : lobby.stateVersion < maxStateVersion

/-- The lobby once a player has been admitted. -/
def admittedLobby (lobby : GameState) (player : SeatedPlayer) : GameState :=
  { lobby with
    seats := lobby.seats.set player.authenticated.seatIndex (some (createSeat
      player.authenticated.playerId player.authenticated.seatIndex player.joinedAtMs))
    stateVersion := lobby.stateVersion + 1 }

section Decision

variable {codec : RoomCodec} {lobby : GameState} {player : SeatedPlayer}

/-- The proposal of an admission. -/
def admissionProposal (codec : RoomCodec) (lobby : GameState) (player : SeatedPlayer)
    (committedAtMs : ℤ) : Proposal where
  nextState := .lifecycle (admittedLobby lobby player)
  events := lifecycleEvents [.playerJoined player.authenticated.playerId
      player.authenticated.seatIndex (occupants (admittedLobby lobby player).seats).length]
    (admissionRequestId codec player.authenticated) (lobby.stateVersion + 1) committedAtMs
  proof := none

theorem Fits.seatIndex_mem (h : Fits lobby player) :
    player.authenticated.seatIndex ∈ freeSeats lobby.maximumPlayers lobby.seats :=
  List.mem_of_head? (firstFreeSeat_eq_head .. ▸ h.seat)

theorem Fits.seatIndex_lt (h : Fits lobby player) :
    player.authenticated.seatIndex < lobby.seats.length :=
  (mem_freeSeats.1 h.seatIndex_mem).1

theorem Fits.slot (h : Fits lobby player) :
    slotAt lobby.seats player.authenticated.seatIndex = none :=
  (mem_freeSeats.1 h.seatIndex_mem).2.2

theorem map_slotAt_set_eq_some {seats : List (Option PlayerSeat)} {seatIndex index : ℕ}
    {seat : PlayerSeat} (hlt : seatIndex < seats.length)
    (hnew : ∀ other ∈ occupants seats, other.playerId ≠ seat.playerId) :
    (slotAt (seats.set seatIndex (some seat)) index).map PlayerSeat.playerId = some seat.playerId ↔
      seatIndex = index := by
  by_cases heq : seatIndex = index
  · subst heq
    simp [slotAt, hlt]
  · have hsame : slotAt (seats.set seatIndex (some seat)) index = slotAt seats index := by
      simp [slotAt, List.getElem?_set_ne heq]
    rw [hsame, Option.map_eq_some_iff]
    refine iff_of_false ?_ heq
    rintro ⟨other, hother, hplayer⟩
    exact hnew other (mem_occupants.2 ⟨index, hother⟩) hplayer

theorem admissionDecision_eq_ok {committedAtMs : ℤ} {source : RandomSource} {proposal : Proposal}
    (hwaiting : lobby.lifecycle = .waitingForPlayers)
    (hnew : ∀ seat ∈ occupants lobby.seats, seat.playerId ≠ player.authenticated.playerId)
    (hresume : canResumeGameplayCheckpoint source source.cursor lobby.rng = true)
    (hrng : readRandomCheckpoint source source.cursor = some lobby.rng) :
    admissionDecision player.authenticated lobby
        (admissionCommand codec player.authenticated (.lifecycle lobby)) player.joinedAtMs
        committedAtMs source = .ok proposal ↔
      Fits lobby player ∧ proposal = admissionProposal codec lobby player committedAtMs := by
  unfold admissionDecision
  split
  next rejection hrejected =>
    refine iff_of_false (by simp) fun ⟨hfits, _⟩ => ?_
    cases hrejected.symm.trans (joinGame_accepted_iff.2 ⟨⟨player.safe.1, player.safe.2, rfl,
      hfits.observed, hfits.version, hresume, hwaiting⟩, hnew, _, _, hfits.seat, hrng, rfl⟩)
  next result events haccepted =>
    obtain ⟨hadmitted, -, seatIndex, rng, hfree, hrng', heq⟩ := joinGame_accepted_iff.1 haccepted
    obtain rfl := Option.some.inj (hrng.symm.trans hrng')
    obtain ⟨rfl, rfl⟩ := Prod.mk.inj heq
    have hlt : seatIndex < lobby.seats.length :=
      (mem_freeSeats.1 (List.mem_of_head? (firstFreeSeat_eq_head .. ▸ hfree))).1
    have hseat := @map_slotAt_set_eq_some lobby.seats seatIndex player.authenticated.seatIndex
      (createSeat player.authenticated.playerId seatIndex player.joinedAtMs) hlt hnew
    simp only [bind_eq_ok, require_eq_ok, exists_const, pure_eq_ok]
    constructor
    · rintro ⟨-, hslot, rfl⟩
      obtain rfl := hseat.1 hslot
      exact ⟨⟨hfree, hadmitted.observed_le, hadmitted.version_lt⟩, rfl⟩
    · rintro ⟨hfits, rfl⟩
      obtain rfl := Option.some.inj (hfree.symm.trans hfits.seat)
      refine ⟨?_, hseat.2 rfl, rfl⟩
      rw [joinedLobby, hwaiting]
      rfl

/-- A sound lobby is sound once another player has been admitted. -/
theorem Fits.soundLobby {source : RandomSource} (hfits : Fits lobby player) (h : SoundLobby lobby)
    (hwaiting : lobby.lifecycle = .waitingForPlayers)
    (hid : validOpaqueId player.authenticated.playerId = true)
    (hnew : ∀ seat ∈ occupants lobby.seats, seat.playerId ≠ player.authenticated.playerId)
    (hresume : canResumeGameplayCheckpoint source source.cursor lobby.rng = true)
    (hrng : readRandomCheckpoint source source.cursor = some lobby.rng) :
    SoundLobby (admittedLobby lobby player) := by
  have hjoins : transition (some lobby) ⟨lobby.stateVersion, .joinGame⟩
      ⟨player.authenticated.playerId, player.joinedAtMs, source⟩
      = .ok (joinedLobby lobby ⟨player.authenticated.playerId, player.joinedAtMs, source⟩
          player.authenticated.seatIndex lobby.rng, _) :=
    joinGame_accepted_iff.2 ⟨⟨player.safe.1, player.safe.2, rfl, hfits.observed, hfits.version,
      hresume, hwaiting⟩, hnew, _, _, hfits.seat, hrng, rfl⟩
  exact soundLobby_step h hid hjoins

end Decision

/-! ### The decision of the store -/

def admissionEventId (codec : RoomCodec) (player : SeatedPlayer) : String :=
  eventId (admissionRequestId codec player.authenticated) 0

/-- The store and the lobby do not know a player yet. -/
structure NewTo (codec : RoomCodec) (s : HandlerState Realtime) (lobby : GameState)
    (player : SeatedPlayer) : Prop where
  opaqueId : validOpaqueId player.authenticated.playerId = true
  seat : ∀ seat ∈ occupants lobby.seats, seat.playerId ≠ player.authenticated.playerId
  command : s.store.commands (commandKey s.handler.lease.roomId player.authenticated.playerId
    (admissionRequestId codec player.authenticated)) = none
  event : s.store.events (admissionEventId codec player) = none

/-- The store accepts what the codec writes of a sound lobby. -/
def WritesLobbies (codec : RoomCodec) : Prop :=
  ∀ lobby, SoundLobby lobby →
    ValidSnapshot codec.toCodec (codec.serialize (.lifecycle lobby)) lobby.stateVersion

theorem roomCodec_writesLobbies (localeCompare : String → String → ℤ)
    (digest : String → List UInt8) : WritesLobbies (roomCodec localeCompare digest) :=
  fun _ hsound => (validSnapshot_lobby hsound.fits hsound.coherent).2

/-- A waiting room that holds its checkpoint, and players who are new to it. -/
structure Ready (codec : RoomCodec) (s : HandlerState Realtime) (lobby : GameState)
    (players : List SeatedPlayer) : Prop where
  state : s.handler.state = .lifecycle lobby
  soundLobby : SoundLobby lobby
  waiting : lobby.lifecycle = .waitingForPlayers
  sound : ∃ outside, Sound s outside
  checkpoint : ∃ row, leasedCheckpoint s.store s.handler.lease = some row ∧
    row.stateVersion = lobby.stateVersion
  new : ∀ player ∈ players, NewTo codec s lobby player
  distinct : (players.map fun player => player.authenticated.playerId).Nodup
  eventIds : (players.map (admissionEventId codec)).Nodup

/-- When an admission is committed. -/
def admissionTimeMs (s : HandlerState Realtime) (player : SeatedPlayer) : ℤ :=
  max (max player.joinedAtMs s.handler.committedAtMs) (committedTimestampFloor s.handler.state)

/-- What an admission commits. -/
def admissionCommit (codec : RoomCodec) (s : HandlerState Realtime) (lobby : GameState)
    (player : SeatedPlayer) : CommandCommit :=
  (admissionProposal codec lobby player (admissionTimeMs s player)).toCommit codec
    player.authenticated.playerId
    (admissionCommand codec player.authenticated (.lifecycle lobby)) none

/-- The room once a player has been admitted. -/
def admittedState (codec : RoomCodec) (s : HandlerState Realtime) (lobby : GameState)
    (player : SeatedPlayer) (storeMs : ℤ) : HandlerState Realtime where
  handler := { s.handler with
    state := .lifecycle (admittedLobby lobby player)
    committedAtMs := admissionTimeMs s player }
  store := committed codec.toCodec s.handler.lease (admissionCommit codec s lobby player) storeMs
    s.store

section Store

variable {codec : RoomCodec} {s m : HandlerState Realtime} {lobby : GameState}
  {player : SeatedPlayer} {players rest : List SeatedPlayer} {outside : CallSurroundings}

theorem Ready.findReplay (h : Ready codec s lobby players) (hmem : player ∈ players)
    (hsound : Sound s outside) :
    (outside.call codec).store.findReplay s.handler.lease player.authenticated.playerId
      (admissionCommand codec player.authenticated (.lifecycle lobby)) outside.storeMs s.store
      = .ok none s.store := by
  have hreplay : Server.findReplay codec.toCodec s.handler.lease player.authenticated.playerId
      (admissionCommand codec player.authenticated (.lifecycle lobby)) outside.storeMs s.store
      = .ok (none, s.store) :=
    findReplay_eq_ok.2 ⟨(h.new player hmem).opaqueId, hsound.owned,
      storedResponse_eq_ok.2 ⟨rfl, .inl ⟨(h.new player hmem).command, rfl⟩⟩⟩
  show outside.replayFault.run _ s.store = _
  simp only [hsound.replay, Fault.run, hreplay]

theorem admissionCommit_events : (admissionCommit codec s lobby player).events =
    [⟨admissionEventId codec player, lobby.stateVersion + 1, admissionTimeMs s player,
      .lifecycle (.playerJoined player.authenticated.playerId player.authenticated.seatIndex
        (occupants (admittedLobby lobby player).seats).length)⟩] := rfl

/-- A lobby is sound once a player has been admitted who was new to it. -/
theorem Ready.soundLobby_admitted (h : Ready codec s lobby players) (hmem : player ∈ players)
    (hfits : Fits lobby player) (hsound : Sound s outside) :
    SoundLobby (admittedLobby lobby player) := by
  obtain ⟨source, -, hresume, hrng⟩ := hsound.source
  rw [h.state] at hresume hrng
  exact hfits.soundLobby h.soundLobby h.waiting (h.new player hmem).opaqueId
    (h.new player hmem).seat hresume hrng

/-- An admission that fits is committed. -/
theorem Ready.commit (hcodec : WritesLobbies codec) (h : Ready codec s lobby players)
    (hmem : player ∈ players) (hfits : Fits lobby player) (hsound : Sound s outside) :
    (outside.call codec).store.commit s.handler.lease (admissionCommit codec s lobby player)
        outside.storeMs s.store
      = .ok ⟨(admissionCommit codec s lobby player).acknowledgement, false⟩
          (admittedState codec s lobby player outside.storeMs).store := by
  have hnew := h.new player hmem
  have hchecked : CheckedCommit codec.toCodec (admissionCommit codec s lobby player) := by
    refine ⟨hnew.opaqueId, ?_, fun hfinal => absurd rfl hfinal, ?_, ⟨rfl, rfl, rfl, ?_, rfl⟩,
      hcodec _ (h.soundLobby_admitted hmem hfits hsound)⟩
    · show ((admissionCommit codec s lobby player).events.map RoomEvent.eventId).length ≤ 32
      simp [admissionCommit_events]
    · intro _ hfinal
      cases hfinal
    · intro event hevent
      rw [admissionCommit_events, List.mem_singleton] at hevent
      rw [hevent]
      rfl
  have hrecord : Recordable s.store s.handler.lease (admissionCommit codec s lobby player) := by
    refine ⟨?_, ?_, ?_, hnew.command, ?_⟩
    · simp [admissionCommit_events]
    · intro event hevent
      rw [admissionCommit_events, List.mem_singleton] at hevent
      rw [hevent]
      exact hnew.event
    · intro _ hproof
      cases hproof
    · intro _ hfinal
      cases hfinal
  have hcommit : Server.commit codec.toCodec s.handler.lease (admissionCommit codec s lobby player)
      outside.storeMs s.store = .ok (⟨_, false⟩, _) :=
    commit_eq_ok.2 ⟨hchecked, hsound.owned, .inr ⟨h.checkpoint, hrecord, rfl, rfl⟩⟩
  show outside.commitFault.run _ s.store = _
  simp only [hsound.commit, Fault.run, hcommit]
  rfl

/-- The players who are left are as new to the room that has admitted another. -/
theorem Ready.admitted (h : Ready codec s lobby players) (hperm : players.Perm (player :: rest))
    (hfits : Fits lobby player) (hsound : Sound s outside) :
    Ready codec (admittedState codec s lobby player outside.storeMs) (admittedLobby lobby player)
      rest := by
  have hdistinct := (hperm.map fun player => player.authenticated.playerId).nodup_iff.1 h.distinct
  have hids := (hperm.map (admissionEventId codec)).nodup_iff.1 h.eventIds
  rw [List.map_cons, List.nodup_cons] at hdistinct hids
  have hmem : player ∈ players := hperm.mem_iff.2 List.mem_cons_self
  refine ⟨rfl, h.soundLobby_admitted hmem hfits hsound, h.waiting,
    ⟨outside, hsound.replay, hsound.commit, hsound.owned, ?_⟩, ?_, ?_, hdistinct.2, hids.2⟩
  · obtain ⟨source, hsource, hresume, hrng⟩ := hsound.source
    rw [h.state] at hsource hresume hrng
    exact ⟨source, hsource, hresume, hrng⟩
  · exact ⟨_, leasedCheckpoint_eq_some.2 ⟨Function.update_self .., rfl, rfl⟩, rfl⟩
  · intro other hother
    have hnew := h.new other (hperm.mem_iff.2 (List.mem_cons_of_mem _ hother))
    have hne : player.authenticated.playerId ≠ other.authenticated.playerId := fun heq =>
      hdistinct.1 (heq ▸ List.mem_map_of_mem hother)
    have hid : admissionEventId codec other ≠ admissionEventId codec player := fun heq =>
      hids.1 (heq ▸ List.mem_map_of_mem hother)
    refine ⟨hnew.opaqueId, fun seat hseat => ?_, ?_, ?_⟩
    · rcases (mem_occupants_set hfits.slot hfits.seatIndex_lt).1 hseat with rfl | hseat
      · exact hne
      · exact hnew.seat seat hseat
    · refine (committed_commands_of_ne fun heq => ?_).trans hnew.command
      exact hne (congrArg CommandKey.playerId heq).symm
    · simp only [admittedState, committed, admissionCommit_events, addEvents, List.foldl_cons,
        List.foldl_nil, Function.update_of_ne hid]
      exact hnew.event

theorem Ready.admissionLobby_eq_ok {lobby' : GameState} (h : Ready codec s lobby players)
    (hmem : player ∈ players) :
    admissionLobby s.handler.state player.authenticated = .ok lobby' ↔
      slotAt lobby.seats player.authenticated.seatIndex = none ∧ lobby' = lobby := by
  have hseats : ∀ playerId ∈ occupants (RoomGameState.lifecycle lobby).players,
      playerId ≠ player.authenticated.playerId := by
    intro playerId hplayer
    rw [RoomGameState.players, occupants_mapSlots] at hplayer
    obtain ⟨seat, hseat, rfl⟩ := List.mem_map.1 hplayer
    exact (h.new player hmem).seat seat hseat
  rw [h.state]
  have hslot : slotAt (RoomGameState.lifecycle lobby).players player.authenticated.seatIndex = none ↔
      slotAt lobby.seats player.authenticated.seatIndex = none := by
    simp [RoomGameState.players]
  simp only [admissionLobby, bind_eq_ok, require_eq_ok, exists_const, pure_eq_ok, hslot]
  constructor
  · rintro ⟨hnone, -, -, rfl⟩
    exact ⟨hnone, rfl⟩
  · rintro ⟨hnone, rfl⟩
    refine ⟨hnone, hseats, ?_, rfl⟩
    rw [h.waiting]
    rfl

/-- An attempt succeeds exactly when the core seats the player where the API did. -/
theorem Ready.ensureAdmitted_iff (hcodec : WritesLobbies codec) (h : Ready codec s lobby players)
    (hmem : player ∈ players) (hsound : Sound s outside) :
    (∃ events, ensureAdmittedPlayerSerial codec (outside.call codec) player.authenticated
        player.joinedAtMs s = .ok events m) ↔
      Fits lobby player ∧ m = admittedState codec s lobby player outside.storeMs := by
  have hseat : ¬ slotAt s.handler.state.players player.authenticated.seatIndex
      = some player.authenticated.playerId := by
    rw [h.state, RoomGameState.players, slotAt_mapSlots, Option.map_eq_some_iff]
    rintro ⟨seat, hslot, hplayer⟩
    exact (h.new player hmem).seat seat (mem_occupants.2 ⟨_, hslot⟩) hplayer
  obtain ⟨source, hsource, hresume, hrng⟩ := hsound.source
  rw [h.state] at hresume hrng
  have hdecide := @admissionDecision_eq_ok codec lobby player (admissionTimeMs s player) source
  rw [ensureAdmittedPlayerSerial, get_bind]
  simp only [if_neg (not_not.2 player.safe), if_neg hseat]
  cases hlobby : admissionLobby s.handler.state player.authenticated with
  | error error =>
    refine iff_of_false (by rintro ⟨_, ⟨⟩⟩) fun hfits => ?_
    cases hlobby.symm.trans ((h.admissionLobby_eq_ok hmem).2 ⟨hfits.1.slot, rfl⟩)
  | ok lobby' =>
    obtain ⟨hnone, rfl⟩ := (h.admissionLobby_eq_ok hmem).1 hlobby
    have hcall : (outside.call codec).randomSource s.handler.state.rng = some source := hsource
    have hreplay := h.findReplay hmem hsound
    rw [← h.state] at hdecide hreplay
    simp only [hcall, onStore_bind]
    simp only [show (outside.call codec).storeMs = outside.storeMs from rfl, hreplay]
    have hdecision := fun proposal =>
      @hdecide proposal h.waiting (h.new player hmem).seat hresume hrng
    cases hcase : admissionDecision player.authenticated lobby'
        (admissionCommand codec player.authenticated s.handler.state) player.joinedAtMs
        (admissionTimeMs s player) source with
    | error error =>
      have hno : ¬ Fits lobby' player := by
        intro hfits
        cases hcase.symm.trans ((hdecision _).2 ⟨hfits, rfl⟩)
      simp only [admissionTimeMs] at hcase
      simp only [hcase]
      exact iff_of_false (by rintro ⟨_, ⟨⟩⟩) fun hfits => hno hfits.1
    | ok proposal =>
      obtain ⟨hfits, rfl⟩ := (hdecision _).1 hcase
      have hcommit := h.commit hcodec hmem hfits hsound
      simp only [admissionTimeMs] at hcase
      simp only [admissionCommit, admissionTimeMs, ← h.state] at hcommit
      simp only [hcase, commitNext_bind, hcommit, Bool.false_eq_true, if_false]
      constructor
      · rintro ⟨events, heq⟩
        cases heq
        exact ⟨hfits, rfl⟩
      · rintro ⟨-, rfl⟩
        exact ⟨_, rfl⟩

theorem Ready.admitted_iff (hcodec : WritesLobbies codec) (h : Ready codec s lobby players)
    (hmem : player ∈ players) :
    Admitted codec s player m ↔ Fits lobby player ∧
      ∃ outside, Sound s outside ∧ m = admittedState codec s lobby player outside.storeMs := by
  constructor
  · rintro ⟨outside, events, hsound, hadmits⟩
    obtain ⟨hfits, rfl⟩ := (h.ensureAdmitted_iff hcodec hmem hsound).1 ⟨events, hadmits⟩
    exact ⟨hfits, outside, hsound, rfl⟩
  · rintro ⟨hfits, outside, hsound, rfl⟩
    obtain ⟨events, hadmits⟩ := (h.ensureAdmitted_iff hcodec hmem hsound).2 ⟨hfits, rfl⟩
    exact ⟨outside, events, hsound, hadmits⟩

end Store

/-! ### Orders of admission -/

/-- Players who can be admitted in this order: they sit on the first free seats, none has joined
before the one in front or before the lobby was last observed, and there are versions left. -/
structure InOrder (lobby : GameState) (order : List SeatedPlayer) : Prop where
  seats : (order.map fun player => player.authenticated.seatIndex) <+:
    freeSeats lobby.maximumPlayers lobby.seats
  times : (latestObservedAtMs lobby :: order.map SeatedPlayer.joinedAtMs).IsChain (· ≤ ·)
  version : lobby.stateVersion + order.length ≤ maxStateVersion

section Orders

variable {codec : RoomCodec} {s s' m : HandlerState Realtime} {lobby : GameState}
  {player : SeatedPlayer} {players rest left order : List SeatedPlayer}

theorem latestObservedAtMs_admitted (h : Fits lobby player) :
    latestObservedAtMs (admittedLobby lobby player) = player.joinedAtMs := by
  have hjoined := @latestObservedAtMs_joined lobby
    ⟨player.authenticated.playerId, player.joinedAtMs, scriptedSource [] lobby.rng⟩
    player.authenticated.seatIndex lobby.rng h.observed h.seat
  exact hjoined

theorem inOrder_cons : InOrder lobby (player :: rest) ↔
    Fits lobby player ∧ InOrder (admittedLobby lobby player) rest := by
  constructor
  · rintro ⟨⟨behind, hseats⟩, htimes, hversion⟩
    rw [List.map_cons, List.isChain_cons_cons] at htimes
    rw [List.length_cons] at hversion
    push_cast at hversion
    have hfits : Fits lobby player := by
      refine ⟨?_, htimes.1, by omega⟩
      rw [firstFreeSeat_eq_head, ← hseats]
      rfl
    refine ⟨hfits, ⟨behind, ?_⟩, ?_, ?_⟩
    · show _ = freeSeats lobby.maximumPlayers (lobby.seats.set _ _)
      rw [freeSeats_set hfits.seat, ← hseats]
      rfl
    · rw [latestObservedAtMs_admitted hfits]
      exact htimes.2
    · show lobby.stateVersion + 1 + _ ≤ _
      omega
  · rintro ⟨hfits, ⟨behind, hseats⟩, htimes, hversion⟩
    rw [latestObservedAtMs_admitted hfits] at htimes
    have hset : freeSeats (admittedLobby lobby player).maximumPlayers
        (admittedLobby lobby player).seats = (freeSeats lobby.maximumPlayers lobby.seats).tail :=
      freeSeats_set hfits.seat
    have hhead := hfits.seat
    rw [firstFreeSeat_eq_head] at hhead
    refine ⟨⟨behind, ?_⟩, ?_, ?_⟩
    · rw [List.map_cons, List.cons_append, hseats, hset]
      exact List.cons_head?_tail hhead
    · rw [List.map_cons, List.isChain_cons_cons]
      exact ⟨hfits.observed, htimes⟩
    · have hone : (admittedLobby lobby player).stateVersion = lobby.stateVersion + 1 := rfl
      rw [List.length_cons]
      push_cast
      omega

/-- Whoever sits in the lobby stays there when another player is admitted. -/
theorem slotAt_admitted {index : ℕ} {playerId : String} {storeMs : ℤ} (hfits : Fits lobby player)
    (h : slotAt (RoomGameState.lifecycle lobby).players index = some playerId) :
    slotAt (admittedState codec s lobby player storeMs).handler.state.players index
      = some playerId := by
  simp only [RoomGameState.players, slotAt_mapSlots, Option.map_eq_some_iff] at h
  obtain ⟨seat, hseat, rfl⟩ := h
  have hne : player.authenticated.seatIndex ≠ index := by
    rintro rfl
    rw [hfits.slot] at hseat
    cases hseat
  have hsame : slotAt (admittedLobby lobby player).seats index = slotAt lobby.seats index := by
    simp [slotAt, admittedLobby, List.getElem?_set_ne hne]
  simp [admittedState, RoomGameState.players, hsame, hseat]

theorem slotAt_admitted_self {storeMs : ℤ} (hfits : Fits lobby player) :
    slotAt (admittedState codec s lobby player storeMs).handler.state.players
      player.authenticated.seatIndex = some player.authenticated.playerId := by
  have hself : slotAt (admittedLobby lobby player).seats player.authenticated.seatIndex = some
      (createSeat player.authenticated.playerId player.authenticated.seatIndex player.joinedAtMs) := by
    simp [slotAt, admittedLobby, hfits.seatIndex_lt]
  simp [admittedState, RoomGameState.players, hself, createSeat]

/-- Those who are admitted one after the other were in order, sit on their seats, and the room is
ready for the others. -/
theorem Presented.inOrder (hcodec : WritesLobbies codec)
    (hpresented : Presented codec s players s' left) (h : Ready codec s lobby players) :
    ∃ lobby' order, Ready codec s' lobby' left ∧ (order ++ left).Perm players ∧ InOrder lobby order ∧
      (∀ index playerId, slotAt s.handler.state.players index = some playerId →
        slotAt s'.handler.state.players index = some playerId) ∧
      ∀ player ∈ order, slotAt s'.handler.state.players player.authenticated.seatIndex
        = some player.authenticated.playerId := by
  induction hpresented generalizing lobby with
  | nil s players =>
    refine ⟨lobby, [], h, .refl _, ⟨List.nil_prefix, .singleton _, ?_⟩, fun _ _ hslot => hslot,
      fun _ hmem => by cases hmem⟩
    simpa using h.soundLobby.version.2
  | @cons s m s' players rest left player hperm hadmitted _ ih =>
    obtain ⟨hfits, outside, hsound, rfl⟩ :=
      (h.admitted_iff hcodec (hperm.mem_iff.2 List.mem_cons_self)).1 hadmitted
    obtain ⟨lobby', order, hready, horder, hin, hstays, hsits⟩ := ih (h.admitted hperm hfits hsound)
    refine ⟨lobby', player :: order, hready, (horder.cons player).trans hperm.symm,
      inOrder_cons.2 ⟨hfits, hin⟩, fun index playerId hslot => ?_, fun other hmem => ?_⟩
    · rw [h.state] at hslot
      exact hstays _ _ (slotAt_admitted hfits hslot)
    · rcases List.mem_cons.1 hmem with rfl | hother
      · exact hstays _ _ (slotAt_admitted_self hfits)
      · exact hsits other hother

/-- The players can always go on until no attempt can succeed. -/
theorem Ready.exists_stuck (hcodec : WritesLobbies codec) (h : Ready codec s lobby players) :
    ∃ s' left, Presented codec s players s' left ∧ Stuck codec s' left := by
  induction hlength : players.length generalizing s lobby players with
  | zero =>
    obtain rfl := List.length_eq_zero_iff.1 hlength
    exact ⟨s, [], .nil _ _, fun _ hmem => by cases hmem⟩
  | succ n ih =>
    by_cases hstuck : Stuck codec s players
    · exact ⟨s, players, .nil _ _, hstuck⟩
    · simp only [Stuck, not_forall, not_not] at hstuck
      obtain ⟨player, hmem, m, hadmitted⟩ := hstuck
      obtain ⟨before, after, rfl⟩ := List.append_of_mem hmem
      have hperm : (before ++ player :: after).Perm (player :: (before ++ after)) :=
        List.perm_middle
      obtain ⟨hfits, outside, hsound, rfl⟩ := (h.admitted_iff hcodec hmem).1 hadmitted
      have hrest := hperm.length_eq
      rw [hlength, List.length_cons, Nat.add_right_cancel_iff] at hrest
      obtain ⟨s', left, hpresented, hstuck'⟩ := ih (h.admitted hperm hfits hsound) hrest.symm
      exact ⟨s', left, .cons player hperm hadmitted hpresented, hstuck'⟩

/-- Players who can be admitted in some order are never stuck: only the first of them fits. -/
theorem Presented.left_eq_nil (hcodec : WritesLobbies codec)
    (hpresented : Presented codec s players s' left) (h : Ready codec s lobby players)
    (horder : order.Perm players) (hin : InOrder lobby order) (hstuck : Stuck codec s' left) :
    left = [] := by
  induction hpresented generalizing lobby order with
  | nil s players =>
    cases order with
    | nil => exact horder.nil_eq.symm
    | cons first rest =>
      have hmem : first ∈ players := horder.mem_iff.1 List.mem_cons_self
      obtain ⟨hfits, -⟩ := inOrder_cons.1 hin
      obtain ⟨outside, hsound⟩ := h.sound
      exact absurd ((h.admitted_iff hcodec hmem).2 ⟨hfits, outside, hsound, rfl⟩) (hstuck first hmem _)
  | @cons s m s' players rest left player hperm hadmitted _ ih =>
    obtain ⟨hfits, outside, hsound, rfl⟩ :=
      (h.admitted_iff hcodec (hperm.mem_iff.2 List.mem_cons_self)).1 hadmitted
    cases order with
    | nil =>
      cases horder.nil_eq
      cases hperm.nil_eq
    | cons first others =>
      obtain ⟨hfirst, hothers⟩ := inOrder_cons.1 hin
      -- seats of different players in order are different
      have heq : first = player := by
        have hmem : player ∈ first :: others :=
          horder.mem_iff.2 (hperm.mem_iff.2 List.mem_cons_self)
        refine (List.mem_cons.1 hmem).elim Eq.symm fun hother => ?_
        have hnodup : ((first :: others).map fun player => player.authenticated.seatIndex).Nodup :=
          hin.seats.sublist.nodup (List.nodup_range.filter _)
        rw [List.map_cons, List.nodup_cons,
          Option.some.inj (hfirst.seat.symm.trans hfits.seat)] at hnodup
        exact absurd (List.mem_map.2 ⟨player, hother, rfl⟩) hnodup.1
      subst heq
      exact ih (h.admitted hperm hfits hsound) ((List.perm_cons first).1 (horder.trans hperm))
        hothers hstuck

end Orders

/-- Players who are new to a waiting room all end up on the seats the API gave them, in whatever
order they try, exactly when those seats are the first free ones and nobody on a later seat has
joined before somebody on an earlier one, or before the lobby was last observed. -/
theorem eventuallyAdmits_iff (localeCompare : String → String → ℤ) (digest : String → List UInt8)
    (s : HandlerState Realtime) (lobby : GameState) (players : List SeatedPlayer)
    (hready : Ready (roomCodec localeCompare digest) s lobby players) :
    EventuallyAdmits (roomCodec localeCompare digest) s players ↔
      ∃ order, order.Perm players ∧ InOrder lobby order := by
  have hcodec := roomCodec_writesLobbies localeCompare digest
  constructor
  · intro hadmits
    obtain ⟨s', left, hpresented, hstuck⟩ := hready.exists_stuck hcodec
    obtain ⟨lobby', order, hready', hperm, hin, -, -⟩ := hpresented.inOrder hcodec hready
    cases left with
    | nil => exact ⟨order, by simpa using hperm, hin⟩
    | cons player rest =>
      -- whoever is left does not sit anywhere
      have hmem : player ∈ players := hperm.mem_iff.1 (by simp)
      have hseated := hadmits s' _ hpresented hstuck player hmem
      rw [hready'.state, RoomGameState.players, slotAt_mapSlots, Option.map_eq_some_iff] at hseated
      obtain ⟨seat, hseat, hplayer⟩ := hseated
      exact absurd hplayer ((hready'.new player List.mem_cons_self).seat seat
        (mem_occupants.2 ⟨_, hseat⟩))
  · rintro ⟨order, horder, hin⟩ s' left hpresented hstuck player hmem
    obtain rfl := hpresented.left_eq_nil hcodec hready horder hin hstuck
    obtain ⟨lobby', order', -, hperm, -, -, hsits⟩ := hpresented.inOrder hcodec hready
    rw [List.append_nil] at hperm
    exact hsits player (hperm.mem_iff.2 hmem)

/-! ### A gap between seats -/

/-- A player of the session of Alice's room, seated by the API at the time of their seat's number. -/
def seatedPlayer (playerId : String) (seatIndex : Fin 4) : SeatedPlayer where
  authenticated := ⟨"game", playerId, "res_" ++ playerId, "room", seatIndex, "user_" ++ playerId⟩
  joinedAtMs := seatIndex
  safe := by
    have hlt := seatIndex.isLt
    refine ⟨⟨?_, ?_⟩, ?_⟩ <;> omega

theorem aliceLobby_sound : SoundLobby aliceLobby where
  gameId := by decide
  creatorId := by decide
  version := by decide
  minimum := rfl
  maximum := by decide
  length_seats := rfl
  bank := rfl
  pool := rfl
  houses := rfl
  hotels := rfl
  created := by decide
  limit := by rintro _ ⟨⟩
  timeout := rfl
  rng := by decide
  seat := by
    intro i seat hseat
    match i with
    | 0 =>
      cases hseat
      exact ⟨rfl, by decide, by decide, le_rfl, by decide⟩
    | 1 | 2 | 3 => cases hseat
    | i + 4 => cases hseat
  ids := by decide
  creator := rfl
  lifecycle := trivial

/-- Alice's lobby at a version. -/
def aliceAlone (stateVersion : ℤ) : GameState := { aliceLobby with stateVersion := stateVersion }

theorem aliceAlone_sound {stateVersion : ℤ} (hpos : 1 ≤ stateVersion)
    (hmax : stateVersion ≤ maxStateVersion) : SoundLobby (aliceAlone stateVersion) :=
  { aliceLobby_sound with
    version := ⟨hpos, hmax⟩
    seat := fun i seat hseat =>
      have hsound := aliceLobby_sound.seat i seat hseat
      ⟨hsound.fresh, hsound.id, hsound.joined, hsound.created_le, hsound.capacity⟩
    lifecycle := trivial }

theorem clockCodec_writesLobbies : WritesLobbies clockCodec :=
  roomCodec_writesLobbies compareLetters strokeCodec.digest

/-- The room of Alice's lobby, its checkpoint written by the codec of the rooms. -/
def aliceWaits : HandlerState Realtime where
  handler := ⟨.lifecycle (aliceAlone 1), 0, sampleLease⟩
  store := setCheckpoint "room" (snapshotRow clockCodec.toCodec sampleLease 1
      (clockCodec.serialize (.lifecycle (aliceAlone 1))) 1)
    (setLease "room" ⟨"game", "server", 100, 1, 0⟩ (freshRealtime fun _ => some "room"))

theorem aliceWaits_ready {players : List SeatedPlayer}
    (hnew : ∀ player ∈ players, NewTo clockCodec aliceWaits (aliceAlone 1) player)
    (hdistinct : (players.map fun player => player.authenticated.playerId).Nodup)
    (hids : (players.map (admissionEventId clockCodec)).Nodup) :
    Ready clockCodec aliceWaits (aliceAlone 1) players where
  state := rfl
  soundLobby := aliceAlone_sound le_rfl (by decide)
  waiting := rfl
  sound := ⟨surroundings 5 .none, rfl, rfl, ⟨_, rfl, rfl, rfl, rfl, by decide⟩, _, rfl, by decide,
    by decide⟩
  checkpoint := ⟨_, leasedCheckpoint_eq_some.2 ⟨rfl, rfl, rfl⟩, rfl⟩
  new := hnew
  distinct := hdistinct
  eventIds := hids

/-- Carol and Bob try in any order, and both are admitted. -/
theorem eventuallyAdmits_bob_carol : EventuallyAdmits clockCodec aliceWaits
    [seatedPlayer "carol" 2, seatedPlayer "bob" 1] := by
  have hready : Ready clockCodec aliceWaits (aliceAlone 1)
      [seatedPlayer "carol" 2, seatedPlayer "bob" 1] := by
    refine aliceWaits_ready ?_ (by decide) (by decide)
    intro player hmem
    simp only [List.mem_cons, List.not_mem_nil, or_false] at hmem
    rcases hmem with rfl | rfl
    · exact ⟨by decide, by decide, rfl, rfl⟩
    · exact ⟨by decide, by decide, rfl, rfl⟩
  refine (eventuallyAdmits_iff compareLetters strokeCodec.digest _ _ _ hready).2
    ⟨[seatedPlayer "bob" 1, seatedPlayer "carol" 2], .swap .., ⟨?_, ?_, ?_⟩⟩
  · exact ⟨[3], rfl⟩
  · decide
  · decide

/-- Alice's room once Bob has been admitted. -/
def bobAdmitted : HandlerState Realtime :=
  admittedState clockCodec aliceWaits (aliceAlone 1) (seatedPlayer "bob" 1) 5

theorem bobAdmitted_step : HandlerStep clockCodec aliceWaits
    (.ensureAdmitted (surroundings 5 .none) (seatedPlayer "bob" 1).authenticated 1) bobAdmitted := by
  have hready : Ready clockCodec aliceWaits (aliceAlone 1) [seatedPlayer "bob" 1] := by
    refine aliceWaits_ready ?_ (List.nodup_singleton _) (List.nodup_singleton _)
    intro player hmem
    rw [List.mem_singleton] at hmem
    rw [hmem]
    exact ⟨by decide, by decide, rfl, rfl⟩
  have hsound : Sound aliceWaits (surroundings 5 .none) :=
    ⟨rfl, rfl, ⟨_, rfl, rfl, rfl, rfl, by decide⟩, _, rfl, by decide, by decide⟩
  obtain ⟨events, hadmits⟩ := (hready.ensureAdmitted_iff clockCodec_writesLobbies
    List.mem_cons_self hsound).2 ⟨⟨rfl, by decide, by decide⟩, rfl⟩
  exact .ensureAdmitted _ _ _ _ _ (by
    rw [show (1 : ℤ) = (seatedPlayer "bob" 1).joinedAtMs from rfl, hadmits]
    rfl)

/-- Bob leaves the lobby, at version two. -/
def bobLeaveCommand : RoomCommand := ⟨"l", 2, .lifecycle .leaveGame⟩

def bobLeaves : RoomPayload false where
  requestId := some "l"
  command := some bobLeaveCommand
  parsed := by
    rintro _ ⟨⟩
    exact ⟨rfl, rfl⟩

def bobLeaveProposal : Proposal where
  nextState := .lifecycle (aliceAlone 3)
  events := lifecycleEvents [.playerLeft "bob" 1 1] "l" 3 6
  proof := none

def bobLeaveCommit : CommandCommit :=
  bobLeaveProposal.toCommit clockCodec "bob" bobLeaveCommand
    (sessionFinalization clockCodec (seatedPlayer "bob" 1).authenticated bobLeaveCommand)

theorem bobLeaveCommit_events : bobLeaveCommit.events =
    [⟨"evt_l_0", 3, 6, .lifecycle (.playerLeft "bob" 1 1)⟩] := rfl

/-- Alice's room once Bob has left it. -/
def bobLeft : HandlerState Realtime where
  handler := ⟨.lifecycle (aliceAlone 3), 6, sampleLease⟩
  store := committed clockCodec.toCodec sampleLease bobLeaveCommit 6 bobAdmitted.store

theorem bobLeft_step : HandlerStep clockCodec bobAdmitted (.handle (surroundings 6 .none)
    (seatedPlayer "bob" 1).authenticated bobLeaves (.accepted ⟨"l", 3, ["evt_l_0"]⟩ false))
    bobLeft := by
  have howned : Owned bobAdmitted.store sampleLease 6 := ⟨_, rfl, rfl, rfl, rfl, by decide⟩
  have hnone : bobAdmitted.store.commands (commandKey "room" "bob" "l") = none :=
    committed_commands_of_ne (commandKey_ne_of_length (by decide))
  have hreplay : findReplay clockCodec.toCodec sampleLease "bob" bobLeaveCommand 6
      bobAdmitted.store = .ok (none, bobAdmitted.store) :=
    findReplay_eq_ok.2 ⟨by decide, howned, storedResponse_eq_ok.2 ⟨rfl, .inl ⟨hnone, rfl⟩⟩⟩
  have hchecked : CheckedCommit clockCodec.toCodec bobLeaveCommit := by
    refine ⟨by decide, by decide, fun _ => rfl, ?_, by decide, ?_⟩
    · rintro _ ⟨⟩
      rfl
    · exact clockCodec_writesLobbies _ (aliceAlone_sound (by decide) (by decide))
  have hrecord : Recordable bobAdmitted.store sampleLease bobLeaveCommit := by
    refine ⟨by decide, ?_, ?_, hnone, ?_⟩
    · intro event hevent
      have hid : event.eventId = "evt_l_0" := by
        rw [bobLeaveCommit_events, List.mem_singleton] at hevent
        rw [hevent]
      have hne : "evt_l_0" ≠ admissionEventId clockCodec (seatedPlayer "bob" 1) := by decide
      simp only [hid, bobAdmitted, admittedState, committed, admissionCommit_events, addEvents,
        List.foldl_cons, List.foldl_nil, Function.update_of_ne hne]
      rfl
    · intro _ hproof
      cases hproof
    · rintro _ ⟨⟩
      exact ⟨by decide, by decide, rfl⟩
  have hcommit : commit clockCodec.toCodec sampleLease bobLeaveCommit 6 bobAdmitted.store
      = .ok (⟨bobLeaveCommit.acknowledgement, false⟩, bobLeft.store) :=
    commit_eq_ok.2 ⟨hchecked, howned, .inr ⟨⟨_, leasedCheckpoint_eq_some.2 ⟨rfl, rfl, rfl⟩, rfl⟩,
      hrecord, rfl, rfl⟩⟩
  have hhandled : handleSerial clockCodec ((surroundings 6 .none).call clockCodec)
      (seatedPlayer "bob" 1).authenticated bobLeaves bobAdmitted
      = .ok (.accepted bobLeaveCommit.acknowledgement bobLeaveProposal.events false) bobLeft := by
    have hnow : commandTimestampMs bobAdmitted.handler 6 = .ok 6 := by decide
    have hfind : ((surroundings 6 .none).call clockCodec).store.findReplay sampleLease "bob"
        bobLeaveCommand 6 bobAdmitted.store = .ok none bobAdmitted.store := by
      show Fault.none.run (findReplay clockCodec.toCodec sampleLease "bob" bobLeaveCommand 6) _ = _
      simp only [Fault.run, hreplay]
    have hcommitted : ((surroundings 6 .none).call clockCodec).store.commit sampleLease
        bobLeaveCommit 6 bobAdmitted.store = .ok ⟨bobLeaveCommit.acknowledgement, false⟩
          bobLeft.store := by
      show Fault.none.run (commit clockCodec.toCodec sampleLease bobLeaveCommit 6) _ = _
      simp only [Fault.run, hcommit]
    exact handleWith_committed rfl hnow hfind rfl hcommitted
  exact .handle _ _ _ _ _ _ (by rw [hhandled]; rfl)

theorem bobLeft_ready : Ready clockCodec bobLeft (aliceAlone 3) [seatedPlayer "carol" 2] where
  state := rfl
  soundLobby := aliceAlone_sound (by decide) (by decide)
  waiting := rfl
  sound := ⟨surroundings 7 .none, rfl, rfl, ⟨_, rfl, rfl, rfl, rfl, by decide⟩, _, rfl, by decide,
    by decide⟩
  checkpoint := ⟨_, leasedCheckpoint_eq_some.2 ⟨rfl, rfl, rfl⟩, rfl⟩
  new := by
    intro player hmem
    rw [List.mem_singleton] at hmem
    rw [hmem]
    refine ⟨by decide, by decide, ?_, ?_⟩
    · have hplayer : ("room", "carol") ≠ ("room", "bob") := by decide
      exact (committed_commands_of_ne (commandKey_ne hplayer)).trans
        (committed_commands_of_ne (commandKey_ne hplayer))
    · have hleave : admissionEventId clockCodec (seatedPlayer "carol" 2) ≠ "evt_l_0" := by decide
      have hbob : admissionEventId clockCodec (seatedPlayer "carol" 2) ≠
          admissionEventId clockCodec (seatedPlayer "bob" 1) := by decide
      simp only [bobLeft, committed, bobLeaveCommit_events, addEvents, List.foldl_cons,
        List.foldl_nil, Function.update_of_ne hleave, bobAdmitted, admittedState,
        admissionCommit_events, Function.update_of_ne hbob]
      rfl
  distinct := List.nodup_singleton _
  eventIds := List.nodup_singleton _

/-- Bob, whom the API has seated between Alice and Carol, leaves the room before Carol attaches:
Carol keeps her seat in the API, and can never be admitted to the room. -/
theorem not_eventuallyAdmits :
    Seated 4 2 [seatedPlayer "alice" 0, seatedPlayer "carol" 2] ∧
      (∃ labels, Run (HandlerStep clockCodec) aliceWaits labels bobLeft) ∧
      Ready clockCodec bobLeft (aliceAlone 3) [seatedPlayer "carol" 2] ∧
      ¬ EventuallyAdmits clockCodec bobLeft [seatedPlayer "carol" 2] := by
  refine ⟨?_, ⟨_, .cons bobAdmitted_step (.cons bobLeft_step (.nil _))⟩, bobLeft_ready,
    fun hadmits => ?_⟩
  · have hbob : Seated 4 1 [seatedPlayer "alice" 0, seatedPlayer "bob" 1] :=
      .joined (seatedPlayer "bob" 1) (.created (seatedPlayer "alice" 0) rfl) rfl (by decide)
        (by decide)
    have hcarol : Seated 4 2
        ([seatedPlayer "alice" 0] ++ seatedPlayer "bob" 1 :: [seatedPlayer "carol" 2]) :=
      .joined (seatedPlayer "carol" 2) hbob rfl (by decide) (by decide)
    exact .released (seatedPlayer "bob" 1) hcarol (by decide)
  · have hstuck : Stuck clockCodec bobLeft [seatedPlayer "carol" 2] := by
      intro player hmem s' hadmitted
      obtain ⟨hfits, -⟩ := (bobLeft_ready.admitted_iff clockCodec_writesLobbies hmem).1 hadmitted
      rw [List.mem_singleton] at hmem
      rw [hmem] at hfits
      cases hfits.seat
    cases hadmits _ _ (.nil _ _) hstuck _ List.mem_cons_self

end Pootown.Server
