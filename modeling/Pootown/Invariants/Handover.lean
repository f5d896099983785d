import Mathlib.Tactic
import Pootown.Invariants.Opening
import Pootown.Server.BootstrapState

/-!
# From the lobby to the game

Four rule sets look at a lobby: the transitions, the snapshot checks, the checks before the first
aggregate, and the validator of that aggregate.  They agree on every lobby a game goes through.

* `SoundLobby`: what holds of every such lobby, with `SoundLifecycle` for its times;
* `SoundLobby.fits`, `SoundLobby.coherent`: a sound lobby passes the snapshot checks;
* `SoundLobby.ready`: once started it hands over its game;
* `ReachedLobby`, `soundLobby_of_reached`: runs from a creation or a bootstrap, with a round trip
  through a snapshot before any step.
-/

namespace Pootown

open Fallible Slots Snapshot

/-! ### Sound lobbies -/

/-- The times and the turn of a lifecycle, against the creation and the seats. -/
def SoundLifecycle (state : GameState) : Prop :=
  match state.lifecycle with
  | .waitingForPlayers => True
  | .inProgress startedAtMs gameEndAtMs turn =>
    Recordable startedAtMs ∧ state.createdAtMs ≤ startedAtMs ∧
    (∀ i seat, slotAt state.seats i = some seat → seat.joinedAtMs ≤ startedAtMs) ∧
    2 ≤ (occupants state.seats).length ∧
    gameEndAtMs = (state.timeLimitMs.map fun timeLimitMs => startedAtMs + timeLimitMs) ∧
    (∀ gameEnd, gameEndAtMs = some gameEnd → IsSafeInteger gameEnd) ∧
    turn = ⟨0, startedAtMs, startedAtMs + 90000⟩ ∧ IsSafeInteger (startedAtMs + 90000)
  | .cancelled cancelledAtMs => Recordable cancelledAtMs ∧ state.createdAtMs ≤ cancelledAtMs
  | .finished _ _ => False

/-- The occupant of a slot: as they joined, after the creation and within the capacity. -/
structure SoundSeat (state : GameState) (index : ℕ) (seat : PlayerSeat) : Prop where
  fresh : seat = createSeat seat.playerId index seat.joinedAtMs
  id : validOpaqueId seat.playerId = true
  joined : Recordable seat.joinedAtMs
  created_le : state.createdAtMs ≤ seat.joinedAtMs
  capacity : index < state.maximumPlayers

structure SoundLobby (state : GameState) : Prop where
  gameId : validOpaqueId state.gameId = true
  creatorId : validOpaqueId state.creatorId = true
  version : 1 ≤ state.stateVersion ∧ state.stateVersion ≤ maxStateVersion
  minimum : state.minimumPlayers = 2
  maximum : 2 ≤ state.maximumPlayers ∧ state.maximumPlayers ≤ 4
  length_seats : state.seats.length = 4
  bank : state.bankCash = 1000000
  pool : state.freeParkingPool = 0
  houses : state.housesRemaining = 32
  hotels : state.hotelsRemaining = 12
  created : Recordable state.createdAtMs
  limit : ∀ limit, state.timeLimitMs = some limit → 1 ≤ limit ∧ limit ≤ 86400000
  timeout : state.turnTimeoutMs = 90000
  rng : ValidRandomCheckpoint state.rng
  seat : ∀ i seat, slotAt state.seats i = some seat → SoundSeat state i seat
  ids : ((occupants state.seats).map PlayerSeat.playerId).Nodup
  creator : (slotAt state.seats 0).map PlayerSeat.playerId = some state.creatorId
  lifecycle : SoundLifecycle state

namespace SoundLobby

variable {state : GameState} (h : SoundLobby state)
include h

theorem active {seat : PlayerSeat} (hseat : seat ∈ occupants state.seats) :
    seat.status = .active := by
  obtain ⟨i, hi⟩ := mem_occupants.1 hseat
  rw [(h.seat i seat hi).fresh]
  rfl

theorem seat_lt {i : ℕ} {seat : PlayerSeat} (hseat : slotAt state.seats i = some seat) : i < 4 :=
  h.length_seats ▸ lt_length_of_slotAt hseat

theorem seatFits {i : ℕ} {seat : PlayerSeat} (hseat : slotAt state.seats i = some seat) :
    SeatFits i seat := by
  have hlt := h.seat_lt hseat
  have hsound := h.seat i seat hseat
  rw [hsound.fresh]
  exact ⟨⟨rfl, by omega⟩, hsound.id, by simp [createSeat]; decide, by simp [createSeat],
    hsound.joined⟩

theorem lifecycleFits : LifecycleFits state.lifecycle := by
  have hsound := h.lifecycle
  unfold SoundLifecycle at hsound
  cases hlife : state.lifecycle with
  | waitingForPlayers => trivial
  | inProgress startedAtMs gameEndAtMs turn =>
    rw [hlife] at hsound
    obtain ⟨hstarted, -, -, -, hend, hsafe, rfl, hdeadline⟩ := hsound
    refine ⟨hstarted, fun gameEnd hsome => ⟨hsafe gameEnd hsome, ?_⟩, by simp, hstarted,
      hdeadline, ?_⟩
    · rw [hend] at hsome
      obtain ⟨limit, hlimit, rfl⟩ := Option.map_eq_some_iff.1 hsome
      have hpos := (h.limit limit hlimit).1
      have hnonneg := hstarted.2
      omega
    · have hnonneg := hstarted.2
      show 0 ≤ startedAtMs + 90000
      omega
  | cancelled cancelledAtMs =>
    rw [hlife] at hsound
    exact hsound.1
  | finished startedAtMs gameEndAtMs =>
    rw [hlife] at hsound
    exact hsound.elim

/-- The fields of a sound lobby are within the ranges of a snapshot. -/
theorem fits : StateFits state where
  minimum := h.minimum
  maximum := h.maximum
  length_seats := h.length_seats
  seat := fun _ _ hseat => h.seatFits hseat
  capacity := fun i seat hseat => (h.seat i seat hseat).capacity
  version := h.version
  gameId := h.gameId
  creatorId := h.creatorId
  bank := by rw [h.bank]; decide
  pool := by rw [h.pool]; exact isMatchCash_zero
  houses := h.houses.le
  hotels := h.hotels.le
  created := h.created
  limit := h.limit
  timeout := h.timeout
  rng := h.rng
  lifecycle := h.lifecycleFits

theorem checkLifecycle : checkLifecycle state = .ok () := by
  have hsound := h.lifecycle
  unfold SoundLifecycle at hsound
  unfold Snapshot.checkLifecycle
  cases hlife : state.lifecycle with
  | waitingForPlayers => exact require_eq_ok.2 fun seat hseat => h.active hseat
  | inProgress startedAtMs gameEndAtMs turn =>
    rw [hlife] at hsound
    obtain ⟨hstarted, hcreated, -, henough, hend, -, rfl, -⟩ := hsound
    obtain ⟨creator, hcreator, -⟩ := Option.map_eq_some_iff.1 h.creator
    simp only [bind_eq_ok, require_eq_ok, exists_const]
    refine ⟨⟨h.minimum.symm ▸ henough, hcreated⟩,
      ⟨creator, hcreator, h.active (mem_occupants.2 ⟨0, hcreator⟩)⟩, le_rfl, by simp, ?_⟩
    intro gameEnd hsome
    rw [hend] at hsome
    obtain ⟨limit, hlimit, rfl⟩ := Option.map_eq_some_iff.1 hsome
    have hpos := (h.limit limit hlimit).1
    omega
  | cancelled cancelledAtMs =>
    rw [hlife] at hsound
    exact require_eq_ok.2 hsound.2
  | finished startedAtMs gameEndAtMs =>
    rw [hlife] at hsound
    exact hsound.elim

/-- A sound lobby passes the checks of a snapshot on the state as a whole. -/
theorem coherent : Coherent state := by
  obtain ⟨creator, hcreator, -⟩ := Option.map_eq_some_iff.1 h.creator
  have hmem : creator ∈ occupants state.seats := mem_occupants.2 ⟨0, hcreator⟩
  simp only [Coherent, checkState, bind_eq_ok, require_eq_ok, exists_const]
  refine ⟨⟨List.length_pos_of_mem hmem, h.creator⟩, h.ids,
    List.length_pos_of_mem (List.mem_filter.2 ⟨hmem, by simpa using h.active hmem⟩), ?_,
    h.checkLifecycle⟩
  intro seat hseat
  obtain ⟨i, hi⟩ := mem_occupants.1 hseat
  exact (h.seat i seat hi).created_le

/-- A sound lobby in progress hands over its game. -/
theorem ready {lobby : InProgressGameState} (hlobby : state.toInProgress = some lobby) :
    ReadyLobby lobby ∧
      ∀ i seat, slotAt lobby.seats i = some seat → seat.joinedAtMs ≤ lobby.startedAtMs := by
  have hsound := h.lifecycle
  unfold SoundLifecycle at hsound
  unfold GameState.toInProgress at hlobby
  cases hlife : state.lifecycle with
  | inProgress startedAtMs gameEndAtMs turn =>
    rw [hlife] at hsound hlobby
    cases hlobby
    obtain ⟨hstarted, hcreated, hjoined, henough, hend, hsafe, rfl, hdeadline⟩ := hsound
    refine ⟨{
      gameId := h.gameId
      creatorId := h.creatorId
      version := h.version
      minimum := h.minimum
      maximum := h.maximum
      length_seats := h.length_seats
      bank := h.bank
      pool := h.pool
      houses := h.houses
      hotels := h.hotels
      created := h.created
      started := ⟨hstarted.1, hcreated⟩
      timeout := h.timeout
      limit := h.limit
      gameEnd := hend
      gameEnd_safe := hsafe
      turnStart := rfl
      deadline := ⟨hdeadline, rfl⟩
      rng := h.rng
      seat := fun i seat hseat => ?_
      ids := h.ids
      enough := henough
      creator := h.creator
      firstSeat := rfl }, hjoined⟩
    have hsound := h.seat i seat hseat
    rw [hsound.fresh]
    exact ⟨rfl, rfl, hsound.id, rfl, rfl, rfl, hsound.joined.1, hsound.created_le, hsound.capacity⟩
  | _ =>
    rw [hlife] at hlobby
    cases hlobby

end SoundLobby

/-! ### Runs of a lobby -/

theorem contextCheckpoint_valid {context : TransitionContext} {rng : RandomCheckpoint}
    (h : contextCheckpoint context = some rng) : ValidRandomCheckpoint rng :=
  readRandomCheckpoint_valid h

/-- A new game is a sound lobby, when its own id and its creator's are opaque. -/
theorem soundLobby_created {gameId : String} {maximumPlayers : ℕ} {timeLimitMs : Option ℤ}
    {expectedStateVersion : ℤ} {context : TransitionContext} {state : GameState}
    {events : List DomainEvent} (hgame : validOpaqueId gameId = true)
    (hactor : validOpaqueId context.actorId = true)
    (h : transition none ⟨expectedStateVersion, .createGame gameId maximumPlayers timeLimitMs⟩
      context = .ok (state, events)) : SoundLobby state := by
  simp only [transition, createGame, bind_eq_ok, require_eq_ok, requireSome_eq_ok, exists_const] at h
  obtain ⟨⟨hsafe, hnonneg⟩, -, hmaximum, hlimit, rng, hrng, h⟩ := h
  cases h
  exact {
    gameId := hgame
    creatorId := hactor
    version := ⟨le_rfl, by show (1 : ℤ) ≤ maxStateVersion; decide⟩
    minimum := rfl
    maximum := hmaximum
    length_seats := rfl
    bank := rfl
    pool := rfl
    houses := rfl
    hotels := rfl
    created := ⟨hsafe, hnonneg⟩
    limit := fun limit hsome => hlimit limit hsome
    timeout := rfl
    rng := contextCheckpoint_valid hrng
    seat := by
      intro i seat hseat
      obtain rfl : i = 0 := by
        by_contra hne
        have hlt : i < 4 := lt_length_of_slotAt hseat
        interval_cases i <;> simp at hne hseat
      cases hseat
      exact ⟨rfl, hactor, ⟨hsafe, hnonneg⟩, le_rfl, by
        have hmin := hmaximum.1
        simp only [GameplayPolicy.minimumPlayers] at hmin
        show 0 < maximumPlayers
        omega⟩
    ids := by simp
    creator := rfl
    lifecycle := trivial }

/-- The lobby of a session is sound. -/
theorem BootstrappedLobby.sound {state : GameState} (h : BootstrappedLobby state) :
    SoundLobby state := by
  have hcheck := h.coherent
  simp only [Coherent, checkState, bind_eq_ok, require_eq_ok, exists_const] at hcheck
  obtain ⟨⟨-, hcreator⟩, hids, -, hjoined, -⟩ := hcheck
  exact {
    gameId := h.fits.gameId
    creatorId := h.fits.creatorId
    version := h.fits.version
    minimum := h.fits.minimum
    maximum := h.fits.maximum
    length_seats := h.fits.length_seats
    bank := h.bank
    pool := h.pool
    houses := h.houses
    hotels := h.hotels
    created := h.fits.created
    limit := h.fits.limit
    timeout := h.fits.timeout
    rng := h.fits.rng
    seat := fun i seat hseat => {
      fresh := by
        have hfresh := h.fresh i seat hseat
        rwa [(h.fits.seat i seat hseat).seatIndex.1] at hfresh
      id := (h.fits.seat i seat hseat).playerId
      joined := (h.fits.seat i seat hseat).joinedAt
      created_le := hjoined seat (mem_occupants.2 ⟨i, hseat⟩)
      capacity := h.fits.capacity i seat hseat }
    ids := hids
    creator := hcreator
    lifecycle := by
      unfold SoundLifecycle
      rw [h.waiting]
      trivial }

/-- The deadlines of an accepted start are safe. -/
theorem start_safe {state : GameState} {command : GameCommand} {context : TransitionContext}
    {result : GameState × List DomainEvent}
    (h : transition (some state) command context = .ok result) (hstart : command.body = .startGame) :
    (∀ limit, state.timeLimitMs = some limit → IsSafeInteger (context.nowMs + limit)) ∧
      IsSafeInteger (context.nowMs + state.turnTimeoutMs) := by
  simp only [transition, hstart, startGame, bind_eq_ok, require_eq_ok, exists_const] at h
  obtain ⟨-, -, -, -, -, ⟨hend, hdeadline⟩, -⟩ := h
  exact ⟨fun limit hlimit => hend _ (by rw [hlimit]; rfl), hdeadline⟩

theorem soundLobby_step {state state' : GameState} {command : GameCommand}
    {context : TransitionContext} {events : List DomainEvent} (h : SoundLobby state)
    (hactor : validOpaqueId context.actorId = true)
    (hstep : transition (some state) command context = .ok (state', events)) :
    SoundLobby state' := by
  obtain ⟨hadmitted, rng, hrng, houtcome⟩ := transition_step hstep
  obtain ⟨hcreated, hjoined, -, -⟩ := latestObservedAtMs_le.1 hadmitted.observed_le
  have hnow : Recordable context.nowMs := ⟨hadmitted.safe, hadmitted.nonneg⟩
  have hversion : 1 ≤ state.stateVersion + 1 ∧ state.stateVersion + 1 ≤ maxStateVersion := by
    have hmin := h.version.1
    have hlt := hadmitted.version_lt
    omega
  have hvalid := contextCheckpoint_valid hrng
  generalize hbody : command.body = body at houtcome
  cases houtcome with
  | join seatIndex hnew hfree =>
    have hmem : seatIndex ∈ freeSeats state.maximumPlayers state.seats :=
      List.mem_of_head? (firstFreeSeat_eq_head .. ▸ hfree)
    obtain ⟨hlt, hcapacity, hempty⟩ := mem_freeSeats.1 hmem
    have hne : seatIndex ≠ 0 := by
      rintro rfl
      obtain ⟨creator, hcreator, -⟩ := Option.map_eq_some_iff.1 h.creator
      rw [hempty] at hcreator
      cases hcreator
    exact { h with
      version := hversion
      rng := hvalid
      length_seats := by simpa using h.length_seats
      seat := fun i seat hseat => by
        rw [slotAt_set hlt] at hseat
        split_ifs at hseat with hi
        · subst hi
          cases hseat
          exact ⟨rfl, hactor, hnow, hcreated, hcapacity⟩
        · exact ⟨(h.seat i seat hseat).fresh, (h.seat i seat hseat).id, (h.seat i seat hseat).joined,
            (h.seat i seat hseat).created_le, (h.seat i seat hseat).capacity⟩
      ids := by
        refine ((occupants_set_some _ hlt hempty).map _).nodup_iff.2 (List.nodup_cons.2 ⟨?_, h.ids⟩)
        rintro hold
        obtain ⟨seat, hseat, heq⟩ := List.mem_map.1 hold
        exact hnew seat hseat heq
      creator := by
        rw [slotAt_set hlt, if_neg hne]
        exact h.creator
      lifecycle := by
        unfold SoundLifecycle
        rw [hadmitted.waiting]
        trivial }
  | leave seatIndex hcreator hseat =>
    have hfound := List.find?_some hseat
    have hlt : seatIndex < state.seats.length := List.mem_range.1 (List.mem_of_find?_eq_some hseat)
    obtain ⟨leaver, hleaver, hid⟩ : ∃ seat, slotAt state.seats seatIndex = some seat ∧
        seat.playerId = context.actorId := by
      simpa [Option.any_eq_true] using hfound
    have hne : seatIndex ≠ 0 := by
      rintro rfl
      have hsame := h.creator
      rw [hleaver, Option.map_some, Option.some.injEq, hid] at hsame
      exact hcreator hsame
    exact { h with
      version := hversion
      rng := hvalid
      length_seats := by simpa using h.length_seats
      seat := fun i seat hother => by
        rw [slotAt_set hlt] at hother
        split_ifs at hother with hi
        exact ⟨(h.seat i seat hother).fresh, (h.seat i seat hother).id,
          (h.seat i seat hother).joined, (h.seat i seat hother).created_le,
          (h.seat i seat hother).capacity⟩
      ids := ((occupants_set_none state.seats seatIndex).map _).nodup h.ids
      creator := by
        rw [slotAt_set hlt, if_neg hne]
        exact h.creator
      lifecycle := by
        unfold SoundLifecycle
        rw [hadmitted.waiting]
        trivial }
  | cancel hcreator =>
    exact { h with
      version := hversion
      rng := hvalid
      seat := fun i seat hseat => ⟨(h.seat i seat hseat).fresh, (h.seat i seat hseat).id,
        (h.seat i seat hseat).joined, (h.seat i seat hseat).created_le,
        (h.seat i seat hseat).capacity⟩
      lifecycle := ⟨hnow, hcreated⟩ }
  | start gameEndAtMs hcreator henough hend =>
    obtain ⟨hend_safe, hdeadline⟩ := start_safe hstep hbody
    rw [h.timeout] at hdeadline
    exact { h with
      version := hversion
      rng := hvalid
      seat := fun i seat hseat => ⟨(h.seat i seat hseat).fresh, (h.seat i seat hseat).id,
        (h.seat i seat hseat).joined, (h.seat i seat hseat).created_le,
        (h.seat i seat hseat).capacity⟩
      lifecycle := by
        refine ⟨hnow, hcreated, fun i seat hseat => hjoined seat (mem_occupants.2 ⟨i, hseat⟩),
          h.minimum ▸ henough, hend, fun gameEnd hsome => ?_, by rw [h.timeout], hdeadline⟩
        rw [hend] at hsome
        obtain ⟨limit, hlimit, rfl⟩ := Option.map_eq_some_iff.1 hsome
        exact hend_safe limit hlimit }

/-- The states of a lobby: from a creation or a bootstrap, by accepted commands of opaque actors,
with a round trip through a snapshot anywhere in between. -/
inductive ReachedLobby (localeCompare : String → String → ℤ) : GameState → Prop
  | created {gameId : String} {maximumPlayers : ℕ} {timeLimitMs : Option ℤ}
      {expectedStateVersion : ℤ} {context : TransitionContext} {state : GameState}
      {events : List DomainEvent} :
      validOpaqueId gameId = true → validOpaqueId context.actorId = true →
      transition none ⟨expectedStateVersion, .createGame gameId maximumPlayers timeLimitMs⟩
        context = .ok (state, events) →
      ReachedLobby localeCompare state
  | bootstrapped {bootstrap : SessionBootstrapResponse} {randomSource : RandomSource}
      {state : GameState} :
      createWaitingState localeCompare bootstrap randomSource = .ok state →
      ReachedLobby localeCompare state
  | command {command : GameCommand} {context : TransitionContext} {state state' : GameState}
      {events : List DomainEvent} :
      ReachedLobby localeCompare state → validOpaqueId context.actorId = true →
      transition (some state) command context = .ok (state', events) →
      ReachedLobby localeCompare state'
  | restored {state state' : GameState} {text : String} :
      ReachedLobby localeCompare state → serializeSnapshot localeCompare state = .ok text →
      parseSnapshot localeCompare text = .ok state' →
      ReachedLobby localeCompare state'

variable {localeCompare : String → String → ℤ} {state : GameState}

theorem soundLobby_of_reached (h : ReachedLobby localeCompare state) : SoundLobby state := by
  induction h with
  | created hgame hactor hstep => exact soundLobby_created hgame hactor hstep
  | bootstrapped hboot => exact (createWaitingState_eq_ok hboot).sound
  | command _ hactor hstep ih => exact soundLobby_step ih hactor hstep
  | restored _ htext hparse ih =>
    obtain ⟨-, -, hround⟩ := fits_of_serializeSnapshot htext
    rw [hround] at hparse
    cases hparse
    exact ih

/-- Every lobby a game goes through has a snapshot that is parsed to it, seats each player once
and its creator first, and once started hands over a valid game. -/
theorem lobby_hands_over (h : ReachedLobby localeCompare state) :
    (∃ text, serializeSnapshot localeCompare state = .ok text ∧
      parseSnapshot localeCompare text = .ok state) ∧
    ((occupants state.seats).map PlayerSeat.playerId).Nodup ∧
    (slotAt state.seats 0).map PlayerSeat.playerId = some state.creatorId ∧
    (∀ i seat, slotAt state.seats i = some seat → i < state.maximumPlayers) ∧
    ∀ lobby, state.toInProgress = some lobby →
      ∃ active, initializeGameplayAggregate lobby = some active ∧
        isValidActiveGameplayAggregateState active = true ∧
        active.stateVersion = state.stateVersion ∧
        active.players = mapSlots (fun _ => PlayerSeat.toPlayer) state.seats ∧
        active.rng = state.rng ∧ active.startedAtMs = lobby.startedAtMs ∧
        active.gameEndAtMs = lobby.gameEndAtMs ∧
        active.turn.currentSeatIndex = lobby.turn.currentSeatIndex ∧
        active.turn.startedAtMs = lobby.turn.startedAtMs ∧
        active.turn.deadlineAtMs = lobby.turn.deadlineAtMs := by
  have hsound := soundLobby_of_reached h
  refine ⟨parseSnapshot_serializeSnapshot hsound.fits hsound.coherent, hsound.ids, hsound.creator,
    fun i seat hseat => (hsound.seat i seat hseat).capacity, fun lobby hlobby => ?_⟩
  obtain ⟨hready, hjoined⟩ := hsound.ready hlobby
  obtain ⟨active, hactive⟩ := hready.exists_aggregate
  refine ⟨active, hactive, isValidActive_iff.2 (hready.valid hjoined hactive), ?_⟩
  unfold initializeGameplayAggregate at hactive
  split_ifs at hactive
  cases hactive
  unfold GameState.toInProgress at hlobby
  split at hlobby
  · cases hlobby
    exact ⟨rfl, rfl, rfl, rfl, rfl, rfl, rfl, rfl⟩
  · cases hlobby

/-- What the lobby of a duel is asked with. -/
def duelContext (actorId : String) (nowMs : ℤ) : TransitionContext where
  actorId := actorId
  nowMs := nowMs
  randomSource := scriptedSource [] ⟨"scripted", "start", 0, 0⟩

/-- A comparison of names that ignores case, as far as names differ in more than that. -/
def compareLetters (left right : String) : ℤ :=
  if left.toLower < right.toLower then -1 else if left.toLower = right.toLower then 0 else 1

def duelLobby (stateVersion : ℤ) (guest : Option PlayerSeat) (lifecycle : GameLifecycle) :
    GameState where
  stateVersion := stateVersion
  gameId := "duel"
  creatorId := "host"
  minimumPlayers := 2
  maximumPlayers := 2
  seats := [some (createSeat "host" 0 100), guest, none, none]
  bankCash := 1000000
  freeParkingPool := 0
  housesRemaining := 32
  hotelsRemaining := 12
  createdAtMs := 100
  timeLimitMs := some 60000
  turnTimeoutMs := 90000
  rng := ⟨"scripted", "start", 0, 0⟩
  lifecycle := lifecycle

/-- The duel once its host has started it. -/
def startedDuel : GameState :=
  duelLobby 3 (some (createSeat "guest" 1 200)) (.inProgress 300 (some 60300) ⟨0, 300, 90300⟩)

theorem duelLobby_created : ReachedLobby compareLetters (duelLobby 1 none .waitingForPlayers) := by
  have hcreate : transition none ⟨0, .createGame "duel" 2 (some 60000)⟩ (duelContext "host" 100) =
      .ok (duelLobby 1 none .waitingForPlayers, [.gameCreated "host"]) := by
    rfl
  exact .created (by decide) (by decide) hcreate

theorem duelLobby_join : transition (some (duelLobby 1 none .waitingForPlayers)) ⟨1, .joinGame⟩
    (duelContext "guest" 200) =
    .ok (duelLobby 2 (some (createSeat "guest" 1 200)) .waitingForPlayers,
      [.playerJoined "guest" 1 2]) := by
  rfl

/-- The host creates the duel, a guest joins, and the host starts it after a restart: the lobby
hands over its game. -/
theorem lobby_hands_over_duel : ReachedLobby compareLetters startedDuel ∧
    ∃ lobby active, startedDuel.toInProgress = some lobby ∧
      initializeGameplayAggregate lobby = some active ∧
      isValidActiveGameplayAggregateState active = true ∧ active.stateVersion = 3 ∧
      active.gameEndAtMs = some 60300 ∧ active.turn.deadlineAtMs = 90300 := by
  have hstart : transition (some (duelLobby 2 (some (createSeat "guest" 1 200)) .waitingForPlayers))
      ⟨2, .startGame⟩ (duelContext "host" 300) = .ok (startedDuel, [.gameStarted 2]) := by
    rfl
  have hjoined := ReachedLobby.command duelLobby_created (by decide) duelLobby_join
  obtain ⟨⟨text, htext, hparse⟩, -⟩ := lobby_hands_over hjoined
  have hstarted : ReachedLobby compareLetters startedDuel :=
    .command (.restored hjoined htext hparse) (by decide) hstart
  obtain ⟨-, -, -, -, hhandover⟩ := lobby_hands_over hstarted
  obtain ⟨active, hactive, hvalid, hversion, -, -, -, hend, -, -, hdeadline⟩ := hhandover _ rfl
  exact ⟨hstarted, _, active, rfl, hactive, hvalid, hversion, hend, hdeadline⟩

end Pootown
