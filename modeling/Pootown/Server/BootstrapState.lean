import Mathlib.Tactic
import Pootown.Serialization.Snapshot

/-!
# The first state of a room

A room without a checkpoint starts from what the API says of its session.

* `createWaitingState`: the waiting lobby of a session, sent through its own snapshot;
* `createWaitingState_eq_ok`: the lobby it gives is the one it built, within its ranges and
  coherent.
-/

namespace Pootown

open Fallible Slots Snapshot

inductive BootstrapLifecycle
  | opened | active | settling | settled | recoveryRequired
  deriving DecidableEq

structure BootstrapPlayer where
  playerId : String
  seatIndex : ℕ
  joinedAtMs : ℤ

/-- What the API says of a session, as far as its first state is built from it. -/
structure SessionBootstrapResponse where
  gameId : String
  lifecycle : BootstrapLifecycle
  stateVersion : ℤ
  creatorPlayerId : String
  maximumPlayers : ℕ
  timeLimitMs : Option ℤ
  createdAtMs : ℤ
  startedAtMs : Option ℤ
  players : List BootstrapPlayer

/-- An assignment to an element of an array.  Beyond its end the array grows, with empty slots in
between. -/
def assignSeat (seats : List (Option PlayerSeat)) (index : ℕ) (seat : PlayerSeat) :
    List (Option PlayerSeat) :=
  if index < seats.length then seats.set index (some seat)
  else seats ++ List.replicate (index - seats.length) none ++ [some seat]

/-- The `gameId` and `playerId` of the identifiers. -/
def assertOpaqueId (value label : String) : Except SnapshotError String := do
  require (validOpaqueId value = true) (label ++ " must be a valid opaque identifier")
  return value

def bootstrapSeats : List BootstrapPlayer → List (Option PlayerSeat) →
    Except SnapshotError (List (Option PlayerSeat))
  | [], seats => .ok seats
  | player :: players, seats => do
    let playerId ← assertOpaqueId player.playerId "playerId"
    bootstrapSeats players (assignSeat seats player.seatIndex {
      seatIndex := player.seatIndex
      playerId := playerId
      status := .active
      cash := GameplayPolicy.startingMatchCash
      position := 0
      inJail := false
      joinedAtMs := player.joinedAtMs })

/-- What the source throws when it has no checkpoint is not modelled. -/
def createWaitingState (localeCompare : String → String → ℤ)
    (bootstrap : SessionBootstrapResponse) (randomSource : RandomSource) :
    Except SnapshotError GameState := do
  require (bootstrap.lifecycle = .opened ∧ bootstrap.stateVersion = 0 ∧
      bootstrap.startedAtMs = none)
    "Only a pristine open session can be initialized without a checkpoint"
  let seats ← bootstrapSeats bootstrap.players
    (List.replicate GameplayPolicy.maximumPlayers none)
  let gameId ← assertOpaqueId bootstrap.gameId "gameId"
  let creatorId ← assertOpaqueId bootstrap.creatorPlayerId "playerId"
  let rng ← requireSome (randomSource.checkpoint randomSource.cursor) "checkpoint"
  let state : GameState := {
    stateVersion := 1
    gameId := gameId
    creatorId := creatorId
    minimumPlayers := GameplayPolicy.minimumPlayers
    maximumPlayers := bootstrap.maximumPlayers
    seats := seats
    bankCash := GameplayPolicy.startingBankCash
    freeParkingPool := 0
    housesRemaining := 32
    hotelsRemaining := 12
    createdAtMs := bootstrap.createdAtMs
    timeLimitMs := bootstrap.timeLimitMs
    turnTimeoutMs := GameplayPolicy.turnTimeoutMs
    rng := rng
    lifecycle := .waitingForPlayers }
  let text ← serializeSnapshot localeCompare state
  parseSnapshot localeCompare text

/-! ### What it gives -/

/-- Every seat is as a player takes it, at the index it says. -/
def FreshSeats (seats : List (Option PlayerSeat)) : Prop :=
  ∀ i seat, slotAt seats i = some seat →
    seat = createSeat seat.playerId seat.seatIndex seat.joinedAtMs

theorem FreshSeats.assign {seats : List (Option PlayerSeat)} {index : ℕ} {seat : PlayerSeat}
    (h : FreshSeats seats) (hseat : seat = createSeat seat.playerId seat.seatIndex seat.joinedAtMs) :
    FreshSeats (assignSeat seats index seat) := by
  intro i other hother
  have hmem : some other ∈ assignSeat seats index seat :=
    List.mem_of_getElem? (slotAt_eq_some.1 hother)
  have hcases : other = seat ∨ some other ∈ seats := by
    unfold assignSeat at hmem
    split_ifs at hmem
    · rcases List.mem_or_eq_of_mem_set hmem with hold | hnew
      · exact .inr hold
      · exact .inl (Option.some.inj hnew)
    · simpa [or_comm] using hmem
  rcases hcases with rfl | hold
  · exact hseat
  · obtain ⟨j, hj⟩ := List.mem_iff_getElem?.1 hold
    exact h j other (slotAt_eq_some.2 hj)

theorem freshSeats_bootstrap {players : List BootstrapPlayer}
    {seats seats' : List (Option PlayerSeat)} (h : FreshSeats seats)
    (hseats : bootstrapSeats players seats = .ok seats') : FreshSeats seats' := by
  induction players generalizing seats with
  | nil =>
    cases hseats
    exact h
  | cons player players ih =>
    simp only [bootstrapSeats, bind_eq_ok] at hseats
    obtain ⟨playerId, -, hseats⟩ := hseats
    exact ih (h.assign rfl) hseats

/-- The lobby of a session: what the API does not say is as in every new game. -/
structure BootstrappedLobby (state : GameState) : Prop where
  fits : StateFits state
  coherent : Coherent state
  fresh : FreshSeats state.seats
  version : state.stateVersion = 1
  bank : state.bankCash = 1000000
  pool : state.freeParkingPool = 0
  houses : state.housesRemaining = 32
  hotels : state.hotelsRemaining = 12
  waiting : state.lifecycle = .waitingForPlayers

theorem createWaitingState_eq_ok {localeCompare : String → String → ℤ}
    {bootstrap : SessionBootstrapResponse} {randomSource : RandomSource} {state : GameState}
    (h : createWaitingState localeCompare bootstrap randomSource = .ok state) :
    BootstrappedLobby state := by
  simp only [createWaitingState, bind_eq_ok, require_eq_ok, exists_const, requireSome_eq_ok] at h
  obtain ⟨-, seats, hseats, gameId, -, creatorId, -, rng, -, text, htext, hparse⟩ := h
  obtain ⟨hfits, hcheck, hround⟩ := fits_of_serializeSnapshot htext
  have hfresh : FreshSeats seats := by
    refine freshSeats_bootstrap (fun i seat hseat => ?_) hseats
    have hmem := List.mem_of_getElem? (slotAt_eq_some.1 hseat)
    cases List.eq_of_mem_replicate hmem
  rw [hround] at hparse
  cases hparse
  exact {
    fits := hfits
    coherent := hcheck
    fresh := hfresh
    version := rfl
    bank := rfl
    pool := rfl
    houses := rfl
    hotels := rfl
    waiting := rfl }

end Pootown
