import Mathlib.Tactic
import Pootown.Model.Validity

/-!
# The first aggregate of a game

What the checks on a lobby establish, and what they make of the first aggregate.

* `ReadyLobby`: the checks as a structure, `validLifecycleInput_iff`;
* `ReadyLobby.liquidatable`: its first aggregate has a sound table, and `ReadyLobby.valid`: it is
  valid, when nobody joined after the start.
-/

namespace Pootown

open Slots

/-- The checks on a lobby that hands over its game. -/
structure ReadyLobby (state : InProgressGameState) : Prop where
  gameId : validOpaqueId state.gameId = true
  creatorId : validOpaqueId state.creatorId = true
  version : 1 ≤ state.stateVersion ∧ state.stateVersion ≤ maxStateVersion
  minimum : state.minimumPlayers = 2
  maximum : 2 ≤ state.maximumPlayers ∧ state.maximumPlayers ≤ 4
  length_seats : state.seats.length = 4
  bank : state.bankCash = 1000000
  pool : state.freeParkingPool = 0
  houses : state.housesRemaining = 32
  hotels : state.hotelsRemaining = 12
  created : IsSafeInteger state.createdAtMs ∧ 0 ≤ state.createdAtMs
  started : IsSafeInteger state.startedAtMs ∧ state.createdAtMs ≤ state.startedAtMs
  timeout : state.turnTimeoutMs = 90000
  limit : ∀ timeLimitMs, state.timeLimitMs = some timeLimitMs →
    1 ≤ timeLimitMs ∧ timeLimitMs ≤ 86400000
  gameEnd : state.gameEndAtMs = state.timeLimitMs.map fun timeLimitMs =>
    state.startedAtMs + timeLimitMs
  gameEnd_safe : ∀ gameEndAtMs, state.gameEndAtMs = some gameEndAtMs → IsSafeInteger gameEndAtMs
  turnStart : state.turn.startedAtMs = state.startedAtMs
  deadline : IsSafeInteger state.turn.deadlineAtMs ∧
    state.turn.deadlineAtMs = state.turn.startedAtMs + 90000
  rng : ValidRandomCheckpoint state.rng
  seat : ∀ i seat, slotAt state.seats i = some seat → ValidPlayerSeat state i seat
  ids : ((occupants state.seats).map PlayerSeat.playerId).Nodup
  enough : 2 ≤ (occupants state.seats).length
  creator : (slotAt state.seats 0).map PlayerSeat.playerId = some state.creatorId
  firstSeat : state.turn.currentSeatIndex = 0

theorem validLifecycleInput_iff {state : InProgressGameState} :
    validLifecycleInput state = true ↔ ReadyLobby state := by
  simp only [validLifecycleInput, Bool.and_eq_true, decide_eq_true_eq, everySlot_eq_true,
    Option.mem_def]
  constructor
  · rintro ⟨⟨⟨⟨⟨⟨⟨⟨⟨⟨⟨⟨⟨⟨⟨⟨⟨⟨⟨hgame, hcreatorId⟩, hversion⟩, hmin⟩, hmax⟩, hlen⟩, hbank, hpool⟩,
      hhouses, hhotels⟩, hc, hc0, hs, hcs⟩, htimeout⟩, hlimit⟩, hend⟩, hsafe⟩, hturn, hd, hdeq⟩,
      hrng⟩, hseat⟩, hids⟩, henough⟩, hcreator⟩, hfirst⟩
    exact {
      gameId := hgame
      creatorId := hcreatorId
      version := hversion
      minimum := hmin
      maximum := hmax
      length_seats := hlen
      bank := hbank
      pool := hpool
      houses := hhouses
      hotels := hhotels
      created := ⟨hc, hc0⟩
      started := ⟨hs, hcs⟩
      timeout := htimeout
      limit := hlimit
      gameEnd := hend
      gameEnd_safe := hsafe
      turnStart := hturn
      deadline := ⟨hd, hdeq⟩
      rng := hrng
      seat := hseat
      ids := hids
      enough := by rwa [hmin] at henough
      creator := hcreator
      firstSeat := hfirst }
  · intro h
    exact ⟨⟨⟨⟨⟨⟨⟨⟨⟨⟨⟨⟨⟨⟨⟨⟨⟨⟨⟨h.gameId, h.creatorId⟩, h.version⟩, h.minimum⟩, h.maximum⟩,
      h.length_seats⟩, h.bank, h.pool⟩, h.houses, h.hotels⟩, h.created.1, h.created.2, h.started.1,
      h.started.2⟩, h.timeout⟩, h.limit⟩, h.gameEnd⟩, h.gameEnd_safe⟩, h.turnStart, h.deadline.1,
      h.deadline.2⟩, h.rng⟩, h.seat⟩, h.ids⟩,
      h.minimum.symm ▸ h.enough⟩, h.creator⟩, h.firstSeat⟩

theorem initializeGameplayAggregate_ready {lobby : InProgressGameState}
    {active : ActiveGameplayAggregateState} (h : initializeGameplayAggregate lobby = some active) :
    ReadyLobby lobby := by
  unfold initializeGameplayAggregate at h
  split_ifs at h with hinvalid
  exact validLifecycleInput_iff.1 (Bool.not_eq_false _ ▸ hinvalid)

theorem unowned_createPropertyStates {i : ℕ} {property : PropertyState}
    (h : createPropertyStates[i]? = some property) : property.ownerSeatIndex = none := by
  rw [createPropertyStates, List.getElem?_map] at h
  obtain ⟨space, -, rfl⟩ := Option.map_eq_some_iff.1 h
  rfl

theorem stock_createPropertyStates :
    isValidBuildingInventory createPropertyStates ⟨32, 12⟩ = true := by
  decide +kernel

namespace ReadyLobby

variable {lobby : InProgressGameState} {active : ActiveGameplayAggregateState}

/-- The player that a seat of a ready lobby becomes keeps the rules of bankruptcy. -/
theorem rules (h : ReadyLobby lobby) {i : ℕ} {seat : PlayerSeat}
    (hslot : slotAt lobby.seats i = some seat) :
    ValidBankruptcyPlayer seat.toPlayer.toBankruptcyPlayerState i := by
  obtain ⟨hseat, hactive, -, hcash, hposition, hjail, -⟩ := h.seat i seat hslot
  obtain ⟨seatIndex, playerId, status, cash, position, inJail, joinedAtMs⟩ := seat
  simp only at hseat hactive hcash hposition hjail
  subst hseat hactive hcash hposition hjail
  exact {
    seatIndex_eq := rfl
    cash := by simp [PlayerSeat.toPlayer]; decide
    position_lt := by simp [PlayerSeat.toPlayer]
    jailTurns_le := Nat.zero_le _
    consecutiveDoubles_le := Nat.zero_le _
    missedTurns_le := Nat.zero_le _
    cards_le := Nat.zero_le _
    jail := by simp [JailCoupled, PlayerSeat.toPlayer]
    eliminated := fun hout => nomatch hout }

/-- The table of the first aggregate can be liquidated. -/
theorem liquidatable (h : ReadyLobby lobby) :
    isValidBankruptcyState (bankruptcyPlayers (mapSlots (fun _ => PlayerSeat.toPlayer) lobby.seats))
      createPropertyStates ⟨32, 12⟩ 1000000 = true := by
  refine isValidBankruptcyState_iff.2 ⟨?_, by decide, stock_createPropertyStates, ?_, ?_⟩
  · simpa [bankruptcyPlayers] using h.length_seats
  · intro i player hslot
    rw [slotAt_bankruptcyPlayers, slotAt_mapSlots] at hslot
    obtain ⟨_, hplayer, rfl⟩ := Option.map_eq_some_iff.1 hslot
    obtain ⟨seat, hseat, rfl⟩ := Option.map_eq_some_iff.1 hplayer
    exact h.rules hseat
  · refine ownersActive_iff.2 fun i property owner hi howner => ?_
    rw [unowned_createPropertyStates hi] at howner
    cases howner

/-- A ready lobby has a first aggregate. -/
theorem exists_aggregate (h : ReadyLobby lobby) :
    ∃ active, initializeGameplayAggregate lobby = some active := by
  rw [initializeGameplayAggregate, if_neg (by rw [validLifecycleInput_iff.2 h]; decide)]
  exact ⟨_, rfl⟩

theorem validPlayer (h : ReadyLobby lobby)
    (hjoined : ∀ i seat, slotAt lobby.seats i = some seat → seat.joinedAtMs ≤ lobby.startedAtMs)
    {i : ℕ} {seat : PlayerSeat} (hslot : slotAt lobby.seats i = some seat) :
    ValidPlayer lobby.startedAtMs i seat.toPlayer := by
  obtain ⟨hseat, -, hid, -, -, -, hsafe, hcreated, -⟩ := h.seat i seat hslot
  exact ⟨h.rules hslot, hseat, hid, hsafe, h.created.2.trans hcreated, hjoined i seat hslot⟩

/-- The first aggregate of a ready lobby is valid, when nobody joined after the start. -/
theorem valid (h : ReadyLobby lobby)
    (hjoined : ∀ i seat, slotAt lobby.seats i = some seat → seat.joinedAtMs ≤ lobby.startedAtMs)
    (hactive : initializeGameplayAggregate lobby = some active) : ValidActive active := by
  unfold initializeGameplayAggregate at hactive
  split_ifs at hactive
  cases hactive
  have hids : ((occupants (mapSlots (fun _ => PlayerSeat.toPlayer) lobby.seats)).map
      GameplayPlayerState.playerId).Nodup := by
    rw [occupants_mapSlots, List.map_map]
    exact h.ids
  have hend : ∀ gameEndAtMs, lobby.gameEndAtMs = some gameEndAtMs →
      IsSafeInteger gameEndAtMs ∧ lobby.startedAtMs ≤ gameEndAtMs := by
    intro gameEndAtMs hend
    refine ⟨h.gameEnd_safe gameEndAtMs hend, ?_⟩
    rw [h.gameEnd] at hend
    obtain ⟨limit, hlimit, rfl⟩ := Option.map_eq_some_iff.1 hend
    have hpos := (h.limit limit hlimit).1
    omega
  obtain ⟨creator, hcreator, -⟩ := Option.map_eq_some_iff.1 h.creator
  have hstart : IsSafeInteger lobby.turn.startedAtMs ∧ 0 ≤ lobby.turn.startedAtMs :=
    h.turnStart ▸ ⟨h.started.1, h.created.2.trans h.started.2⟩
  have hturn : ValidTurn {
      phase := .awaitingRoll
      currentSeatIndex := lobby.turn.currentSeatIndex
      startedAtMs := lobby.turn.startedAtMs
      deadlineAtMs := lobby.turn.deadlineAtMs
      emittedWarnings := [] } := by
    refine ⟨⟨?_, hstart.1, hstart.2, h.deadline.1, h.deadline.2⟩, by simp, by simp, ?_⟩
    · show lobby.turn.currentSeatIndex < 4
      rw [h.firstSeat]
      decide
    · intro position hposition
      cases hposition
  refine ⟨?_, ?_, ?_, ?_⟩
  · exact {
      gameId := h.gameId
      version := h.version
      freeParking := by rw [h.pool]; exact isMatchCash_zero
      startedAt := ⟨h.started.1, h.created.2.trans h.started.2⟩
      gameEndAt := hend
      rng := h.rng }
  · refine validTable_iff.2 ⟨?_, ?_⟩
    · have hliquidatable := h.liquidatable
      rw [← h.bank] at hliquidatable
      simpa [GameplayAggregateStateBase.inventory, h.houses, h.hotels] using hliquidatable
    · simp only [validGameplayPlayerSlots, Bool.and_eq_true, everySlot_eq_true, decide_eq_true_eq]
      refine ⟨fun i player hplayer => ?_, hids⟩
      rw [slotAt_mapSlots] at hplayer
      obtain ⟨seat, hseat, rfl⟩ := Option.map_eq_some_iff.1 hplayer
      exact (h.validPlayer hjoined hseat).slot
  · intro trade htrade
    cases htrade
  · exact {
      turn_valid := hturn
      started_le := h.turnStart.ge
      dice_valid := fun roll hroll => by cases hroll
      dice_of_phase := fun hphase => absurd rfl hphase
      current := ⟨creator.toPlayer, by rw [h.firstSeat, slotAt_mapSlots, hcreator]; rfl,
        (h.seat 0 creator hcreator).2.1, trivial⟩
      bankruptcy := .inl ⟨rfl, by simp⟩ }

end ReadyLobby

end Pootown
