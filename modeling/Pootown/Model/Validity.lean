import Mathlib.Tactic
import Pootown.Model.Aggregate

/-!
# The invariant of an aggregate

The validators, cut into named parts that the transitions preserve one by one.

* `ValidTable`: seats, ownership, stock and bank; `ValidTable.mapSlots` and its relatives say which
  updates of the players keep it;
* `ValidHeader`: versions, times, the free-parking pool and the random checkpoint;
* `TurnCoupled`: the turn against the current player, the dice and the pending bankruptcy;
* `ValidActive`, `ValidFinished`: the two validators as structures of these parts.
-/

namespace Pootown

open Slots

/-! ### Seats, ownership and stock -/

/-- A player at `index` of a game started at `startedAtMs`. -/
structure ValidPlayer (startedAtMs : ℤ) (index : ℕ) (player : GameplayPlayerState) : Prop where
  rules : ValidBankruptcyPlayer player.toBankruptcyPlayerState index
  slot : ValidPlayerSlot startedAtMs index player

/-- The seats, the property table, the stock and the bank fit together. -/
structure ValidTable (players : List (Option GameplayPlayerState))
    (properties : List PropertyState) (inventory : BuildingInventory) (bankCash startedAtMs : ℤ) :
    Prop where
  length_players : players.length = 4
  bank : IsMatchCash bankCash
  stock : isValidBuildingInventory properties inventory = true
  player : ∀ i p, slotAt players i = some p → ValidPlayer startedAtMs i p
  owner : ∀ (i : ℕ) (property : PropertyState) (owner : ℕ), properties[i]? = some property →
    property.ownerSeatIndex = some owner →
    ∃ p, slotAt players owner = some p ∧ p.status = .active
  ids : ((occupants players).map GameplayPlayerState.playerId).Nodup

theorem slotAt_bankruptcyPlayers (players : List (Option GameplayPlayerState)) (i : ℕ) :
    slotAt (bankruptcyPlayers players) i
      = (slotAt players i).map GameplayPlayerState.toBankruptcyPlayerState :=
  slotAt_mapSlots ..

theorem ownersActive_bankruptcyPlayers {players : List (Option GameplayPlayerState)}
    {properties : List PropertyState} :
    ownersActive (bankruptcyPlayers players) properties = true ↔
      ∀ (i : ℕ) (property : PropertyState) (owner : ℕ), properties[i]? = some property →
        property.ownerSeatIndex = some owner →
        ∃ p, slotAt players owner = some p ∧ p.status = .active := by
  simp only [ownersActive_iff, slotAt_bankruptcyPlayers, Option.map_eq_some_iff]
  constructor
  · intro h i property owner hp howner
    obtain ⟨_, ⟨p, hp, rfl⟩, hactive⟩ := h i property owner hp howner
    exact ⟨p, hp, hactive⟩
  · intro h i property owner hp howner
    obtain ⟨p, hp, hactive⟩ := h i property owner hp howner
    exact ⟨_, ⟨p, hp, rfl⟩, hactive⟩

theorem validTable_iff {players : List (Option GameplayPlayerState)}
    {properties : List PropertyState} {inventory : BuildingInventory} {bankCash startedAtMs : ℤ} :
    ValidTable players properties inventory bankCash startedAtMs ↔
      isValidBankruptcyState (bankruptcyPlayers players) properties inventory bankCash = true ∧
      validGameplayPlayerSlots players startedAtMs = true := by
  simp only [isValidBankruptcyState_iff, validGameplayPlayerSlots, Bool.and_eq_true,
    decide_eq_true_eq, everySlot_eq_true, ownersActive_bankruptcyPlayers,
    slotAt_bankruptcyPlayers, Option.map_eq_some_iff]
  constructor
  · intro h
    refine ⟨⟨by simpa [bankruptcyPlayers] using h.length_players, h.bank, h.stock, ?_, h.owner⟩,
      fun i p hp => (h.player i p hp).slot, h.ids⟩
    rintro i _ ⟨p, hp, rfl⟩
    exact (h.player i p hp).rules
  · rintro ⟨⟨hlen, hbank, hstock, hrules, howner⟩, hslot, hids⟩
    exact {
      length_players := by simpa [bankruptcyPlayers] using hlen
      bank := hbank
      stock := hstock
      player := fun i p hp => ⟨hrules i _ ⟨p, hp, rfl⟩, hslot i p hp⟩
      owner := howner
      ids := hids }

namespace ValidTable

variable {players : List (Option GameplayPlayerState)} {properties : List PropertyState}
  {inventory : BuildingInventory} {bankCash startedAtMs : ℤ}
  (h : ValidTable players properties inventory bankCash startedAtMs)
include h

theorem properties_valid : isValidPropertyStates properties = true :=
  (isValidBuildingInventory_iff.1 h.stock).1

theorem seat_lt {i : ℕ} {p : GameplayPlayerState} (hp : slotAt players i = some p) : i < 4 :=
  h.length_players ▸ lt_length_of_slotAt hp

theorem seatIndex_eq {i : ℕ} {p : GameplayPlayerState} (hp : slotAt players i = some p) :
    p.seatIndex = i :=
  (h.player i p hp).slot.1

theorem cash {i : ℕ} {p : GameplayPlayerState} (hp : slotAt players i = some p) :
    IsMatchCash p.cash :=
  (h.player i p hp).rules.cash

theorem toBankruptcy :
    isValidBankruptcyState (bankruptcyPlayers players) properties inventory bankCash = true :=
  (validTable_iff.1 h).1

end ValidTable

theorem map_occupants_mapSlots {β : Type} {f : ℕ → GameplayPlayerState → GameplayPlayerState}
    {g : GameplayPlayerState → β} {players : List (Option GameplayPlayerState)}
    (hg : ∀ i p, slotAt players i = some p → g (f i p) = g p) :
    (occupants (mapSlots f players)).map g = (occupants players).map g := by
  induction players generalizing f with
  | nil => rfl
  | cons o t ih =>
    have ht := ih (f := fun i => f (i + 1)) fun i p hp => hg (i + 1) p hp
    rw [mapSlots_cons]
    cases o with
    | none => simpa using ht
    | some p => simpa [hg 0 p rfl] using ht

/-- The parts of a player no transition changes in place. -/
structure SameIdentity (p q : GameplayPlayerState) : Prop where
  seatIndex : q.seatIndex = p.seatIndex
  playerId : q.playerId = p.playerId
  joinedAtMs : q.joinedAtMs = p.joinedAtMs

theorem SameIdentity.validSlot {p q : GameplayPlayerState} {startedAtMs : ℤ} {index : ℕ}
    (h : SameIdentity p q) (hp : ValidPlayerSlot startedAtMs index p) :
    ValidPlayerSlot startedAtMs index q := by
  obtain ⟨hs, hid, hsafe, h0, hle⟩ := hp
  exact ⟨h.seatIndex.trans hs, h.playerId ▸ hid, h.joinedAtMs ▸ hsafe, h.joinedAtMs ▸ h0,
    h.joinedAtMs ▸ hle⟩

namespace ValidTable

variable {players : List (Option GameplayPlayerState)} {properties properties' : List PropertyState}
  {inventory inventory' : BuildingInventory} {bankCash bankCash' startedAtMs : ℤ}

/-- Rewriting the players keeps the table valid when identities stay, the new players are valid,
and the owners of the new property table are active. -/
theorem rewrite {f : ℕ → GameplayPlayerState → GameplayPlayerState}
    (h : ValidTable players properties inventory bankCash startedAtMs)
    (hbank : IsMatchCash bankCash')
    (hstock : isValidBuildingInventory properties' inventory' = true)
    (hid : ∀ i p, slotAt players i = some p → SameIdentity p (f i p))
    (hrules : ∀ i p, slotAt players i = some p →
      ValidBankruptcyPlayer (f i p).toBankruptcyPlayerState i)
    (howner : ∀ (i : ℕ) (property : PropertyState) (owner : ℕ), properties'[i]? = some property →
      property.ownerSeatIndex = some owner →
      ∃ p, slotAt players owner = some p ∧ (f owner p).status = .active) :
    ValidTable (mapSlots f players) properties' inventory' bankCash' startedAtMs where
  length_players := by simpa using h.length_players
  bank := hbank
  stock := hstock
  player := by
    intro i q hq
    rw [slotAt_mapSlots] at hq
    obtain ⟨p, hp, rfl⟩ := Option.map_eq_some_iff.1 hq
    exact ⟨hrules i p hp, (hid i p hp).validSlot (h.player i p hp).slot⟩
  owner := by
    intro i property owner hp ho
    obtain ⟨p, hslot, hactive⟩ := howner i property owner hp ho
    exact ⟨f owner p, by rw [slotAt_mapSlots, hslot]; rfl, hactive⟩
  ids := by
    rw [map_occupants_mapSlots fun i p hp => (hid i p hp).playerId]
    exact h.ids

/-- Updating one seat in place. -/
theorem updateSeat {k : ℕ} {f : GameplayPlayerState → GameplayPlayerState}
    {p : GameplayPlayerState} (h : ValidTable players properties inventory bankCash startedAtMs)
    (hp : slotAt players k = some p) (hid : SameIdentity p (f p))
    (hstatus : (f p).status = p.status)
    (hrules : ValidBankruptcyPlayer (f p).toBankruptcyPlayerState k) :
    ValidTable (updateSlot k f players) properties inventory bankCash startedAtMs := by
  refine h.rewrite h.bank h.stock (fun i q hq => ?_) (fun i q hq => ?_) fun i property owner hi ho => ?_
  · split_ifs with hik
    · subst hik
      rw [hp] at hq
      cases hq
      exact hid
    · exact ⟨rfl, rfl, rfl⟩
  · split_ifs with hik
    · subst hik
      rw [hp] at hq
      cases hq
      exact hrules
    · exact (h.player i q hq).rules
  · obtain ⟨q, hq, hactive⟩ := h.owner i property owner hi ho
    refine ⟨q, hq, ?_⟩
    split_ifs with hik
    · subst hik
      rw [hp] at hq
      cases hq
      rw [hstatus, hactive]
    · exact hactive

/-- Replacing the property table and stock without giving anybody inactive a space. -/
theorem withProperties (h : ValidTable players properties inventory bankCash startedAtMs)
    (hstock : isValidBuildingInventory properties' inventory' = true)
    (howner : ∀ (i : ℕ) (property : PropertyState) (owner : ℕ), properties'[i]? = some property →
      property.ownerSeatIndex = some owner →
      ∃ p, slotAt players owner = some p ∧ p.status = .active) :
    ValidTable players properties' inventory' bankCash startedAtMs :=
  { h with stock := hstock, owner := howner }

/-- A building change keeps every owner, so it keeps the table valid. -/
theorem build {mutation : BuildingMutation}
    (h : ValidTable players properties inventory bankCash startedAtMs)
    (hb : BuildingChange properties inventory mutation) :
    ValidTable players mutation.properties mutation.inventory bankCash startedAtMs := by
  refine h.withProperties hb.valid fun i property owner hp ho => ?_
  have howners := congrArg (fun l => l[i]?) hb.owners
  simp only [List.getElem?_map, hp, Option.map_some] at howners
  obtain ⟨q, hq, hqo⟩ := Option.map_eq_some_iff.1 howners.symm
  exact h.owner i q owner hq (hqo.trans ho)

end ValidTable

/-! ### Header -/

/-- The remaining fields both lifecycles share. -/
structure ValidHeader (state : GameplayAggregateStateBase) : Prop where
  gameId : validOpaqueId state.gameId = true
  version : 1 ≤ state.stateVersion ∧ state.stateVersion ≤ maxStateVersion
  freeParking : IsMatchCash state.freeParkingPool
  startedAt : IsSafeInteger state.startedAtMs ∧ 0 ≤ state.startedAtMs
  gameEndAt : ∀ gameEndAtMs, state.gameEndAtMs = some gameEndAtMs →
    IsSafeInteger gameEndAtMs ∧ state.startedAtMs ≤ gameEndAtMs
  rng : ValidRandomCheckpoint state.rng

theorem validAggregateBase_iff {state : GameplayAggregateStateBase} :
    validAggregateBase state = true ↔ ValidHeader state ∧
      ValidTable state.players state.properties state.inventory state.bankCash
        state.startedAtMs := by
  simp only [validAggregateBase, Bool.and_eq_true, decide_eq_true_eq, validTable_iff,
    Option.mem_def]
  constructor
  · rintro ⟨⟨⟨⟨⟨⟨⟨hid, hver⟩, hpool⟩, hstart⟩, hend⟩, hrng⟩, htable⟩, hslots⟩
    exact ⟨⟨hid, hver, hpool, hstart, hend, hrng⟩, htable, hslots⟩
  · rintro ⟨⟨hid, hver, hpool, hstart, hend, hrng⟩, htable, hslots⟩
    exact ⟨⟨⟨⟨⟨⟨⟨hid, hver⟩, hpool⟩, hstart⟩, hend⟩, hrng⟩, htable⟩, hslots⟩

/-! ### The turn -/

/-- The turn against the current player, the dice and the pending bankruptcy. -/
structure TurnCoupled (players : List (Option GameplayPlayerState))
    (properties : List PropertyState) (turn : ActiveGameplayAggregateTurn)
    (bankruptcyRequiredSeatIndex : Option ℕ) (lastDice : Option DiceRoll) (startedAtMs : ℤ) :
    Prop where
  turn_valid : ValidTurn turn
  started_le : startedAtMs ≤ turn.startedAtMs
  dice_valid : ∀ roll, lastDice = some roll → ValidDice roll
  dice_of_phase : turn.phase ≠ .awaitingRoll → turn.phase ≠ .awaitingBankruptcy → lastDice ≠ none
  current : ∃ player, slotAt players turn.currentSeatIndex = some player ∧
    player.status = .active ∧ PhaseCoupled properties player turn.phase
  bankruptcy : (bankruptcyRequiredSeatIndex = none ∧ turn.phase ≠ .awaitingBankruptcy) ∨
    (bankruptcyRequiredSeatIndex = some turn.currentSeatIndex ∧ turn.phase = .awaitingBankruptcy)

/-- The validator of an aggregate in progress, as a structure. -/
structure ValidActive (state : ActiveGameplayAggregateState) : Prop where
  header : ValidHeader state.toGameplayAggregateStateBase
  table : ValidTable state.players state.properties state.inventory state.bankCash
    state.startedAtMs
  trades : ∀ trade ∈ state.activeTrades, ValidPendingTrade trade
  turn : TurnCoupled state.players state.properties state.turn state.bankruptcyRequiredSeatIndex
    state.lastDice state.startedAtMs

theorem isValidActive_iff {state : ActiveGameplayAggregateState} :
    isValidActiveGameplayAggregateState state = true ↔ ValidActive state := by
  have htrades : (cleanupExpiredTrades state.activeTrades 0).isSome = true ↔
      ∀ trade ∈ state.activeTrades, ValidPendingTrade trade := by
    rw [Option.isSome_iff_exists]
    exact ⟨fun ⟨_, hc⟩ => (cleanupExpiredTrades_eq_some hc).1,
      fun h => cleanupExpiredTrades_isSome h (by decide) le_rfl⟩
  unfold isValidActiveGameplayAggregateState
  simp only [Bool.and_eq_true, decide_eq_true_eq, htrades, validAggregateBase_iff,
    bankruptcyCoupled_iff, Option.mem_def]
  constructor
  · rintro ⟨⟨⟨⟨⟨⟨⟨⟨hhead, htable⟩, hturn⟩, hstart⟩, hdice⟩, hneed⟩, ht⟩, hcur⟩, hb⟩
    exact ⟨hhead, htable, ht, ⟨hturn, hstart, hdice, hneed, hcur, hb⟩⟩
  · rintro ⟨hhead, htable, ht, ⟨hturn, hstart, hdice, hneed, hcur, hb⟩⟩
    exact ⟨⟨⟨⟨⟨⟨⟨⟨hhead, htable⟩, hturn⟩, hstart⟩, hdice⟩, hneed⟩, ht⟩, hcur⟩, hb⟩

/-! ### The finished aggregate -/

/-- The active players as the terminal rules see them. -/
def activeTerminalPlayers (players : List (Option GameplayPlayerState)) :
    List TerminalPlayerState :=
  ((occupants players).filter fun player => player.status = .active).map
    GameplayPlayerState.toTerminal

/-- The validator of a finished aggregate, as a structure. -/
structure ValidFinished (state : FinishedGameplayAggregateState) : Prop where
  header : ValidHeader state.toGameplayAggregateStateBase
  table : ValidTable state.players state.properties state.inventory state.bankCash
    state.startedAtMs
  trades : state.activeTrades = []
  dice : state.lastDice = none
  terminal : ValidTerminal state
  players_ne : activeTerminalPlayers state.players ≠ []
  lastOne : state.terminal.reason = .lastPlayerStanding ∨ state.terminal.reason = .timeoutForfeit →
    (activeTerminalPlayers state.players).length = 1
  ranking : ∃ ranked, netWorths state.properties (activeTerminalPlayers state.players)
      = some ranked ∧ state.terminal.ranking = withRanks (sortRanked ranked) ∧
    (sortRanked ranked).head?.map RankedSeat.seatIndex = some state.terminal.winnerSeatIndex

theorem isValidFinished_iff {state : FinishedGameplayAggregateState} :
    isValidFinishedGameplayAggregateState state = true ↔ ValidFinished state := by
  unfold isValidFinishedGameplayAggregateState
  simp only [Bool.and_eq_true, decide_eq_true_eq, validAggregateBase_iff, Option.mem_def]
  simp only [expectedRanking, Option.map_eq_some_iff]
  constructor
  · rintro ⟨⟨⟨⟨⟨hhead, htable⟩, ht⟩, hd⟩, hterm⟩, ⟨hne, hone⟩, expected, ⟨ranked, hr, rfl⟩, hrank,
      hwin⟩
    exact {
      header := hhead
      table := htable
      trades := ht
      dice := hd
      terminal := hterm
      players_ne := by simpa [activeTerminalPlayers] using hne
      lastOne := by simpa [activeTerminalPlayers] using hone
      ranking := ⟨ranked, hr, hrank, Option.map_eq_some_iff.2 hwin⟩ }
  · intro h
    obtain ⟨ranked, hr, hrank, hwin⟩ := h.ranking
    refine ⟨⟨⟨⟨⟨h.header, h.table⟩, h.trades⟩, h.dice⟩, h.terminal⟩,
      ⟨by simpa [activeTerminalPlayers] using h.players_ne,
        by simpa [activeTerminalPlayers] using h.lastOne⟩,
      _, ⟨ranked, hr, rfl⟩, hrank, Option.map_eq_some_iff.1 hwin⟩

end Pootown
