import Mathlib.Tactic
import Pootown.Invariants.BuildingWorth
import Pootown.Invariants.JailRelease
import Pootown.Invariants.Reachable
import Pootown.Invariants.Streaks
import Pootown.Library.Tables

/-!
# What a turn can come to

Every command of the current player restarts the clock of the turn, but the turn has a budget.  A
roll uses up one of the rolls that are left, and what a landing leaves to do is done once, for at
most 200 of new cash; building and selling cost cash or buildings.  Trades and warnings spend
nothing.

* `movesLeft`: what the rolls and the landings of a turn can still come to;
* `budget`: the moves left, the cash, and what the buildings have cost, weighed so that each command
  of the current player costs 50;
* `GameplayStep.budget_le`, and `turn_within_budget`: along any run within one turn.
-/

namespace Pootown

open Fallible Slots Runs

/-! ### The budget -/

/-- The rolls a player may still have, if this turn is not over. -/
def rollAllowance (player : GameplayPlayerState) : ℕ :=
  if player.inJail then 4 else 3 - player.consecutiveDoubles

/-- The rolls left in a phase: after what is pending, the stored doubles earn the next. -/
def rollsLeft (player : GameplayPlayerState) (lastDice : Option DiceRoll) : TurnPhase → ℕ
  | .awaitingRoll => rollAllowance player
  | .awaitingEndTurn | .awaitingBankruptcy => 0
  | _ => if lastDice.any DiceRoll.isDoubles then rollAllowance player else 0

/-- What a landing leaves to do: a chance card can lead to the community chest, a community chest
card to no other card. -/
def pendingRank : TurnPhase → ℕ
  | .awaitingCardDraw .chance => 3
  | .awaitingCardDraw .communityChest => 2
  | .awaitingPropertyDecision _ | .awaitingRentPayment _ | .awaitingTaxPayment _ => 1
  | _ => 0

def movesLeft (player : GameplayPlayerState) (lastDice : Option DiceRoll) (phase : TurnPhase) : ℕ :=
  4 * rollsLeft player lastDice phase + pendingRank phase

/-- What the buildings on a space have cost. -/
def buildingCost (property : PropertyState) : ℤ :=
  ((boardSpaces[property.position]?).map fun definition => (definition.houseCost : ℤ)).getD 0 *
    buildingsOn property

/-- The cash of the players. -/
def playersCash (state : GameplayAggregateStateBase) : ℤ :=
  total (fun player => player.cash) state.players

/-- The moves that the current player has left. -/
def currentMoves (state : ActiveGameplayAggregateState) : ℕ :=
  (slotAt state.players state.turn.currentSeatIndex).elim 0 fun player =>
    movesLeft player state.lastDice state.turn.phase

def budget (state : ActiveGameplayAggregateState) : ℤ :=
  4 * playersCash state.toGameplayAggregateStateBase +
    3 * (state.properties.map buildingCost).sum + 850 * currentMoves state

/-- The commands that a turn is made of: those of the current player, with the draws of the server
among them. -/
def GameplayCommandBody.ofTurn : GameplayCommandBody → Bool
  | .trade _ | .timeout _ => false
  | _ => true

section Moves

variable {state : ActiveGameplayAggregateState} {current : GameplayPlayerState}
  {lastDice : Option DiceRoll} {phase : TurnPhase}

theorem currentMoves_of_slot
    (h : slotAt state.players state.turn.currentSeatIndex = some current) :
    currentMoves state = movesLeft current state.lastDice state.turn.phase := by
  rw [currentMoves, h]
  rfl

theorem currentMoves_bankruptcy (h : state.turn.phase = .awaitingBankruptcy) :
    currentMoves state = 0 := by
  rw [currentMoves, h]
  cases slotAt state.players state.turn.currentSeatIndex <;> rfl

theorem rollAllowance_le (player : GameplayPlayerState) : rollAllowance player ≤ 4 := by
  unfold rollAllowance
  split_ifs <;> omega

theorem rollAllowance_free {player : GameplayPlayerState} (h : player.inJail = false) :
    rollAllowance player = 3 - player.consecutiveDoubles := by
  rw [rollAllowance, h]
  rfl

theorem rollsLeft_le (player : GameplayPlayerState) (lastDice : Option DiceRoll)
    (phase : TurnPhase) : rollsLeft player lastDice phase ≤ 4 := by
  have hle := rollAllowance_le player
  unfold rollsLeft
  split
  · exact hle
  · omega
  · omega
  · split_ifs <;> omega

theorem movesLeft_le (player : GameplayPlayerState) (lastDice : Option DiceRoll)
    (phase : TurnPhase) : movesLeft player lastDice phase ≤ 19 := by
  have hrolls := rollsLeft_le player lastDice phase
  have hrank : pendingRank phase ≤ 3 := by
    unfold pendingRank
    split <;> omega
  unfold movesLeft
  omega

theorem movesLeft_congr {player player' : GameplayPlayerState}
    (hjail : player'.inJail = player.inJail)
    (hdoubles : player'.consecutiveDoubles = player.consecutiveDoubles) :
    movesLeft player' lastDice phase = movesLeft player lastDice phase := by
  have hsame : rollAllowance player' = rollAllowance player := by
    rw [rollAllowance, rollAllowance, hjail, hdoubles]
  cases phase <;> simp only [movesLeft, rollsLeft, hsame]

theorem currentMoves_congr (state : ActiveGameplayAggregateState)
    {active : ActiveGameplayAggregateState}
    {f : GameplayPlayerState → GameplayPlayerState}
    (hslot : slotAt active.players active.turn.currentSeatIndex =
      (slotAt state.players state.turn.currentSeatIndex).map f)
    (hf : ∀ player, (f player).inJail = player.inJail ∧
      (f player).consecutiveDoubles = player.consecutiveDoubles)
    (hdice : active.lastDice = state.lastDice) (hphase : active.turn.phase = state.turn.phase) :
    currentMoves active = currentMoves state := by
  rw [currentMoves, currentMoves, hslot, hdice, hphase]
  cases slotAt state.players state.turn.currentSeatIndex with
  | none => rfl
  | some player => exact movesLeft_congr (hf player).1 (hf player).2

/-- What is pending when nothing else is: the rolls that the doubles have earned. -/
def earnedRolls (player : GameplayPlayerState) (rolledDoubles : Bool) : ℕ :=
  if rolledDoubles then rollAllowance player else 0

theorem earnedRolls_le (player : GameplayPlayerState) (rolledDoubles : Bool) :
    earnedRolls player rolledDoubles ≤ rollAllowance player := by
  unfold earnedRolls
  split_ifs <;> omega

theorem movesLeft_settled (player : GameplayPlayerState) (rolledDoubles : Bool) :
    movesLeft player lastDice (settledPhase rolledDoubles) =
      4 * earnedRolls player rolledDoubles := by
  cases rolledDoubles <;> rfl

/-- In a phase that waits for the player to deal with a landing. -/
theorem movesLeft_pending {player : GameplayPlayerState} (h : pendingRank phase ≠ 0) :
    movesLeft player lastDice phase =
      4 * earnedRolls player (lastDice.any DiceRoll.isDoubles) + pendingRank phase := by
  cases phase <;> first | rfl | exact absurd rfl h

end Moves

/-! ### Landings -/

section Landings

variable {state : ActiveGameplayAggregateState} {player : GameplayPlayerState}
  {lastDice : Option DiceRoll}

/-- What landing on a space can leave to do. -/
def landingRank (definition : BoardSpaceDefinition) : ℕ :=
  match definition.propertyType with
  | .chance => 3
  | .communityChest => 2
  | .corner => 0
  | _ => 1

theorem landingRank_le (definition : BoardSpaceDefinition) : landingRank definition ≤ 3 := by
  unfold landingRank
  split <;> omega

theorem landingPhase_rank {properties : List PropertyState} {definition : BoardSpaceDefinition}
    {position seat : ℕ} {settled phase : TurnPhase}
    (h : landingPhase properties definition position seat settled = some phase) :
    phase = settled ∨ pendingRank phase ≠ 0 ∧ pendingRank phase ≤ landingRank definition := by
  have hownable : landingRank definition = 1 →
      ((properties[position]?).map fun property =>
        if property.ownerSeatIndex = none then .awaitingPropertyDecision position
        else if property.ownerSeatIndex ≠ some seat ∧ property.mortgaged = false then
          .awaitingRentPayment position
        else settled) = some phase →
      phase = settled ∨ pendingRank phase ≠ 0 ∧ pendingRank phase ≤ landingRank definition := by
    intro hone hmap
    obtain ⟨property, -, rfl⟩ := Option.map_eq_some_iff.1 hmap
    split_ifs
    · exact .inr ⟨by simp [pendingRank], by simp [pendingRank, hone]⟩
    · exact .inr ⟨by simp [pendingRank], by simp [pendingRank, hone]⟩
    · exact .inl rfl
  unfold landingPhase at h
  cases htype : definition.propertyType with
  | street | railroad | utility =>
    exact hownable (by simp [landingRank, htype]) (by simpa only [htype] using h)
  | chance | communityChest | tax =>
    simp only [htype, Option.some.injEq] at h
    subst h
    exact .inr ⟨by simp [pendingRank], by simp [pendingRank, landingRank, htype]⟩
  | corner =>
    simp only [htype, Option.some.injEq] at h
    exact .inl h.symm

/-- A landing leaves the rolls that the stored doubles have earned, and what the space asks for. -/
theorem currentMoves_landing {active : ActiveGameplayAggregateState} {position : ℕ} {nowMs : ℤ}
    {rolledDoubles : Bool} (rolls rank : ℕ)
    (hslot : slotAt active.players active.turn.currentSeatIndex = some player)
    (hturn : createGameplayLandingTurn state position state.turn.currentSeatIndex nowMs
      rolledDoubles = some active.turn)
    (hdoubles : rolledDoubles = true → active.lastDice.any DiceRoll.isDoubles = true)
    (hrolls : earnedRolls player (active.lastDice.any DiceRoll.isDoubles) ≤ rolls)
    (hrank : ∀ space, boardSpaces[position]? = some space → landingRank space ≤ rank) :
    currentMoves active ≤ 4 * rolls + rank := by
  obtain ⟨space, phase, hspace, -, hphase, hturn⟩ := createGameplayLandingTurn_eq_some hturn
  have hle := hrank space hspace
  rw [currentMoves_of_slot hslot, hturn]
  rcases landingPhase_rank hphase with rfl | ⟨hpending, hmost⟩
  · rw [movesLeft_settled]
    cases rolledDoubles with
    | true =>
      rw [hdoubles rfl] at hrolls
      omega
    | false => exact Nat.zero_le _
  · rw [movesLeft_pending hpending]
    omega

end Landings

/-! ### Buildings -/

section Buildings

variable {properties properties' : List PropertyState}

theorem map_buildingCost {f : PropertyState → PropertyState}
    (h : ∀ property, buildingCost (f property) = buildingCost property) :
    (properties.map f).map buildingCost = properties.map buildingCost := by
  rw [List.map_map]
  exact List.map_congr_left fun property _ => h property

theorem sum_buildingCost_nonneg (properties : List PropertyState) :
    0 ≤ (properties.map buildingCost).sum := by
  refine List.sum_nonneg fun x hx => ?_
  obtain ⟨property, -, rfl⟩ := List.mem_map.1 hx
  have hcost : (0 : ℤ) ≤ ((boardSpaces[property.position]?).map
      fun definition => (definition.houseCost : ℤ)).getD 0 := by
    cases boardSpaces[property.position]? with
    | none => exact le_rfl
    | some definition => exact Nat.cast_nonneg _
  have hbuildings : 0 ≤ buildingsOn property := by
    unfold buildingsOn
    split_ifs <;> omega
  exact mul_nonneg hcost hbuildings

theorem OneBuilding.cost {seat position : ℕ} {definition : BoardSpaceDefinition} {built : ℤ}
    (h : OneBuilding seat position definition properties properties' built) :
    (properties'.map buildingCost).sum =
      (properties.map buildingCost).sum + definition.houseCost * built := by
  obtain ⟨property, houses, hasHotel, hrebuilt, hbuilt⟩ := h
  have hpos : property.position = position := position_of_getElem? hrebuilt.valid hrebuilt.found
  have hspace : boardSpaces[property.position]? = some definition := hpos ▸ hrebuilt.space
  rw [hrebuilt.table, sum_replaceProperty hrebuilt.valid hrebuilt.found]
  simp only [buildingCost, hspace, Option.map_some, Option.getD_some, hbuilt]
  ring

/-- Only streets are built on. -/
theorem BuildingAction.apply_base {action : BuildingAction} {inventory : BuildingInventory}
    {position seat : ℕ} {cash : ℤ} {result : BuildingMutation}
    (h : action.apply properties inventory position seat cash = .ok result) :
    ∃ property cost, validateBase properties inventory position seat = .ok (property, cost) := by
  rcases action with buildingType | buildingType <;> cases buildingType <;>
    simp only [BuildingAction.apply, buildHouse, buildHotel, sellHouse, sellHotel, bind_eq_ok,
      Prod.exists] at h
  all_goals
    obtain ⟨property, cost, hbase, -⟩ := h
    exact ⟨property, cost, hbase⟩

theorem houseCost_street {position : ℕ} {definition : BoardSpaceDefinition}
    (h : boardSpaces[position]? = some definition) (hstreet : definition.propertyType = .street) :
    50 ≤ definition.houseCost := by
  have hall : ∀ d ∈ boardSpaces, d.propertyType = .street → 50 ≤ d.houseCost := by decide
  exact hall _ (List.mem_of_getElem? h) hstreet

/-- Building and selling both lose the house cost at least once over. -/
theorem BuildingAction.loses {action : BuildingAction} {inventory : BuildingInventory}
    {position seat : ℕ} {cash : ℤ} {result : BuildingMutation}
    (h : action.apply properties inventory position seat cash = .ok result) :
    50 + (4 * result.cash + 3 * (result.properties.map buildingCost).sum) ≤
      4 * cash + 3 * (properties.map buildingCost).sum := by
  obtain ⟨property, cost, hbase⟩ := BuildingAction.apply_base h
  obtain ⟨-, -, -, street, hd, hstreet, -⟩ := validateBase_eq_ok hbase
  have hcost := houseCost_street hd hstreet
  have heven := houseCost_even hd
  have hsame : ∀ {definition built}, OneBuilding seat position definition properties
      result.properties built → definition = street := fun hone => by
    obtain ⟨_, _, _, hrebuilt, -⟩ := hone
    exact Option.some.inj (hrebuilt.space.symm.trans hd)
  cases action with
  | build buildingType =>
    obtain ⟨definition, hone, hcash⟩ := build_oneBuilding h
    have hbuilt := hone.cost
    obtain rfl := hsame hone
    omega
  | sell buildingType =>
    obtain ⟨definition, hone, hcash⟩ := sell_oneBuilding h
    have hbuilt := hone.cost
    obtain rfl := hsame hone
    omega

end Buildings

/-! ### Cards -/

section Cards

variable {deck : CardDeck} {card : CardPlayerState} {resolution : CardResolution}

/-- Where the cards of each deck move a player who stands on a space of the deck. -/
theorem chance_lands : ∀ position < 40,
    (boardSpaces[position]?).map BoardSpaceDefinition.propertyType = some .chance →
    ((moveBy position (-3)).bind fun movement => boardSpaces[movement.toPosition]?).all
        (fun definition => decide (landingRank definition < 3)) = true ∧
      ((moveToNearest position [1, 3]).bind fun movement => boardSpaces[movement.toPosition]?).all
        (fun definition => decide (landingRank definition < 3)) = true := by
  decide +kernel

theorem chance_moves : ∀ card ∈ chanceCards, card.effect = .move → card.amount = -3 := by
  decide

theorem communityChest_moves : ∀ card ∈ communityChestCards, card.effect ≠ .moveToNearest ∧
    (card.effect = .move → card.amount = 20) := by
  decide

theorem resolveMovement_lands {definition : CardDefinition} {movement : Option MovementResult}
    (h : resolveMovement deck definition card movement = .ok resolution) :
    ∃ m, movement = some m ∧ resolution.state.position = m.toPosition := by
  simp only [resolveMovement, bind_eq_ok, requireSome_eq_ok, pure_eq_ok] at h
  obtain ⟨m, rfl, cash, -, rfl⟩ := h
  exact ⟨m, rfl, rfl⟩

theorem resolveCredit_stays {definition : CardDefinition} {amount : ℤ}
    (h : resolveCredit deck definition card amount = .ok resolution) :
    resolution.movement = none := by
  simp only [resolveCredit, bind_eq_ok, requireSome_eq_ok, pure_eq_ok] at h
  obtain ⟨cash, -, rfl⟩ := h
  rfl

theorem resolveDebit_stays (definition : CardDefinition) (amount : ℤ) :
    (resolveDebit deck definition card amount).movement = none := by
  unfold resolveDebit
  split <;> rfl

/-- A card that moves the player leads to less than it came from. -/
theorem resolveCard_lands {cardId playerCount : ℕ} {space : BoardSpaceDefinition}
    (hposition : (boardSpaces[card.position]?).map BoardSpaceDefinition.propertyType =
      some (match deck with
        | .chance => PropertyType.chance
        | .communityChest => PropertyType.communityChest))
    (h : resolveCard deck cardId card playerCount = .ok resolution)
    (hmoved : resolution.movement.isSome = true)
    (hspace : boardSpaces[resolution.state.position]? = some space) :
    landingRank space < pendingRank (.awaitingCardDraw deck) := by
  simp only [resolveCard, bind_eq_ok, require_eq_ok, requireSome_eq_ok, exists_const] at h
  obtain ⟨⟨-, hlt, -⟩, -, definition, hfind, h⟩ := h
  have hmem : definition ∈ cardsOf deck := List.mem_of_find?_eq_some hfind
  cases heffect : definition.effect with
  | money =>
    simp only [heffect] at h
    split_ifs at h
    · rw [resolveCredit_stays h] at hmoved
      cases hmoved
    · cases h
      rw [resolveDebit_stays] at hmoved
      cases hmoved
  | getOutOfJailFree =>
    simp only [heffect, bind_eq_ok, require_eq_ok, pure_eq_ok, exists_const] at h
    obtain ⟨-, rfl⟩ := h
    cases hmoved
  | collectFromPlayers =>
    simp only [heffect] at h
    rw [resolveCredit_stays h] at hmoved
    cases hmoved
  | repairFree =>
    simp only [heffect, pure_eq_ok] at h
    subst h
    cases hmoved
  | moveToNearest =>
    simp only [heffect] at h
    obtain ⟨m, hm, hto⟩ := resolveMovement_lands h
    cases deck with
    | chance =>
      have hlands := (chance_lands _ hlt hposition).2
      rw [hto] at hspace
      show landingRank space < 3
      simpa [hm, hspace] using hlands
    | communityChest => exact absurd heffect (communityChest_moves definition hmem).1
  | move =>
    simp only [heffect] at h
    obtain ⟨m, hm, hto⟩ := resolveMovement_lands h
    rw [hto] at hspace
    cases deck with
    | chance =>
      have hlands := (chance_lands _ hlt hposition).1
      rw [← chance_moves definition hmem heffect] at hlands
      show landingRank space < 3
      simpa [show moveBy card.position definition.amount = some m from hm, hspace] using hlands
    | communityChest =>
      have hm' : some (absoluteMovement card.position definition.amount.toNat) = some m := hm
      rw [(communityChest_moves definition hmem).2 heffect] at hm'
      cases hm'
      cases hspace
      decide

end Cards

/-! ### One command -/

section Steps

variable {state active : ActiveGameplayAggregateState} {current : GameplayPlayerState}
  {nowMs : ℤ} {events : List GameplayDomainEvent}

theorem IsCurrent.slot_updated (hc : IsCurrent state current)
    (f : GameplayPlayerState → GameplayPlayerState) {seat : ℕ}
    (hseat : seat = state.turn.currentSeatIndex) :
    slotAt (updateSlot state.turn.currentSeatIndex f state.players) seat = some (f current) := by
  rw [hseat, slotAt_updateSlot_self, hc.1, Option.map_some]

/-- What a command of the current player does to the budget: a move less, for at most 200. -/
structure Spends (state active : ActiveGameplayAggregateState) : Prop where
  cash : playersCash active.toGameplayAggregateStateBase ≤
    playersCash state.toGameplayAggregateStateBase + 200
  built : active.properties.map buildingCost = state.properties.map buildingCost
  moves : currentMoves active < currentMoves state

theorem Spends.budget_le (h : Spends state active) : 50 + budget active ≤ budget state := by
  obtain ⟨hcash, hbuilt, hmoves⟩ := h
  unfold budget
  rw [hbuilt]
  omega

theorem budget_le_of_moves (hmoves : currentMoves active = currentMoves state)
    (hspent : 50 + (4 * playersCash active.toGameplayAggregateStateBase +
        3 * (active.properties.map buildingCost).sum) ≤
      4 * playersCash state.toGameplayAggregateStateBase +
        3 * (state.properties.map buildingCost).sum) :
    50 + budget active ≤ budget state := by
  unfold budget
  rw [hmoves]
  omega

theorem RollStep.spends {dice : DiceRoll} {rng : RandomCheckpoint}
    (h : RollStep state current nowMs dice rng active events) (hv : ValidActive state)
    (hc : IsCurrent state current) (hphase : state.turn.phase = .awaitingRoll)
    (hstays : active.turn.currentSeatIndex = state.turn.currentSeatIndex)
    (hthird : current.inJail = false → dice.isDoubles = true → current.consecutiveDoubles ≠ 2) :
    Spends state active := by
  have hcash := h.cash hc
  have hle : announcedCash state.toGameplayAggregateStateBase events ≤ 200 := h.announced_le
  have h0 : 0 ≤ unpaidCash current dice := unpaidCash_nonneg (hc.rules hv).cash.1
  have hbefore : currentMoves state = 4 * rollAllowance current := by
    rw [currentMoves_of_slot hc.1, hphase]
    rfl
  cases h with
  | jailRemains turn hin hno hlt hpass => exact absurd hstays hpass.seat_ne
  | threeDoubles turn hin htwo hdoubles hpass => exact absurd hstays hpass.seat_ne
  | goToJail cash movement turn hin hmove hbooks hmax hpass => exact absurd hstays hpass.seat_ne
  | jailBankruptcy hin hno hge hpoor htime =>
    refine ⟨?_, rfl, ?_⟩
    · simp only [totalCash, playersCash, afterRoll] at hcash ⊢
      omega
    · rw [currentMoves_bankruptcy rfl, hbefore, rollAllowance, if_pos hin]
      omega
  | jailRelease cash method movement turn hin hpay hmove hturn =>
    refine ⟨?_, rfl, ?_⟩
    · simp only [totalCash, playersCash, afterRoll] at hcash ⊢
      omega
    · -- out of jail, with the three rolls of any turn ahead
      rw [hbefore, rollAllowance, if_pos hin]
      refine (currentMoves_landing 3 3 (hc.slot_updated _ (landing_seat hturn)) hturn (by simp) ?_
        fun space _ => landingRank_le space).trans_lt (by omega)
      exact (earnedRolls_le _ _).trans (rollAllowance_free rfl).le
  | moved cash movement doubles turn hin hdoubles hmove hbooks hmax hturn =>
    refine ⟨?_, rfl, ?_⟩
    · simp only [totalCash, playersCash, afterRoll] at hcash ⊢
      omega
    · have htwo : current.consecutiveDoubles ≤ 2 := (hc.rules hv).consecutiveDoubles_le
      rw [hbefore, rollAllowance_free hin]
      refine (currentMoves_landing (2 - current.consecutiveDoubles) 3
        (hc.slot_updated _ (landing_seat hturn)) hturn id ?_
        fun space _ => landingRank_le space).trans_lt (by omega)
      change earnedRolls _ dice.isDoubles ≤ _
      cases hdice : dice.isDoubles with
      | false => exact Nat.zero_le _
      | true =>
        have hcount := applyDoubles_counts hdoubles hdice (hthird hin hdice)
        refine (earnedRolls_le _ _).trans ((rollAllowance_free (by exact hin)).le.trans ?_)
        dsimp only
        omega

theorem JailStep.spends (h : JailStep state current nowMs active events) (hv : ValidActive state)
    (hc : IsCurrent state current) (hphase : state.turn.phase = .awaitingRoll)
    (hstays : active.turn.currentSeatIndex = state.turn.currentSeatIndex) :
    Spends state active := by
  have hcash := h.cash hc
  have hle : announcedCash state.toGameplayAggregateStateBase events ≤ 200 := h.announced_le
  cases h with
  | bankruptcy hpoor htime =>
    refine ⟨?_, rfl, ?_⟩
    · simp only [totalCash, playersCash] at hcash ⊢
      omega
    · have htwo : current.consecutiveDoubles ≤ 2 := (hc.rules hv).consecutiveDoubles_le
      rw [currentMoves_bankruptcy rfl, currentMoves_of_slot hc.1, hphase]
      simp only [movesLeft, rollsLeft, rollAllowance]
      split_ifs <;> omega
  | released cash cards method turn hin hpay hpass => exact absurd hstays hpass.seat_ne

/-- What is pending is dealt with, and the rolls that the stored doubles have earned are left. -/
theorem moves_settled {lastDice : DiceRoll} {players : List (Option GameplayPlayerState)}
    {player : GameplayPlayerState} (hc : IsCurrent state current)
    (hpending : pendingRank state.turn.phase ≠ 0) (hdice : state.lastDice = some lastDice)
    (hslot : slotAt players state.turn.currentSeatIndex = some player)
    (hjail : player.inJail = current.inJail)
    (hdoubles : player.consecutiveDoubles = current.consecutiveDoubles) :
    currentMoves (afterSettled state nowMs lastDice players) < currentMoves state := by
  have hbefore : currentMoves state =
      4 * earnedRolls current lastDice.isDoubles + pendingRank state.turn.phase := by
    rw [currentMoves_of_slot hc.1, movesLeft_pending hpending, hdice]
    rfl
  have hafter : currentMoves (afterSettled state nowMs lastDice players) =
      4 * earnedRolls current lastDice.isDoubles := by
    rw [currentMoves_of_slot hslot, movesLeft_congr hjail hdoubles]
    exact movesLeft_settled current lastDice.isDoubles
  omega

/-- A command on a space, within the turn: it deals with what is pending, or it builds or sells. -/
theorem PropertyStep.budget_le (h : PropertyStep state current nowMs active events)
    (hc : IsCurrent state current) : 50 + budget active ≤ budget state := by
  have hcash := h.cash hc
  have hle : announcedCash state.toGameplayAggregateStateBase events ≤ 200 := h.announced_le
  cases h with
  | decline position price lastDice hphase hdice htime =>
    refine Spends.budget_le ⟨?_, rfl, ?_⟩
    · simp only [totalCash, playersCash, afterSettled] at hcash ⊢
      omega
    · exact moves_settled hc (by simp [hphase, pendingRank]) hdice hc.1 rfl rfl
  | buy position property definition lastDice hphase hdice htime hp hd howner hown hprice =>
    refine Spends.budget_le ⟨?_, ?_, ?_⟩
    · simp only [totalCash, playersCash, afterSettled] at hcash ⊢
      omega
    · refine map_buildingCost fun property => ?_
      split_ifs <;> rfl
    · exact moves_settled hc (by simp [hphase, pendingRank]) hdice (hc.slot_updated _ rfl) rfl rfl
  | bankruptcy hphase htime =>
    refine Spends.budget_le ⟨?_, rfl, ?_⟩
    · simp only [totalCash, playersCash] at hcash ⊢
      omega
    · have hpending : pendingRank state.turn.phase ≠ 0 := by
        obtain ⟨position, hphase⟩ | hphase := hphase <;> simp [hphase, pendingRank]
      rw [currentMoves_bankruptcy rfl, currentMoves_of_slot hc.1, movesLeft_pending hpending]
      omega
  | rent position ownerSeat owner amount lastDice hphase hdice htime hslot hactive hne hamount
      hpays hmax =>
    refine Spends.budget_le ⟨?_, rfl, ?_⟩
    · simp only [totalCash, playersCash, afterSettled] at hcash ⊢
      omega
    · have hafter : slotAt (mapSlots (fun index player =>
          if index = state.turn.currentSeatIndex then
            { player with cash := current.cash - amount }
          else if index = ownerSeat then { player with cash := owner.cash + amount }
          else player) state.players) state.turn.currentSeatIndex =
          some { current with cash := current.cash - amount } := by
        rw [slotAt_mapSlots, hc.1, Option.map_some, if_pos rfl]
      exact moves_settled hc (by simp [hphase, pendingRank]) hdice hafter rfl rfl
  | tax taxKind lastDice hphase hdice htime hpays =>
    refine Spends.budget_le ⟨?_, rfl, ?_⟩
    · simp only [totalCash, playersCash, afterSettled] at hcash ⊢
      omega
    · exact moves_settled hc (by simp [hphase, pendingRank]) hdice (hc.slot_updated _ rfl) rfl rfl
  | building action position property result hphase htime hresult =>
    have hloses := BuildingAction.loses hresult
    refine budget_le_of_moves
      (currentMoves_congr state (slotAt_updateSlot_self ..) (fun _ => ⟨rfl, rfl⟩) rfl rfl) ?_
    rw [playersCash, total_updated hc, playersCash]
    dsimp only
    omega

theorem CardStep.spends {deck : CardDeck} {rng : RandomCheckpoint} {resolution : CardResolution}
    {cardId : ℕ} (h : CardStep state current nowMs deck rng resolution active events)
    (hv : ValidActive state) (hc : IsCurrent state current)
    (hphase : state.turn.phase = .awaitingCardDraw deck)
    (hres : resolveCard deck cardId current.toCard (occupants state.players).length
      = .ok resolution) : Spends state active := by
  have hcash := h.cash hv hc hres
  have hle := h.announced_le hv hc hres
  have hpending : pendingRank (.awaitingCardDraw deck) ≠ 0 := by cases deck <;> simp [pendingRank]
  have hbefore : currentMoves state =
      4 * earnedRolls current (state.lastDice.any DiceRoll.isDoubles) +
        pendingRank (.awaitingCardDraw deck) := by
    rw [currentMoves_of_slot hc.1, hphase, movesLeft_pending hpending]
  cases h with
  | bankruptcy hbankrupt htime =>
    refine ⟨?_, rfl, ?_⟩
    · simp only [totalCash, playersCash, afterCard] at hcash ⊢
      omega
    · rw [currentMoves_bankruptcy rfl]
      omega
  | continued turn hsolvent hturn =>
    refine ⟨?_, rfl, ?_⟩
    · simp only [totalCash, playersCash, afterCard] at hcash ⊢
      omega
    · have hearned : earnedRolls (current.withCard resolution.state)
          (state.lastDice.any DiceRoll.isDoubles) =
          earnedRolls current (state.lastDice.any DiceRoll.isDoubles) := rfl
      simp only [continuationTurn] at hturn
      split_ifs at hturn with hmoved
      · have hspace := hc.phase hv
        rw [hphase] at hspace
        have hmoves : currentMoves (afterCard state rng turn resolution) ≤
            4 * earnedRolls current (state.lastDice.any DiceRoll.isDoubles) +
              (pendingRank (.awaitingCardDraw deck) - 1) :=
          currentMoves_landing _ _ (hc.slot_updated _ (landing_seat hturn)) hturn id hearned.le
            fun space hd => Nat.le_sub_one_of_lt (resolveCard_lands hspace.2 hres hmoved hd)
        omega
      · obtain ⟨htime, -, rfl⟩ := createClockedGameplayTurn_eq_some.1 hturn
        rw [currentMoves_of_slot (hc.slot_updated _ rfl), hbefore]
        change movesLeft _ _ (settledPhase _) < _
        rw [movesLeft_settled, hearned]
        omega

/-- A trade leaves the budget as it is. -/
theorem TradeStep.budget_eq {command : GameplayTradeCommand}
    (h : TradeStep state nowMs command active events) : budget active = budget state := by
  cases h with
  | cleanup | created | rejected | cancelled => rfl
  | accepted tradeId trades trade proposer receiver expired hsub hreceiver hs =>
    have hcash : playersCash (afterSettlement state trades trade proposer
        receiver).toGameplayAggregateStateBase = playersCash state.toGameplayAggregateStateBase :=
      hs.cash
    have hbuilt : (exchangeProperties state.properties trade).map buildingCost =
        state.properties.map buildingCost := by
      refine map_buildingCost fun property => ?_
      split_ifs <;> rfl
    have hmoves : currentMoves (afterSettlement state trades trade proposer receiver) =
        currentMoves state :=
      currentMoves_congr state (slotAt_mapSlots ..) (fun _ => ⟨rfl, rfl⟩) rfl rfl
    unfold budget
    rw [hcash, hmoves]
    exact congrArg (fun built => _ + 3 * List.sum built + _) hbuilt

end Steps

/-! ### Accepted commands -/

section Accepted

variable {state active : ActiveGameplayAggregateState} {command : GameplayCommand}
  {context : GameplayCommandContext} {events : List GameplayDomainEvent}

theorem transitionFreeRoll_stays {current : GameplayPlayerState} {dice : DiceRoll}
    {rng : RandomCheckpoint} {nowMs : ℤ} {doubles : DoublesResult}
    (h : transitionFreeRoll state current dice doubles rng nowMs = .ok (active, events))
    (hstays : active.turn.currentSeatIndex = state.turn.currentSeatIndex) :
    doubles.sentToJail = false := by
  simp only [transitionFreeRoll, ite_eq_ok, bind_eq_ok, requireSome_eq_ok, pure_eq_ok,
    Prod.exists, Prod.mk.injEq] at h
  obtain ⟨-, turn, next, hadvance, rfl, rfl⟩ | ⟨hsent, -⟩ := h
  · exact absurd hstays (advanceGameplayTurn_eq_some hadvance).seat_ne
  · simpa using hsent

/-- A turn command that leaves the turn with its seat is a roll, and not the third doubles. -/
theorem transitionGameplayTurn_stays {body : GameplayTurnCommand} {expected : ℤ}
    (h : transitionGameplayTurn state body expected context = .ok (active, events))
    (hstays : active.turn.currentSeatIndex = state.turn.currentSeatIndex) :
    ∃ current dice rng, IsCurrent state current ∧ state.turn.phase = .awaitingRoll ∧
      RollStep state current context.nowMs dice rng active events ∧
      (current.inJail = false → dice.isDoubles = true → current.consecutiveDoubles ≠ 2) := by
  obtain ⟨hadm, current, hc, -, hstep⟩ := transitionGameplayTurn_step h
  cases hstep with
  | endTurn turn hphase hpass => exact absurd hstays hpass.seat_ne
  | roll _ dice rng _ _ hne hphase hdraw hroll =>
    refine ⟨current, dice, rng, hc, hphase, hroll, fun hin hdouble htwo => ?_⟩
    simp only [transitionGameplayTurn, bind_eq_ok, require_eq_ok, requireSome_eq_ok, exists_const,
      checkCommand_eq_ok, activeGameplayPlayer_eq_some] at h
    obtain ⟨-, other, hother, -, h⟩ := h
    obtain rfl := hother.unique hc
    have hfree : transitionRoll state current context = .ok (active, events) := by
      cases body with
      | endTurn => exact absurd rfl hne
      | rollDice => exact h
      | resolveRandomDice => exact h
    simp only [transitionRoll, hdraw, hin, bind_eq_ok, require_eq_ok, requireSome_eq_ok,
      Prod.exists, exists_const, Bool.false_eq_true, if_false] at hfree
    obtain ⟨-, dice', rng', hdice, doubles, hd, hfree⟩ := hfree
    cases hdice
    have hsent := transitionFreeRoll_stays hfree hstays
    rw [applyDoubles_third hd htwo hdouble] at hsent
    cases hsent

/-- Within a turn every command of the current player is paid for from the budget, and nothing else
adds to it. -/
theorem budget_step (h : transitionGameplay (.inProgress state) command context
      = .ok (.inProgress active, events))
    (hstays : active.turn.currentSeatIndex = state.turn.currentSeatIndex) :
    (if command.body.ofTurn then 50 else 0) + budget active ≤ budget state := by
  obtain ⟨hadm, hstep⟩ := transitionGameplay_step h
  have hv := hadm.valid
  cases hbody : command.body with
  | turn body =>
    simp only [transitionGameplay, routeGameplay, hbody, bind_eq_ok, require_eq_ok,
      exists_const] at h
    obtain ⟨-, -, h⟩ := h
    obtain ⟨_, hturn, hactive⟩ := keepsPlaying_eq_ok.1 h
    cases hactive
    obtain ⟨current, dice, rng, hc, hphase, hroll, hthird⟩ :=
      transitionGameplayTurn_stays hturn hstays
    exact (hroll.spends hv hc hphase hstays hthird).budget_le
  | property body =>
    rw [hbody] at hstep
    cases hstep with
    | property _ current _ _ hnone hc hstep => exact hstep.budget_le hc
  | jail body =>
    rw [hbody] at hstep
    cases hstep with
    | jail _ current _ _ hphase hc hstep => exact (hstep.spends hv hc hphase hstays).budget_le
  | card body =>
    rw [hbody] at hstep
    cases hstep with
    | card _ current cardId rng resolution _ _ hphase hc hdraw hres hstep =>
      exact (hstep.spends hv hc hphase hres).budget_le
  | declareBankruptcy =>
    rw [hbody] at hstep
    cases hstep with
    | bankruptcy current resolution _ _ hphase hc helim hstep =>
      cases hstep with
      | continued turn hend hpass => exact absurd hstays hpass.seat_ne
  | trade body =>
    rw [hbody] at hstep
    cases hstep with
    | trade _ _ _ hnone hstep =>
      rw [hstep.budget_eq]
      exact (zero_add _).le
  | timeout body =>
    rw [hbody] at hstep
    cases hstep with
    | timeout _ current _ _ hactor hnone hlimit hc hstep =>
      cases hstep with
      | warning _ seconds turn hcommand hturn =>
        obtain ⟨-, -, -, -, -, -, -, rfl⟩ := emitTimeoutWarning_eq_ok.1 hturn
        exact (zero_add _).le
      | turnAdvanced turn next hdeadline hlt hpass hslot => exact absurd hstays hpass.seat_ne
      | forfeitContinued bankruptcy nextSeat next hdeadline htwo helim hend hnext htime hslot =>
        exact absurd hstays (helim.next_ne hnext)

theorem playersCash_nonneg (hv : ValidActive state) :
    0 ≤ playersCash state.toGameplayAggregateStateBase :=
  total_nonneg fun seat player hslot => (hv.table.player seat player hslot).rules.cash.1

/-- A budget is cash, buildings and moves, none of them in debt. -/
theorem budget_nonneg (h : 0 ≤ playersCash state.toGameplayAggregateStateBase) :
    0 ≤ budget state := by
  have hbuilt := sum_buildingCost_nonneg state.properties
  unfold budget
  omega

theorem budget_le (state : ActiveGameplayAggregateState) :
    budget state ≤ 4 * playersCash state.toGameplayAggregateStateBase +
      3 * (state.properties.map buildingCost).sum + 16150 := by
  have hmoves : currentMoves state ≤ 19 := by
    unfold currentMoves
    cases slotAt state.players state.turn.currentSeatIndex with
    | none => exact Nat.zero_le _
    | some player => exact movesLeft_le player _ _
  unfold budget
  omega

/-- No command leaves the players in debt, the trades that make an aggregate invalid among them. -/
theorem playersCash_step (h : transitionGameplay (.inProgress state) command context
      = .ok (.inProgress active, events)) :
    0 ≤ playersCash active.toGameplayAggregateStateBase := by
  obtain ⟨hadm, hstep⟩ := transitionGameplay_step h
  by_cases htrade : ∃ body, command.body = .trade body
  · obtain ⟨body, hbody⟩ := htrade
    rw [hbody] at hstep
    cases hstep with
    | trade _ _ _ hnone hstep =>
      have hcash : playersCash active.toGameplayAggregateStateBase =
          playersCash state.toGameplayAggregateStateBase := by
        cases hstep with
        | cleanup | created | rejected | cancelled => rfl
        | accepted tradeId trades trade proposer receiver expired hsub hreceiver hs => exact hs.cash
      rw [hcash]
      exact playersCash_nonneg hadm.valid
  · exact playersCash_nonneg (hstep.valid hadm fun body hbody => htrade ⟨body, hbody⟩)

end Accepted

/-! ### A turn -/

/-- The budget of a game in progress, with what a turn has left to spend. -/
def GameplayAggregateState.budget : GameplayAggregateState → ℤ
  | .inProgress state => Pootown.budget state
  | .finished _ => 0

/-- A game in progress whose players are not in debt. -/
def Solvent (s : GameplayAggregateState) : Prop :=
  ∃ state, s = .inProgress state ∧ 0 ≤ playersCash state.toGameplayAggregateStateBase

section Turn

variable {s s' : GameplayAggregateState} {accepted : AcceptedCommand}

theorem WithinTurn.solvent (hs : Solvent s) (h : WithinTurn s accepted s') : Solvent s' := by
  obtain ⟨state, rfl, -⟩ := hs
  obtain ⟨haccepts, hseat⟩ := h
  cases s' with
  | inProgress active => exact ⟨active, rfl, playersCash_step haccepts⟩
  | finished finished => cases hseat

theorem WithinTurn.budget_le (hs : Solvent s) (h : WithinTurn s accepted s') :
    (if accepted.command.body.ofTurn then 50 else 0) + s'.budget ≤ s.budget := by
  obtain ⟨state, rfl, -⟩ := hs
  obtain ⟨haccepts, hseat⟩ := h
  cases s' with
  | inProgress active => exact budget_step haccepts (Option.some.inj hseat)
  | finished finished => cases hseat

end Turn

/-- However a turn goes on, with trades and warnings in between, it is over after a number of
commands of the current player that the cash and the buildings on the table bound. -/
theorem turn_within_budget {state : ActiveGameplayAggregateState} {s' : GameplayAggregateState}
    {commands : List AcceptedCommand} (hv : isValidActiveGameplayAggregateState state = true)
    (hrun : Run WithinTurn (.inProgress state) commands s') :
    50 * ((commands.countP fun accepted => accepted.command.body.ofTurn : ℕ) : ℤ) ≤
      4 * playersCash state.toGameplayAggregateStateBase +
        3 * (state.properties.map buildingCost).sum + 16150 := by
  have hstart : Solvent (.inProgress state) :=
    ⟨state, rfl, playersCash_nonneg (isValidActive_iff.1 hv)⟩
  have hcost := hrun.cost_add_le (fun _ _ _ hs h => h.solvent hs) (fun _ _ _ hs h => h.budget_le hs)
    hstart
  have hcount : (commands.map fun accepted =>
      if accepted.command.body.ofTurn then (50 : ℤ) else 0).sum =
      (commands.countP fun accepted => accepted.command.body.ofTurn) * 50 := by
    have hconst : Tables.sumWhere (fun accepted => accepted.command.body.ofTurn = true)
        (fun _ => 50) commands = _ := Tables.sumWhere_const fun _ _ _ => rfl
    simpa [Tables.sumWhere] using hconst
  obtain ⟨active, rfl, hcash⟩ := hrun.invariant (fun _ _ _ hs h => h.solvent hs) hstart
  have hleft : 0 ≤ budget active := budget_nonneg hcash
  have hbudget := budget_le state
  rw [hcount] at hcost
  change _ + budget active ≤ budget state at hcost
  omega

/-- Alice rolls a one and a two, the first of at most 563 commands. -/
theorem turn_within_budget_firstRoll : ∃ state state' events,
    twoPlayerGame [] = some (.inProgress state) ∧
    WithinTurn (.inProgress state) ⟨(rolls 1 2 1 10).1, (rolls 1 2 1 10).2, events⟩ state' ∧
    budget state = 22200 ∧
    (50 : ℤ) * 1 ≤ 4 * playersCash state.toGameplayAggregateStateBase +
      3 * (state.properties.map buildingCost).sum + 16150 := by
  obtain ⟨state, state', events, hstart, hok, hcheck⟩ := exists_of_acceptedWith
    (twoPlayerGame []) (rolls 1 2 1 10) (fun state state' _ =>
      isValidActiveGameplayAggregateState state &&
        decide (state'.currentSeat = some state.turn.currentSeatIndex) &&
        decide (budget state = 22200)) (by decide +kernel)
  simp only [Bool.and_eq_true, decide_eq_true_eq] at hcheck
  obtain ⟨⟨hv, hseat⟩, hbudget⟩ := hcheck
  have hstep : WithinTurn (.inProgress state)
      ⟨(rolls 1 2 1 10).1, (rolls 1 2 1 10).2, events⟩ state' := ⟨hok, hseat⟩
  exact ⟨state, state', events, hstart, hstep, hbudget,
    turn_within_budget hv (.cons hstep (.nil _))⟩

end Pootown
