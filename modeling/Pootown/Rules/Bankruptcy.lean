import Mathlib.Tactic
import Pootown.Rules.Building
import Pootown.Rules.Jail

/-!
# Bankruptcy rules

The eliminated player's buildings and deeds are liquidated to the bank, their cash follows, and
their spaces become unowned.

* `ValidBankruptcyPlayer`, `isValidBankruptcyState`: the invariant of seats, ownership and stock;
* `liquidate`: the pass over the property table that collects value, houses and hotels;
* `resolveBankruptcy_eq_ok`: what an accepted resolution does, and `resolveBankruptcy_isOk`: when
  a resolution is accepted.
-/

namespace Pootown

open Fallible Slots

inductive PlayerStatus
  | active | eliminated
  deriving DecidableEq

structure BankruptcyPlayerState where
  seatIndex : ℕ
  status : PlayerStatus
  cash : ℤ
  position : ℕ
  inJail : Bool
  jailTurns : ℕ
  consecutiveDoubles : ℕ
  missedTurns : ℕ
  getOutOfJailCards : ℕ

inductive BankruptcyRuleErrorCode
  | invalidBankruptcyState | playerNotActive | arithmeticOverflow
  deriving DecidableEq

def BankruptcyRuleErrorCode.text : BankruptcyRuleErrorCode → String
  | .invalidBankruptcyState => "INVALID_BANKRUPTCY_STATE"
  | .playerNotActive => "PLAYER_NOT_ACTIVE"
  | .arithmeticOverflow => "ARITHMETIC_OVERFLOW"

/-- The accepted outcome of a bankruptcy. -/
structure BankruptcyResolution where
  players : List (Option BankruptcyPlayerState)
  properties : List PropertyState
  inventory : BuildingInventory
  bankCash : ℤ
  bankruptSeatIndex : ℕ
  liquidationValue : ℤ
  cashTransferred : ℤ
  housesReturned : ℕ
  hotelsReturned : ℕ
  endConditionMet : Bool
  winnerSeatIndex : Option ℕ

abbrev BankruptcyResolutionResult := Except BankruptcyRuleErrorCode BankruptcyResolution

/-! ### Validity -/

/-- The `validPlayer` of the bankruptcy rules. -/
@[mk_iff]
structure ValidBankruptcyPlayer (player : BankruptcyPlayerState) (index : ℕ) : Prop where
  seatIndex_eq : player.seatIndex = index
  cash : IsMatchCash player.cash
  position_lt : player.position < GameplayPolicy.boardSize
  jailTurns_le : player.jailTurns ≤ GameplayPolicy.maximumJailTurns
  consecutiveDoubles_le : player.consecutiveDoubles ≤ 2
  missedTurns_le : player.missedTurns ≤ GameplayPolicy.maximumMissedTurns
  cards_le : player.getOutOfJailCards ≤ 255
  jail : JailCoupled player.position player.inJail player.jailTurns player.consecutiveDoubles
  eliminated : player.status = .eliminated → player.cash = 0 ∧ player.position = 0 ∧
    player.inJail = false ∧ player.jailTurns = 0 ∧ player.consecutiveDoubles = 0 ∧
    player.getOutOfJailCards = 0

instance (player : BankruptcyPlayerState) (index : ℕ) :
    Decidable (ValidBankruptcyPlayer player index) :=
  decidable_of_iff' _ (validBankruptcyPlayer_iff player index)

/-- Every owned space belongs to an active seat. -/
def ownersActive (players : List (Option BankruptcyPlayerState))
    (properties : List PropertyState) : Bool :=
  properties.all fun property => decide (∀ owner ∈ property.ownerSeatIndex,
    ∃ player ∈ slotAt players owner, player.status = .active)

def isValidBankruptcyState (players : List (Option BankruptcyPlayerState))
    (properties : List PropertyState) (inventory : BuildingInventory) (bankCash : ℤ) : Bool :=
  decide (players.length = GameplayPolicy.maximumPlayers) && decide (IsMatchCash bankCash) &&
  isValidPropertyStates properties && isValidBuildingInventory properties inventory &&
  everySlot (fun index player => decide (ValidBankruptcyPlayer player index)) players &&
  ownersActive players properties

theorem ownersActive_iff {players : List (Option BankruptcyPlayerState)}
    {properties : List PropertyState} :
    ownersActive players properties = true ↔
      ∀ (i : ℕ) (property : PropertyState) (owner : ℕ), properties[i]? = some property →
        property.ownerSeatIndex = some owner →
        ∃ player, slotAt players owner = some player ∧ player.status = .active := by
  simp only [ownersActive, List.all_eq_true, decide_eq_true_eq, Option.mem_def,
    List.mem_iff_getElem?]
  constructor
  · intro h i property owner hp howner
    exact h property ⟨i, hp⟩ owner howner
  · rintro h property ⟨i, hp⟩ owner howner
    exact h i property owner hp howner

theorem isValidBankruptcyState_iff {players : List (Option BankruptcyPlayerState)}
    {properties : List PropertyState} {inventory : BuildingInventory} {bankCash : ℤ} :
    isValidBankruptcyState players properties inventory bankCash = true ↔
      players.length = 4 ∧ IsMatchCash bankCash ∧
      isValidBuildingInventory properties inventory = true ∧
      (∀ i player, slotAt players i = some player → ValidBankruptcyPlayer player i) ∧
      ownersActive players properties = true := by
  simp only [isValidBankruptcyState, Bool.and_eq_true, decide_eq_true_eq, everySlot_eq_true]
  constructor
  · rintro ⟨⟨⟨⟨⟨hlen, hbank⟩, -⟩, hi⟩, hp⟩, ho⟩
    exact ⟨hlen, hbank, hi, hp, ho⟩
  · rintro ⟨hlen, hbank, hi, hp, ho⟩
    exact ⟨⟨⟨⟨⟨hlen, hbank⟩, (isValidBuildingInventory_iff.1 hi).1⟩, hi⟩, hp⟩, ho⟩

/-! ### Liquidation -/

/-- What the pass over the property table has collected so far. -/
structure Liquidation where
  liquidationValue : ℤ
  housesReturned : ℕ
  hotelsReturned : ℕ
  nextProperties : List PropertyState

/-- An entry back in the bank's hands. -/
def PropertyState.release (property : PropertyState) : PropertyState :=
  { property with ownerSeatIndex := none, houses := 0, hasHotel := false, mortgaged := false }

/-- What a space adds to the bank when its owner is liquidated. -/
def liquidationOf (definition : BoardSpaceDefinition) (property : PropertyState) : ℤ :=
  (if property.hasHotel then (definition.houseCost : ℤ) * 5 / 2
    else (definition.houseCost : ℤ) / 2 * property.houses) +
  (if property.mortgaged then 0 else (definition.mortgageValue : ℤ))

/-- Cash addition that also refuses an amount out of range. -/
def addLiquidation (value amount : ℤ) : Option ℤ :=
  if amount < 0 ∨ maxMatchCash < amount then none else checkedAddMatchCash value amount

def liquidateProperty (bankruptSeatIndex : ℕ) (acc : Liquidation) (property : PropertyState) :
    Except BankruptcyRuleErrorCode Liquidation := do
  if property.ownerSeatIndex ≠ some bankruptSeatIndex then
    return { acc with nextProperties := acc.nextProperties ++ [property] }
  else
    let definition ← requireSome boardSpaces[property.position]? .invalidBankruptcyState
    let liquidationValue ← requireSome
      (addLiquidation acc.liquidationValue (liquidationOf definition property)) .arithmeticOverflow
    return {
      liquidationValue := liquidationValue
      housesReturned := acc.housesReturned + property.houses
      hotelsReturned := acc.hotelsReturned + if property.hasHotel then 1 else 0
      nextProperties := acc.nextProperties ++ [property.release] }

def liquidate (bankruptSeatIndex : ℕ) (properties : List PropertyState) :
    Except BankruptcyRuleErrorCode Liquidation :=
  properties.foldlM (liquidateProperty bankruptSeatIndex) ⟨0, 0, 0, []⟩

/-! ### Resolution -/

/-- A player out of the game. -/
def BankruptcyPlayerState.eliminate (player : BankruptcyPlayerState) : BankruptcyPlayerState :=
  { player with
    status := .eliminated
    cash := 0
    position := 0
    inJail := false
    jailTurns := 0
    consecutiveDoubles := 0
    getOutOfJailCards := 0 }

/-- The seats still active, in order. -/
def activeSeatIndexes (players : List (Option BankruptcyPlayerState)) : List ℕ :=
  ((occupants players).filter fun player => player.status = .active).map
    BankruptcyPlayerState.seatIndex

def resolveBankruptcy (players : List (Option BankruptcyPlayerState))
    (properties : List PropertyState) (inventory : BuildingInventory) (bankCash : ℤ)
    (bankruptSeatIndex : ℕ) : BankruptcyResolutionResult := do
  require (isValidBankruptcyState players properties inventory bankCash = true ∧
    bankruptSeatIndex < GameplayPolicy.maximumPlayers) .invalidBankruptcyState
  let bankruptPlayer ← requireSome (slotAt players bankruptSeatIndex) .playerNotActive
  require (bankruptPlayer.status = .active) .playerNotActive
  let liquidation ← liquidate bankruptSeatIndex properties
  let nextBankCash ← requireSome
    ((checkedAddMatchCash bankCash liquidation.liquidationValue).bind fun afterLiquidation =>
      checkedAddMatchCash afterLiquidation bankruptPlayer.cash) .arithmeticOverflow
  let nextInventory : BuildingInventory := {
    housesRemaining := inventory.housesRemaining + liquidation.housesReturned
    hotelsRemaining := inventory.hotelsRemaining + liquidation.hotelsReturned }
  require (isValidBuildingInventory liquidation.nextProperties nextInventory = true)
    .invalidBankruptcyState
  let nextPlayers := updateSlot bankruptSeatIndex BankruptcyPlayerState.eliminate players
  let remaining := activeSeatIndexes nextPlayers
  return {
    players := nextPlayers
    properties := liquidation.nextProperties
    inventory := nextInventory
    bankCash := nextBankCash
    bankruptSeatIndex := bankruptSeatIndex
    liquidationValue := liquidation.liquidationValue
    cashTransferred := bankruptPlayer.cash
    housesReturned := liquidation.housesReturned
    hotelsReturned := liquidation.hotelsReturned
    endConditionMet := decide (remaining.length ≤ 1)
    winnerSeatIndex := if remaining.length = 1 then remaining.head? else none }

/-! ### The liquidation pass -/

/-- The whole table once `seat` is liquidated. -/
def releaseSeat (seat : ℕ) (properties : List PropertyState) : List PropertyState :=
  properties.map fun property =>
    if property.ownerSeatIndex = some seat then property.release else property

theorem liquidationOf_bounds {index : ℕ} {definition : BoardSpaceDefinition}
    {property : PropertyState} (hd : boardSpaces[index]? = some definition)
    (hhouses : property.houses ≤ 4) :
    0 ≤ liquidationOf definition property ∧ liquidationOf definition property ≤ 700 := by
  obtain ⟨-, hcost, hmortgage⟩ := boardSpace_bounds hd
  have hhalf : (definition.houseCost : ℤ) / 2 ≤ 100 := by omega
  have hhalf0 : (0 : ℤ) ≤ (definition.houseCost : ℤ) / 2 := by omega
  have hmul0 : 0 ≤ (definition.houseCost : ℤ) / 2 * property.houses := by positivity
  have hmul : (definition.houseCost : ℤ) / 2 * property.houses ≤ 100 * 4 := by
    refine mul_le_mul hhalf (by exact_mod_cast hhouses) (by positivity) (by norm_num)
  unfold liquidationOf
  constructor <;> split_ifs <;> omega

/-- The pass succeeds on entries of a valid table as long as the running value stays in range, and
collects exactly what the seat owns. -/
theorem foldlM_liquidateProperty_eq_ok {seat : ℕ} {properties : List PropertyState}
    {acc result : Liquidation}
    (hp : ∀ property ∈ properties, property.houses ≤ 4)
    (h : properties.foldlM (liquidateProperty seat) acc = .ok result) :
    result.nextProperties = acc.nextProperties ++ releaseSeat seat properties ∧
    acc.liquidationValue ≤ result.liquidationValue ∧
    result.liquidationValue ≤ acc.liquidationValue + 700 * properties.length := by
  induction properties generalizing acc with
  | nil =>
    cases h
    simp [releaseSeat]
  | cons property rest ih =>
    rw [List.foldlM_cons, bind_eq_ok] at h
    obtain ⟨acc', hstep, hrest⟩ := h
    obtain ⟨hnext, hle, hbound⟩ := ih (fun p hmem => hp p (List.mem_cons_of_mem _ hmem)) hrest
    rw [List.length_cons]
    simp only [liquidateProperty, ite_eq_ok, bind_eq_ok, requireSome_eq_ok, pure_eq_ok] at hstep
    obtain ⟨hown, rfl⟩ | ⟨hown, definition, hd, value, hvalue, rfl⟩ := hstep
    · refine ⟨?_, hle, by push_cast at *; omega⟩
      rw [hnext, releaseSeat, releaseSeat, List.map_cons, if_neg hown]
      simp
    · obtain ⟨hlo, hhi⟩ := liquidationOf_bounds hd (hp property (List.mem_cons_self ..))
      unfold addLiquidation at hvalue
      split_ifs at hvalue
      obtain ⟨rfl, -⟩ := checkedAddMatchCash_eq_some.1 hvalue
      dsimp only at hnext hle hbound
      refine ⟨?_, by omega, by push_cast at *; omega⟩
      rw [hnext, releaseSeat, releaseSeat, List.map_cons, if_pos (not_not.1 hown)]
      simp

/-- The pass is accepted while the collected value cannot leave the range. -/
theorem foldlM_liquidateProperty_isOk {seat : ℕ} {properties : List PropertyState}
    {acc : Liquidation}
    (hp : ∀ property ∈ properties, property.houses ≤ 4 ∧
      ∃ definition, boardSpaces[property.position]? = some definition)
    (hmax : acc.liquidationValue + 700 * properties.length ≤ maxMatchCash)
    (h0 : 0 ≤ acc.liquidationValue) :
    ∃ result, properties.foldlM (liquidateProperty seat) acc = .ok result ∧
      housesOnBoard (releaseSeat seat properties) + result.housesReturned
        = housesOnBoard properties + acc.housesReturned ∧
      hotelsOnBoard (releaseSeat seat properties) + result.hotelsReturned
        = hotelsOnBoard properties + acc.hotelsReturned := by
  induction properties generalizing acc with
  | nil => exact ⟨acc, rfl, rfl, rfl⟩
  | cons property rest ih =>
    obtain ⟨hhouses, definition, hd⟩ := hp property (List.mem_cons_self ..)
    have hrest := fun p hmem => hp p (List.mem_cons_of_mem _ hmem)
    obtain ⟨hlo, hhi⟩ := liquidationOf_bounds hd hhouses
    rw [List.length_cons] at hmax
    push_cast at hmax
    by_cases hown : property.ownerSeatIndex = some seat
    · obtain ⟨result, hok, hh, hk⟩ := @ih {
        liquidationValue := acc.liquidationValue + liquidationOf definition property
        housesReturned := acc.housesReturned + property.houses
        hotelsReturned := acc.hotelsReturned + if property.hasHotel then 1 else 0
        nextProperties := acc.nextProperties ++ [property.release] } hrest
        (by dsimp only; omega) (by dsimp only; omega)
      have hstep : liquidateProperty seat acc property = .ok {
          liquidationValue := acc.liquidationValue + liquidationOf definition property
          housesReturned := acc.housesReturned + property.houses
          hotelsReturned := acc.hotelsReturned + if property.hasHotel then 1 else 0
          nextProperties := acc.nextProperties ++ [property.release] } := by
        have hadd : addLiquidation acc.liquidationValue (liquidationOf definition property)
            = some (acc.liquidationValue + liquidationOf definition property) := by
          unfold addLiquidation
          rw [if_neg (by omega)]
          exact checkedAddMatchCash_eq_some.2 ⟨rfl, by omega⟩
        simp only [liquidateProperty, ite_eq_ok, bind_eq_ok, requireSome_eq_ok, pure_eq_ok]
        exact .inr ⟨not_not.2 hown, definition, hd, _, hadd, rfl⟩
      refine ⟨result, ?_, ?_, ?_⟩
      · rw [List.foldlM_cons, hstep]; exact hok
      · simp only [housesOnBoard, releaseSeat, List.map_cons, List.sum_cons, hown, if_true,
          PropertyState.release] at hh ⊢
        omega
      · simp only [hotelsOnBoard_eq_sum, releaseSeat, List.map_cons, List.sum_cons, hown, if_true,
          PropertyState.release, hotelCount] at hk ⊢
        simp only [Bool.false_eq_true, if_false] at hk ⊢
        omega
    · obtain ⟨result, hok, hh, hk⟩ :=
        @ih { acc with nextProperties := acc.nextProperties ++ [property] } hrest
        (by dsimp only; omega) h0
      have hstep : liquidateProperty seat acc property
          = .ok { acc with nextProperties := acc.nextProperties ++ [property] } := by
        simp only [liquidateProperty, ite_eq_ok, pure_eq_ok]
        exact .inl ⟨hown, trivial⟩
      refine ⟨result, ?_, ?_, ?_⟩
      · rw [List.foldlM_cons, hstep]; exact hok
      · simp only [housesOnBoard, releaseSeat, List.map_cons, List.sum_cons, hown,
          if_false] at hh ⊢
        omega
      · simp only [hotelsOnBoard_eq_sum, releaseSeat, List.map_cons, List.sum_cons, hown,
          if_false] at hk ⊢
        omega

/-! ### What an accepted resolution does -/

section Resolution

variable {players : List (Option BankruptcyPlayerState)} {properties : List PropertyState}
  {inventory : BuildingInventory} {bankCash : ℤ} {seat : ℕ}

theorem houses_le_of_mem (hv : isValidPropertyStates properties = true) :
    ∀ property ∈ properties, property.houses ≤ 4 ∧
      ∃ definition, boardSpaces[property.position]? = some definition := by
  intro property hp
  obtain ⟨definition, hd, hvp⟩ := exists_definition hv (getElem?_of_mem hv hp)
  exact ⟨hvp.houses_le, definition, hd⟩

theorem resolveBankruptcy_eq_ok {resolution : BankruptcyResolution}
    (h : resolveBankruptcy players properties inventory bankCash seat = .ok resolution) :
    isValidBankruptcyState players properties inventory bankCash = true ∧
    ∃ player, slotAt players seat = some player ∧ player.status = .active ∧
      resolution.players = updateSlot seat BankruptcyPlayerState.eliminate players ∧
      resolution.properties = releaseSeat seat properties ∧
      isValidBuildingInventory resolution.properties resolution.inventory = true ∧
      resolution.bankCash = bankCash + resolution.liquidationValue + player.cash ∧
      resolution.bankCash ≤ maxMatchCash ∧
      0 ≤ resolution.liquidationValue ∧ resolution.liquidationValue ≤ 28000 ∧
      resolution.cashTransferred = player.cash ∧
      resolution.endConditionMet
        = decide ((activeSeatIndexes resolution.players).length ≤ 1) ∧
      resolution.winnerSeatIndex = if (activeSeatIndexes resolution.players).length = 1
        then (activeSeatIndexes resolution.players).head? else none := by
  simp only [resolveBankruptcy, bind_eq_ok, require_eq_ok, requireSome_eq_ok, pure_eq_ok,
    exists_const, Option.bind_eq_some_iff, checkedAddMatchCash_eq_some] at h
  obtain ⟨⟨hv, -⟩, player, hplayer, hactive, liquidation, hliq, bank, ⟨after, ⟨rfl, -⟩, rfl, hmax⟩,
    hinv, rfl⟩ := h
  obtain ⟨-, -, hi, -, -⟩ := isValidBankruptcyState_iff.1 hv
  have hprops := (isValidBuildingInventory_iff.1 hi).1
  obtain ⟨hnext, hlo, hhi⟩ := foldlM_liquidateProperty_eq_ok
    (fun property hp => (houses_le_of_mem hprops property hp).1) hliq
  rw [length_properties hprops] at hhi
  refine ⟨hv, player, hplayer, hactive, rfl, by simpa using hnext, hinv, rfl, hmax, hlo, ?_, rfl,
    rfl, rfl⟩
  push_cast at hhi
  dsimp only at hhi ⊢
  omega

/-- The value of an accepted resolution is that of the pass over the table. -/
theorem resolveBankruptcy_liquidated {resolution : BankruptcyResolution}
    (h : resolveBankruptcy players properties inventory bankCash seat = .ok resolution) :
    ∃ liquidation, liquidate seat properties = .ok liquidation ∧
      resolution.liquidationValue = liquidation.liquidationValue := by
  simp only [resolveBankruptcy, bind_eq_ok, pure_eq_ok] at h
  obtain ⟨-, -, -, -, -, -, liquidation, hliquidate, -, -, -, -, rfl⟩ := h
  exact ⟨liquidation, hliquidate, rfl⟩

theorem isValidPropertyStates_releaseSeat (hv : isValidPropertyStates properties = true)
    (seat : ℕ) : isValidPropertyStates (releaseSeat seat properties) = true := by
  refine isValidPropertyStates_iff.2 ⟨by simp [releaseSeat, length_properties hv], ?_⟩
  intro i property definition hp hd
  rw [releaseSeat, List.getElem?_map] at hp
  obtain ⟨q, hq, rfl⟩ := Option.map_eq_some_iff.1 hp
  have hvq := validPropertyState_of_getElem? hv hq hd
  split_ifs
  · exact {
      position_eq := hvq.position_eq
      owner_le := fun _ ho => nomatch ho
      houses_le := Nat.zero_le _
      hotel_alone := fun _ => rfl
      mortgaged_unbuilt := fun _ => ⟨rfl, rfl⟩
      street_of_built := fun _ => ⟨rfl, rfl⟩
      unowned_clean := fun _ => ⟨rfl, rfl, rfl⟩
      ownable_of_owned := fun _ => rfl }
  · exact hvq

/-- A resolution of an active seat is accepted while the bank cannot overflow. -/
theorem resolveBankruptcy_isOk {player : BankruptcyPlayerState}
    (hv : isValidBankruptcyState players properties inventory bankCash = true) (hseat : seat < 4)
    (hplayer : slotAt players seat = some player) (hactive : player.status = .active)
    (hmax : bankCash + 28000 + player.cash ≤ maxMatchCash) :
    ∃ resolution, resolveBankruptcy players properties inventory bankCash seat
      = .ok resolution := by
  obtain ⟨-, ⟨hbank0, -⟩, hi, hplayers, -⟩ := isValidBankruptcyState_iff.1 hv
  obtain ⟨hprops, hh, hk⟩ := isValidBuildingInventory_iff.1 hi
  have hcash0 := (hplayers seat player hplayer).cash.1
  have hlen := length_properties hprops
  obtain ⟨liquidation, hliq, hhouses, hhotels⟩ := @foldlM_liquidateProperty_isOk seat
    properties ⟨0, 0, 0, []⟩ (houses_le_of_mem hprops) (by rw [hlen]; push_cast; omega) le_rfl
  obtain ⟨hnext, hlo, hhi⟩ := foldlM_liquidateProperty_eq_ok
    (fun property hp => (houses_le_of_mem hprops property hp).1) hliq
  rw [hlen] at hhi
  push_cast at hhi
  dsimp only at hlo hhi hhouses hhotels
  have hinv : isValidBuildingInventory liquidation.nextProperties
      ⟨inventory.housesRemaining + liquidation.housesReturned,
        inventory.hotelsRemaining + liquidation.hotelsReturned⟩ = true := by
    rw [hnext, List.nil_append]
    refine isValidBuildingInventory_iff.2 ⟨isValidPropertyStates_releaseSeat hprops seat, ?_, ?_⟩
    · dsimp only; omega
    · dsimp only; omega
  have hadd : ((checkedAddMatchCash bankCash liquidation.liquidationValue).bind
      fun afterLiquidation => checkedAddMatchCash afterLiquidation player.cash)
      = some (bankCash + liquidation.liquidationValue + player.cash) := by
    rw [checkedAddMatchCash_eq_some.2 ⟨rfl, by omega⟩]
    exact checkedAddMatchCash_eq_some.2 ⟨rfl, by omega⟩
  simp only [resolveBankruptcy, bind_eq_ok, require_eq_ok, requireSome_eq_ok, pure_eq_ok,
    exists_const]
  exact ⟨_, ⟨hv, hseat⟩, player, hplayer, hactive, liquidation, hliq, _, hadd, hinv, rfl⟩

end Resolution

end Pootown
