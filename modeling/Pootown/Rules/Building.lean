import Mathlib.Tactic
import Pootown.Library.Fallible
import Pootown.Rules.Property

/-!
# Building rules

Buying and selling houses and hotels against the shared stock of 32 houses and 12 hotels.

* `buildHouse`, `buildHotel`, `sellHouse`, `sellHotel`;
* `BuildingChange`: what any of the four does to the property table and to the stock;
  `isValidBuildingInventory` is preserved by it.
-/

namespace Pootown

open Slots Fallible

structure BuildingInventory where
  housesRemaining : ℕ
  hotelsRemaining : ℕ

inductive BuildingRuleErrorCode
  | invalidPropertyState | invalidInventory | notOwner | invalidPropertyType | propertyMortgaged
  | propertyHasHotel | invalidHouseCount | doesNotOwnColorGroup | mustBuildEvenly | mustSellEvenly
  | notEnoughHouses | notEnoughHotels | noBuildingToSell | insufficientCash | arithmeticOverflow
  deriving DecidableEq

def BuildingRuleErrorCode.text : BuildingRuleErrorCode → String
  | .invalidPropertyState => "INVALID_PROPERTY_STATE"
  | .invalidInventory => "INVALID_INVENTORY"
  | .notOwner => "NOT_OWNER"
  | .invalidPropertyType => "INVALID_PROPERTY_TYPE"
  | .propertyMortgaged => "PROPERTY_MORTGAGED"
  | .propertyHasHotel => "PROPERTY_HAS_HOTEL"
  | .invalidHouseCount => "INVALID_HOUSE_COUNT"
  | .doesNotOwnColorGroup => "DOES_NOT_OWN_COLOR_GROUP"
  | .mustBuildEvenly => "MUST_BUILD_EVENLY"
  | .mustSellEvenly => "MUST_SELL_EVENLY"
  | .notEnoughHouses => "NOT_ENOUGH_HOUSES"
  | .notEnoughHotels => "NOT_ENOUGH_HOTELS"
  | .noBuildingToSell => "NO_BUILDING_TO_SELL"
  | .insufficientCash => "INSUFFICIENT_CASH"
  | .arithmeticOverflow => "ARITHMETIC_OVERFLOW"

/-- The accepted outcome of a building action. -/
structure BuildingMutation where
  properties : List PropertyState
  inventory : BuildingInventory
  cash : ℤ
  amount : ℤ

abbrev BuildingMutationResult := Except BuildingRuleErrorCode BuildingMutation

/-! ### Stock -/

def housesOnBoard (properties : List PropertyState) : ℕ :=
  (properties.map PropertyState.houses).sum

def hotelsOnBoard (properties : List PropertyState) : ℕ :=
  (properties.filter PropertyState.hasHotel).length

def isValidBuildingInventory (properties : List PropertyState) (inventory : BuildingInventory) :
    Bool :=
  isValidPropertyStates properties &&
  decide (inventory.housesRemaining ≤ GameplayPolicy.totalHouses) &&
  decide (inventory.hotelsRemaining ≤ GameplayPolicy.totalHotels) &&
  decide (housesOnBoard properties + inventory.housesRemaining = GameplayPolicy.totalHouses) &&
  decide (hotelsOnBoard properties + inventory.hotelsRemaining = GameplayPolicy.totalHotels)

theorem isValidBuildingInventory_iff {properties : List PropertyState}
    {inventory : BuildingInventory} :
    isValidBuildingInventory properties inventory = true ↔
      isValidPropertyStates properties = true ∧
      housesOnBoard properties + inventory.housesRemaining = 32 ∧
      hotelsOnBoard properties + inventory.hotelsRemaining = 12 := by
  simp only [isValidBuildingInventory, Bool.and_eq_true, decide_eq_true_eq,
    GameplayPolicy.totalHouses, GameplayPolicy.totalHotels]
  constructor
  · rintro ⟨⟨⟨⟨hv, -⟩, -⟩, hh⟩, hk⟩
    exact ⟨hv, hh, hk⟩
  · rintro ⟨hv, hh, hk⟩
    exact ⟨⟨⟨⟨hv, by omega⟩, by omega⟩, hh⟩, hk⟩

/-- The hotels on one space, as a summand. -/
def hotelCount (property : PropertyState) : ℕ := if property.hasHotel then 1 else 0

theorem hotelsOnBoard_eq_sum (properties : List PropertyState) :
    hotelsOnBoard properties = (properties.map hotelCount).sum := by
  induction properties with
  | nil => rfl
  | cons p ps ih =>
    unfold hotelsOnBoard at ih ⊢
    rw [List.filter_cons, List.map_cons, List.sum_cons, hotelCount]
    split_ifs with h
    · rw [List.length_cons, ih, Nat.add_comm]
    · rw [ih, Nat.zero_add]

/-- Moving houses and hotels between one space and the stock keeps the stock valid. -/
theorem isValidBuildingInventory_replaceProperty {properties : List PropertyState}
    {inventory inventory' : BuildingInventory} {position : ℕ} {property : PropertyState}
    {update : PropertyState → PropertyState}
    (hv : isValidBuildingInventory properties inventory = true)
    (hp : properties[position]? = some property)
    (hu : ∀ definition, boardSpaces[position]? = some definition →
      ValidPropertyState definition position (update property))
    (hhouses : (update property).houses + inventory'.housesRemaining
      = property.houses + inventory.housesRemaining)
    (hhotels : hotelCount (update property) + inventory'.hotelsRemaining
      = hotelCount property + inventory.hotelsRemaining) :
    isValidBuildingInventory (replaceProperty properties position update) inventory' = true := by
  rw [isValidBuildingInventory_iff] at hv ⊢
  obtain ⟨hv, hh, hk⟩ := hv
  refine ⟨isValidPropertyStates_replaceProperty hv fun q d hq hd => ?_, ?_, ?_⟩
  · rw [hp] at hq
    cases hq
    exact hu d hd
  · have hsum := sum_replaceProperty hv hp (fun p => (p.houses : ℤ)) update
    unfold housesOnBoard at hh ⊢
    have hcast : ∀ l : List PropertyState,
        (l.map fun p => (p.houses : ℤ)).sum = ((l.map PropertyState.houses).sum : ℕ) := by
      intro l; rw [Nat.cast_list_sum, List.map_map]; rfl
    rw [hcast, hcast] at hsum
    omega
  · have hsum := sum_replaceProperty hv hp (fun p => (hotelCount p : ℤ)) update
    rw [hotelsOnBoard_eq_sum] at hk ⊢
    have hcast : ∀ l : List PropertyState,
        (l.map fun p => (hotelCount p : ℤ)).sum = ((l.map hotelCount).sum : ℕ) := by
      intro l; rw [Nat.cast_list_sum, List.map_map]; rfl
    rw [hcast, hcast] at hsum
    omega

/-! ### The four actions -/

/-- The space and its house cost, once the table, the stock, the type and the owner are checked. -/
def validateBase (properties : List PropertyState) (inventory : BuildingInventory)
    (position ownerSeatIndex : ℕ) : Except BuildingRuleErrorCode (PropertyState × ℤ) := do
  require (isValidPropertyStates properties = true) .invalidPropertyState
  require (isValidBuildingInventory properties inventory = true) .invalidInventory
  let property ← requireSome properties[position]? .invalidPropertyState
  let definition ← requireSome boardSpaces[position]? .invalidPropertyState
  require (definition.propertyType = .street) .invalidPropertyType
  require (property.ownerSeatIndex = some ownerSeatIndex) .notOwner
  return (property, definition.houseCost)

def buildHouse (properties : List PropertyState) (inventory : BuildingInventory)
    (position ownerSeatIndex : ℕ) (cash : ℤ) : BuildingMutationResult := do
  let (property, houseCost) ← validateBase properties inventory position ownerSeatIndex
  require (property.mortgaged = false) .propertyMortgaged
  require (property.hasHotel = false) .propertyHasHotel
  require (property.houses < 4) .invalidHouseCount
  require ((boardSpaces[position]?).any (fun definition =>
    hasMonopoly properties ownerSeatIndex definition.colorGroup) = true) .doesNotOwnColorGroup
  require (canBuildHouse properties position ownerSeatIndex = true) .mustBuildEvenly
  require (1 ≤ inventory.housesRemaining) .notEnoughHouses
  let nextCash ← requireSome (checkedSubtractMatchCash cash houseCost) .insufficientCash
  return {
    properties := replaceProperty properties position fun p =>
      { p with houses := property.houses + 1 }
    inventory := { inventory with housesRemaining := inventory.housesRemaining - 1 }
    cash := nextCash
    amount := houseCost }

def buildHotel (properties : List PropertyState) (inventory : BuildingInventory)
    (position ownerSeatIndex : ℕ) (cash : ℤ) : BuildingMutationResult := do
  let (property, houseCost) ← validateBase properties inventory position ownerSeatIndex
  require (property.mortgaged = false) .propertyMortgaged
  require (property.hasHotel = false) .propertyHasHotel
  require (property.houses = 4) .invalidHouseCount
  require ((boardSpaces[position]?).any (fun definition =>
    hasMonopoly properties ownerSeatIndex definition.colorGroup) = true) .doesNotOwnColorGroup
  require (1 ≤ inventory.hotelsRemaining) .notEnoughHotels
  let nextCash ← requireSome (checkedSubtractMatchCash cash houseCost) .insufficientCash
  return {
    properties := replaceProperty properties position fun p =>
      { p with houses := 0, hasHotel := true }
    inventory := {
      housesRemaining := inventory.housesRemaining + 4
      hotelsRemaining := inventory.hotelsRemaining - 1 }
    cash := nextCash
    amount := houseCost }

def sellHouse (properties : List PropertyState) (inventory : BuildingInventory)
    (position ownerSeatIndex : ℕ) (cash : ℤ) : BuildingMutationResult := do
  let (property, houseCost) ← validateBase properties inventory position ownerSeatIndex
  require (1 ≤ property.houses ∧ property.hasHotel = false) .noBuildingToSell
  require (canSellHouse properties position ownerSeatIndex = true) .mustSellEvenly
  let salePrice := houseCost / 2
  let nextCash ← requireSome (checkedAddMatchCash cash salePrice) .arithmeticOverflow
  return {
    properties := replaceProperty properties position fun p =>
      { p with houses := property.houses - 1 }
    inventory := { inventory with housesRemaining := inventory.housesRemaining + 1 }
    cash := nextCash
    amount := salePrice }

def sellHotel (properties : List PropertyState) (inventory : BuildingInventory)
    (position ownerSeatIndex : ℕ) (cash : ℤ) : BuildingMutationResult := do
  let (property, houseCost) ← validateBase properties inventory position ownerSeatIndex
  require (property.hasHotel = true) .noBuildingToSell
  require (4 ≤ inventory.housesRemaining) .notEnoughHouses
  let salePrice := houseCost / 2
  let nextCash ← requireSome (checkedAddMatchCash cash salePrice) .arithmeticOverflow
  return {
    properties := replaceProperty properties position fun p =>
      { p with houses := 4, hasHotel := false }
    inventory := {
      housesRemaining := inventory.housesRemaining - 4
      hotelsRemaining := inventory.hotelsRemaining + 1 }
    cash := nextCash
    amount := salePrice }

/-! ### What an accepted action does -/

/-- The table and the stock after a building action: one owned, unmortgaged street changes its
buildings, the stock takes up the difference, and nobody's ownership changes. -/
structure BuildingChange (properties : List PropertyState) (inventory : BuildingInventory)
    (mutation : BuildingMutation) : Prop where
  valid : isValidBuildingInventory mutation.properties mutation.inventory = true
  owners : mutation.properties.map PropertyState.ownerSeatIndex
    = properties.map PropertyState.ownerSeatIndex
  amount_nonneg : 0 ≤ mutation.amount
  amount_le : mutation.amount ≤ 200

theorem validateBase_eq_ok {properties : List PropertyState} {inventory : BuildingInventory}
    {position ownerSeatIndex : ℕ} {property : PropertyState} {houseCost : ℤ}
    (h : validateBase properties inventory position ownerSeatIndex = .ok (property, houseCost)) :
    isValidBuildingInventory properties inventory = true ∧ properties[position]? = some property ∧
      property.ownerSeatIndex = some ownerSeatIndex ∧
      ∃ definition, boardSpaces[position]? = some definition ∧ definition.propertyType = .street ∧
        houseCost = definition.houseCost := by
  simp only [validateBase, bind_eq_ok, require_eq_ok, requireSome_eq_ok, pure_eq_ok, exists_const,
    Prod.mk.injEq] at h
  obtain ⟨-, hi, p, hp, d, hd, hstreet, howner, rfl, rfl⟩ := h
  exact ⟨hi, hp, howner, d, hd, hstreet, rfl⟩

theorem map_owner_replaceProperty {properties : List PropertyState} {position : ℕ}
    {update : PropertyState → PropertyState}
    (hu : ∀ p, (update p).ownerSeatIndex = p.ownerSeatIndex) :
    (replaceProperty properties position update).map PropertyState.ownerSeatIndex
      = properties.map PropertyState.ownerSeatIndex := by
  unfold replaceProperty updateKey
  rw [List.map_map]
  refine List.map_congr_left fun p _ => ?_
  simp only [Function.comp_apply]
  split_ifs
  · exact hu p
  · rfl

section Actions

variable {properties : List PropertyState} {inventory : BuildingInventory}
  {position ownerSeatIndex : ℕ} {cash : ℤ} {mutation : BuildingMutation}

/-- The common part of the four actions: a street entry may be rebuilt as long as the stock
balances and the new entry is not over-built. -/
theorem BuildingChange.of_update {property : PropertyState} {definition : BoardSpaceDefinition}
    {houses : ℕ} {hasHotel : Bool} {inventory' : BuildingInventory} {amount : ℤ}
    (hi : isValidBuildingInventory properties inventory = true)
    (hp : properties[position]? = some property)
    (howner : property.ownerSeatIndex = some ownerSeatIndex)
    (hd : boardSpaces[position]? = some definition) (hstreet : definition.propertyType = .street)
    (hmortgaged : property.mortgaged = false) (hle : houses ≤ 4)
    (hhotel : hasHotel = true → houses = 0)
    (hhouses : houses + inventory'.housesRemaining = property.houses + inventory.housesRemaining)
    (hhotels : (if hasHotel then 1 else 0) + inventory'.hotelsRemaining
      = hotelCount property + inventory.hotelsRemaining)
    (hamount : 0 ≤ amount ∧ amount ≤ 200) :
    BuildingChange properties inventory
      ⟨replaceProperty properties position fun p =>
        { p with houses := houses, hasHotel := hasHotel }, inventory', cash, amount⟩ where
  valid := by
    refine isValidBuildingInventory_replaceProperty hi hp (fun d' hd' => ?_) hhouses hhotels
    have hvp := validPropertyState_of_getElem? (isValidBuildingInventory_iff.1 hi).1 hp hd
    rw [hd] at hd'
    cases hd'
    exact {
      position_eq := hvp.position_eq
      owner_le := hvp.owner_le
      houses_le := hle
      hotel_alone := hhotel
      mortgaged_unbuilt := fun hm => by simp [hmortgaged] at hm
      street_of_built := fun hne => absurd hstreet hne
      unowned_clean := fun hnone => by simp [howner] at hnone
      ownable_of_owned := hvp.ownable_of_owned }
  owners := map_owner_replaceProperty fun _ => rfl
  amount_nonneg := hamount.1
  amount_le := hamount.2

/-- A house update leaves the hotel flag of its entry as it was. -/
theorem replaceProperty_houses {property : PropertyState} {houses : ℕ}
    (hi : isValidBuildingInventory properties inventory = true)
    (hp : properties[position]? = some property) :
    (replaceProperty properties position fun p => { p with houses := houses })
      = replaceProperty properties position fun p =>
        { p with houses := houses, hasHotel := property.hasHotel } := by
  unfold replaceProperty updateKey
  refine List.map_congr_left fun p hpm => ?_
  split_ifs with hpos
  · have := getElem?_of_mem (isValidBuildingInventory_iff.1 hi).1 hpm
    rw [hpos, hp] at this
    cases this
    rfl
  · rfl

theorem buildHouse_eq_ok
    (h : buildHouse properties inventory position ownerSeatIndex cash = .ok mutation) :
    BuildingChange properties inventory mutation ∧ mutation.cash = cash - mutation.amount ∧
      mutation.amount ≤ cash := by
  simp only [buildHouse, bind_eq_ok, Prod.exists, require_eq_ok, requireSome_eq_ok,
    pure_eq_ok, exists_const] at h
  obtain ⟨property, cost, hbase, hm, hk, hlt, -, -, hstock, next, hnext, rfl⟩ := h
  obtain ⟨hi, hp, howner, d, hd, hstreet, rfl⟩ := validateBase_eq_ok hbase
  obtain ⟨rfl, hle⟩ := checkedSubtractMatchCash_eq_some.1 hnext
  have hcost := (boardSpace_bounds hd).2.1
  rw [replaceProperty_houses hi hp]
  refine ⟨.of_update hi hp howner hd hstreet hm (by omega) (by simp [hk]) ?_ ?_ ?_, rfl, hle⟩
  · dsimp only; omega
  · rfl
  · omega

theorem buildHotel_eq_ok
    (h : buildHotel properties inventory position ownerSeatIndex cash = .ok mutation) :
    BuildingChange properties inventory mutation ∧ mutation.cash = cash - mutation.amount ∧
      mutation.amount ≤ cash := by
  simp only [buildHotel, bind_eq_ok, Prod.exists, require_eq_ok, requireSome_eq_ok,
    pure_eq_ok, exists_const] at h
  obtain ⟨property, cost, hbase, hm, hk, hfour, -, hstock, next, hnext, rfl⟩ := h
  obtain ⟨hi, hp, howner, d, hd, hstreet, rfl⟩ := validateBase_eq_ok hbase
  obtain ⟨rfl, hle⟩ := checkedSubtractMatchCash_eq_some.1 hnext
  have hcost := (boardSpace_bounds hd).2.1
  refine ⟨.of_update hi hp howner hd hstreet hm (by omega) (fun _ => rfl) ?_ ?_ ?_, rfl, hle⟩
  · dsimp only; omega
  · rw [hotelCount, hk]; simp; omega
  · omega

theorem sellHouse_eq_ok
    (h : sellHouse properties inventory position ownerSeatIndex cash = .ok mutation) :
    BuildingChange properties inventory mutation ∧ mutation.cash = cash + mutation.amount ∧
      cash + mutation.amount ≤ maxMatchCash := by
  simp only [sellHouse, bind_eq_ok, Prod.exists, require_eq_ok, requireSome_eq_ok,
    pure_eq_ok, exists_const] at h
  obtain ⟨property, cost, hbase, ⟨hone, hk⟩, -, next, hnext, rfl⟩ := h
  obtain ⟨hi, hp, howner, d, hd, hstreet, rfl⟩ := validateBase_eq_ok hbase
  obtain ⟨rfl, hle⟩ := checkedAddMatchCash_eq_some.1 hnext
  have hcost := (boardSpace_bounds hd).2.1
  have hvp := validPropertyState_of_getElem? (isValidBuildingInventory_iff.1 hi).1 hp hd
  have hhouses := hvp.houses_le
  have hm : property.mortgaged = false := by
    by_contra hcon
    have := hvp.mortgaged_unbuilt (by simpa using hcon)
    omega
  rw [replaceProperty_houses hi hp]
  refine ⟨.of_update hi hp howner hd hstreet hm (by omega) (by simp [hk]) ?_ ?_ ?_, rfl, hle⟩
  · dsimp only; omega
  · rfl
  · omega

theorem sellHotel_eq_ok
    (h : sellHotel properties inventory position ownerSeatIndex cash = .ok mutation) :
    BuildingChange properties inventory mutation ∧ mutation.cash = cash + mutation.amount ∧
      cash + mutation.amount ≤ maxMatchCash := by
  simp only [sellHotel, bind_eq_ok, Prod.exists, require_eq_ok, requireSome_eq_ok,
    pure_eq_ok, exists_const] at h
  obtain ⟨property, cost, hbase, hk, hstock, next, hnext, rfl⟩ := h
  obtain ⟨hi, hp, howner, d, hd, hstreet, rfl⟩ := validateBase_eq_ok hbase
  obtain ⟨rfl, hle⟩ := checkedAddMatchCash_eq_some.1 hnext
  have hcost := (boardSpace_bounds hd).2.1
  have hvp := validPropertyState_of_getElem? (isValidBuildingInventory_iff.1 hi).1 hp hd
  have hzero := hvp.hotel_alone hk
  have hm : property.mortgaged = false := by
    by_contra hcon
    have := hvp.mortgaged_unbuilt (by simpa using hcon)
    simp [hk] at this
  refine ⟨.of_update hi hp howner hd hstreet hm (by omega) (by simp) ?_ ?_ ?_, rfl, hle⟩
  · dsimp only; omega
  · rw [hotelCount, hk]; simp; omega
  · omega

end Actions

end Pootown
