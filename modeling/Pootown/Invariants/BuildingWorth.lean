import Mathlib.Tactic
import Pootown.Library.Runs
import Pootown.Transition.Property

/-!
# What buildings are worth

A hotel counts as five houses. What a seat pays for one building more is the net worth that the
building adds, and what it is paid for one building less, half of that; a liquidation pays half for
every building.

* `ownedSum`: what the spaces of a seat are worth; `calculatePlayerNetWorth_eq` and
  `liquidationValue_eq`: net worth and liquidation value as such sums;
* `OneBuilding`: what an action does to a table, one building more or less on one street;
* `building_never_profits`: along every sequence of actions.
-/

namespace Pootown

open Fallible Slots Runs

/-! ### Owned spaces -/

/-- What a space is worth to a seat: nothing, if the space is not the seat's. -/
def ownedWorth (seat : ℕ) (worth : BoardSpaceDefinition → PropertyState → ℤ)
    (property : PropertyState) : ℤ :=
  if property.ownerSeatIndex = some seat then
    ((boardSpaces[property.position]?).map fun definition => worth definition property).getD 0
  else 0

def ownedSum (seat : ℕ) (worth : BoardSpaceDefinition → PropertyState → ℤ)
    (properties : List PropertyState) : ℤ :=
  (properties.map (ownedWorth seat worth)).sum

section Sums

variable {seat : ℕ} {worth : BoardSpaceDefinition → PropertyState → ℤ} {property : PropertyState}
  {properties : List PropertyState} {definition : BoardSpaceDefinition}

theorem ownedWorth_of_owner (howner : property.ownerSeatIndex = some seat)
    (hd : boardSpaces[property.position]? = some definition) :
    ownedWorth seat worth property = worth definition property := by
  rw [ownedWorth, if_pos howner, hd]
  rfl

theorem ownedWorth_of_not_owner (howner : property.ownerSeatIndex ≠ some seat) :
    ownedWorth seat worth property = 0 :=
  if_neg howner

theorem ownedSum_cons : ownedSum seat worth (property :: properties) =
    ownedWorth seat worth property + ownedSum seat worth properties := by
  rw [ownedSum, List.map_cons, List.sum_cons]
  rfl

theorem ownedSum_nonneg
    (h : ∀ property ∈ properties, ∀ definition, boardSpaces[property.position]? = some definition →
      0 ≤ worth definition property) : 0 ≤ ownedSum seat worth properties := by
  refine List.sum_nonneg fun x hx => ?_
  obtain ⟨property, hmem, rfl⟩ := List.mem_map.1 hx
  unfold ownedWorth
  split_ifs
  · cases hd : boardSpaces[property.position]? with
    | none => exact le_rfl
    | some definition => exact h property hmem definition hd
  · exact le_rfl

end Sums

/-- What a space adds to the net worth of its owner. -/
def spaceNetWorth (definition : BoardSpaceDefinition) (property : PropertyState) : ℤ :=
  propertyNetWorth definition property + buildingNetWorth definition property

/-- The pass over the table adds up to the sum, unless that leaves the range. -/
theorem foldlM_addNetWorth_eq {seat : ℕ} {properties : List PropertyState} {netWorth : ℤ}
    (hp : ∀ property ∈ properties, property.houses ≤ 4 ∧
      ∃ definition, boardSpaces[property.position]? = some definition)
    (hmax : netWorth ≤ maxMatchCash) :
    properties.foldlM (addNetWorth seat) netWorth =
      if netWorth + ownedSum seat spaceNetWorth properties ≤ maxMatchCash
        then some (netWorth + ownedSum seat spaceNetWorth properties) else none := by
  induction properties generalizing netWorth with
  | nil => simp [ownedSum, hmax]
  | cons property rest ih =>
    obtain ⟨hhouses, definition, hd⟩ := hp property (List.mem_cons_self ..)
    have hrest := fun p hmem => hp p (List.mem_cons_of_mem _ hmem)
    obtain ⟨⟨hp0, -⟩, hb0, -⟩ := netWorth_bounds hd hhouses
    have hnonneg : 0 ≤ ownedSum seat spaceNetWorth rest := by
      refine ownedSum_nonneg fun p hmem d hd => ?_
      obtain ⟨⟨hp0, -⟩, hb0, -⟩ := netWorth_bounds hd (hrest p hmem).1
      exact add_nonneg hp0 hb0
    rw [List.foldlM_cons, ownedSum_cons]
    by_cases hown : property.ownerSeatIndex = some seat
    · rw [ownedWorth_of_owner hown hd, ← add_assoc]
      by_cases hfits : netWorth + spaceNetWorth definition property ≤ maxMatchCash
      · have hstep : addNetWorth seat netWorth property =
            some (netWorth + spaceNetWorth definition property) := by
          rw [spaceNetWorth] at hfits ⊢
          simp only [addNetWorth, hown, ne_eq, not_true, if_false, hd, Option.bind_eq_bind,
            Option.bind_some]
          rw [checkedAddMatchCash_eq_some.2 ⟨rfl, by omega⟩, Option.bind_some,
            checkedAddMatchCash_eq_some.2 ⟨rfl, by omega⟩, add_assoc]
        rw [hstep]
        exact ih hrest hfits
      · have hstep : addNetWorth seat netWorth property = none := by
          rw [spaceNetWorth] at hfits
          simp only [addNetWorth, hown, ne_eq, not_true, if_false, hd, Option.bind_eq_bind,
            Option.bind_some, Option.bind_eq_none_iff]
          intro after hafter
          obtain ⟨rfl, -⟩ := checkedAddMatchCash_eq_some.1 hafter
          exact if_neg (by omega)
        rw [hstep, if_neg (by omega)]
        rfl
    · have hstep : addNetWorth seat netWorth property = some netWorth := by
        simp only [addNetWorth, hown, ne_eq, not_false_iff, if_true]
        rfl
      rw [hstep, ownedWorth_of_not_owner hown, zero_add]
      exact ih hrest hmax

/-- The net worth of an active player is cash and what the player owns, unless that leaves the
range. -/
theorem calculatePlayerNetWorth_eq {player : TerminalPlayerState}
    {properties : List PropertyState} (hp : ValidTerminalPlayer player)
    (hv : isValidPropertyStates properties = true) (hactive : player.status = .active) :
    calculatePlayerNetWorth player properties =
      if player.cash + ownedSum player.seatIndex spaceNetWorth properties ≤ maxMatchCash
        then some (player.cash + ownedSum player.seatIndex spaceNetWorth properties) else none := by
  unfold calculatePlayerNetWorth
  rw [if_neg (by simp [hp.1, hp.2.1.1, hp.2.1.2, hv, hactive])]
  exact foldlM_addNetWorth_eq (houses_le_of_mem hv) hp.2.1.2

/-- The pass of a liquidation collects what the seat owns. -/
theorem foldlM_liquidateProperty_value {seat : ℕ} {properties : List PropertyState}
    {acc result : Liquidation} (h : properties.foldlM (liquidateProperty seat) acc = .ok result) :
    result.liquidationValue =
      acc.liquidationValue + ownedSum seat liquidationOf properties := by
  induction properties generalizing acc with
  | nil =>
    cases h
    simp [ownedSum]
  | cons property rest ih =>
    rw [List.foldlM_cons, bind_eq_ok] at h
    obtain ⟨acc', hstep, hrest⟩ := h
    rw [ih hrest, ownedSum_cons]
    simp only [liquidateProperty, ite_eq_ok, bind_eq_ok, requireSome_eq_ok, pure_eq_ok] at hstep
    obtain ⟨hown, rfl⟩ | ⟨hown, definition, hd, value, hvalue, rfl⟩ := hstep
    · rw [ownedWorth_of_not_owner hown, zero_add]
    · unfold addLiquidation at hvalue
      split_ifs at hvalue
      obtain ⟨rfl, -⟩ := checkedAddMatchCash_eq_some.1 hvalue
      rw [ownedWorth_of_owner (not_not.1 hown) hd, add_assoc]

theorem liquidationValue_eq {players : List (Option BankruptcyPlayerState)}
    {properties : List PropertyState} {inventory : BuildingInventory} {bankCash : ℤ} {seat : ℕ}
    {resolution : BankruptcyResolution}
    (h : resolveBankruptcy players properties inventory bankCash seat = .ok resolution) :
    resolution.liquidationValue = ownedSum seat liquidationOf properties := by
  simp only [resolveBankruptcy, bind_eq_ok, require_eq_ok, requireSome_eq_ok, pure_eq_ok,
    exists_const] at h
  obtain ⟨-, player, -, -, liquidation, hliquidate, bank, -, -, rfl⟩ := h
  exact (foldlM_liquidateProperty_value hliquidate).trans (zero_add _)

/-! ### One building more or less -/

/-- House costs are even, so that half of one is exact. -/
theorem houseCost_even {position : ℕ} {definition : BoardSpaceDefinition}
    (h : boardSpaces[position]? = some definition) : definition.houseCost % 2 = 0 := by
  have hall : ∀ d ∈ boardSpaces, d.houseCost % 2 = 0 := by decide
  exact hall _ (List.mem_of_getElem? h)

/-- The buildings on a space, in houses. -/
def buildingsOn (property : PropertyState) : ℤ :=
  if property.hasHotel then 5 else property.houses

/-- A street of `seat` is rebuilt, from `property` to as many houses and hotels as given. -/
structure RebuiltStreet (seat position : ℕ) (properties properties' : List PropertyState)
    (definition : BoardSpaceDefinition) (property : PropertyState) (houses : ℕ) (hasHotel : Bool) :
    Prop where
  valid : isValidPropertyStates properties = true
  found : properties[position]? = some property
  owner : property.ownerSeatIndex = some seat
  space : boardSpaces[position]? = some definition
  table : properties' = replaceProperty properties position fun p =>
    { p with houses := houses, hasHotel := hasHotel }

/-- The buildings on one street of `seat` change by `built`, which is 1 or -1. -/
def OneBuilding (seat position : ℕ) (definition : BoardSpaceDefinition)
    (properties properties' : List PropertyState) (built : ℤ) : Prop :=
  ∃ property houses hasHotel,
    RebuiltStreet seat position properties properties' definition property houses hasHotel ∧
    buildingsOn { property with houses := houses, hasHotel := hasHotel } =
      buildingsOn property + built

section OneBuilding

variable {seat position : ℕ} {properties properties' : List PropertyState}
  {inventory : BuildingInventory} {cash : ℤ} {mutation : BuildingMutation}
  {definition : BoardSpaceDefinition} {property : PropertyState} {houses : ℕ} {hasHotel : Bool}

theorem RebuiltStreet.ownedSum
    (h : RebuiltStreet seat position properties properties' definition property houses hasHotel)
    (worth : BoardSpaceDefinition → PropertyState → ℤ) :
    ownedSum seat worth properties' = ownedSum seat worth properties
      - worth definition property
      + worth definition { property with houses := houses, hasHotel := hasHotel } := by
  have hpos : property.position = position := position_of_getElem? h.valid h.found
  have hspace : boardSpaces[property.position]? = some definition := hpos ▸ h.space
  rw [h.table, Pootown.ownedSum, sum_replaceProperty h.valid h.found,
    ownedWorth_of_owner h.owner hspace]
  exact congrArg _ (ownedWorth_of_owner h.owner hspace)

theorem spaceNetWorth_eq (definition : BoardSpaceDefinition) (property : PropertyState) :
    spaceNetWorth definition property =
      propertyNetWorth definition property + definition.houseCost * buildingsOn property := by
  unfold spaceNetWorth buildingNetWorth buildingsOn
  split_ifs <;> rfl

theorem liquidationOf_eq (hspace : boardSpaces[position]? = some definition)
    (property : PropertyState) :
    liquidationOf definition property =
      (definition.houseCost : ℤ) / 2 * buildingsOn property +
        if property.mortgaged then 0 else (definition.mortgageValue : ℤ) := by
  have heven := houseCost_even hspace
  unfold liquidationOf buildingsOn
  split_ifs <;> omega

/-- The net worth of a street moves by the house cost, its liquidation value by half of that. -/
theorem OneBuilding.worth {built : ℤ}
    (h : OneBuilding seat position definition properties properties' built) :
    ownedSum seat spaceNetWorth properties' =
      ownedSum seat spaceNetWorth properties + definition.houseCost * built ∧
    ownedSum seat liquidationOf properties' =
      ownedSum seat liquidationOf properties + (definition.houseCost : ℤ) / 2 * built := by
  obtain ⟨property, houses, hasHotel, hrebuilt, hbuilt⟩ := h
  refine ⟨?_, ?_⟩
  · rw [hrebuilt.ownedSum, spaceNetWorth_eq, spaceNetWorth_eq, hbuilt]
    simp only [propertyNetWorth]
    ring
  · rw [hrebuilt.ownedSum, liquidationOf_eq hrebuilt.space, liquidationOf_eq hrebuilt.space,
      hbuilt]
    ring

/-- A building more, for its price. -/
theorem build_oneBuilding {buildingType : BuildingType}
    (h : (BuildingAction.build buildingType).apply properties inventory position seat cash
      = .ok mutation) :
    ∃ definition, OneBuilding seat position definition properties mutation.properties 1 ∧
      mutation.cash = cash - definition.houseCost := by
  cases buildingType with
  | house =>
    simp only [BuildingAction.apply, buildHouse, bind_eq_ok, Prod.exists, require_eq_ok,
      requireSome_eq_ok, pure_eq_ok, exists_const] at h
    obtain ⟨property, cost, hbase, -, hnone, -, -, -, -, next, hnext, rfl⟩ := h
    obtain ⟨hi, hp, howner, definition, hd, -, rfl⟩ := validateBase_eq_ok hbase
    obtain ⟨rfl, -⟩ := checkedSubtractMatchCash_eq_some.1 hnext
    refine ⟨definition, ⟨property, property.houses + 1, property.hasHotel,
      ⟨(isValidBuildingInventory_iff.1 hi).1, hp, howner, hd, replaceProperty_houses hi hp⟩, ?_⟩,
      rfl⟩
    simp [buildingsOn, hnone]
  | hotel =>
    simp only [BuildingAction.apply, buildHotel, bind_eq_ok, Prod.exists, require_eq_ok,
      requireSome_eq_ok, pure_eq_ok, exists_const] at h
    obtain ⟨property, cost, hbase, -, hnone, hfour, -, -, next, hnext, rfl⟩ := h
    obtain ⟨hi, hp, howner, definition, hd, -, rfl⟩ := validateBase_eq_ok hbase
    obtain ⟨rfl, -⟩ := checkedSubtractMatchCash_eq_some.1 hnext
    refine ⟨definition, ⟨property, 0, true,
      ⟨(isValidBuildingInventory_iff.1 hi).1, hp, howner, hd, rfl⟩, ?_⟩, rfl⟩
    simp [buildingsOn, hnone, hfour]

/-- A building less, for half of its price. -/
theorem sell_oneBuilding {buildingType : BuildingType}
    (h : (BuildingAction.sell buildingType).apply properties inventory position seat cash
      = .ok mutation) :
    ∃ definition, OneBuilding seat position definition properties mutation.properties (-1) ∧
      mutation.cash = cash + (definition.houseCost : ℤ) / 2 := by
  cases buildingType with
  | house =>
    simp only [BuildingAction.apply, sellHouse, bind_eq_ok, Prod.exists, require_eq_ok,
      requireSome_eq_ok, pure_eq_ok, exists_const] at h
    obtain ⟨property, cost, hbase, ⟨hone, hnone⟩, -, next, hnext, rfl⟩ := h
    obtain ⟨hi, hp, howner, definition, hd, -, rfl⟩ := validateBase_eq_ok hbase
    obtain ⟨rfl, -⟩ := checkedAddMatchCash_eq_some.1 hnext
    refine ⟨definition, ⟨property, property.houses - 1, property.hasHotel,
      ⟨(isValidBuildingInventory_iff.1 hi).1, hp, howner, hd, replaceProperty_houses hi hp⟩, ?_⟩,
      rfl⟩
    simp only [buildingsOn, hnone, Bool.false_eq_true, if_false]
    omega
  | hotel =>
    simp only [BuildingAction.apply, sellHotel, bind_eq_ok, Prod.exists, require_eq_ok,
      requireSome_eq_ok, pure_eq_ok, exists_const] at h
    obtain ⟨property, cost, hbase, hhotel, -, next, hnext, rfl⟩ := h
    obtain ⟨hi, hp, howner, definition, hd, -, rfl⟩ := validateBase_eq_ok hbase
    obtain ⟨rfl, -⟩ := checkedAddMatchCash_eq_some.1 hnext
    refine ⟨definition, ⟨property, 4, false,
      ⟨(isValidBuildingInventory_iff.1 hi).1, hp, howner, hd, rfl⟩, ?_⟩, rfl⟩
    simp [buildingsOn, hhotel]

/-- A seat that is eliminated and owns a space has no net worth. -/
theorem calculatePlayerNetWorth_eliminated (hmem : property ∈ properties)
    (howner : property.ownerSeatIndex = some seat) :
    calculatePlayerNetWorth ⟨seat, .eliminated, cash⟩ properties = none := by
  have hany : (properties.any fun property => property.ownerSeatIndex == some seat) = true :=
    List.any_eq_true.2 ⟨property, hmem, by simp [howner]⟩
  exact if_pos (.inr (.inr ⟨rfl, hany⟩))

/-- Rebuilding leaves the space with its owner, on a valid table. -/
theorem RebuiltStreet.mem
    (h : RebuiltStreet seat position properties properties' definition property houses hasHotel) :
    ∃ property' ∈ properties', property'.ownerSeatIndex = some seat := by
  refine ⟨{ property with houses := houses, hasHotel := hasHotel }, ?_, h.owner⟩
  rw [h.table]
  refine List.mem_map.2 ⟨property, List.mem_of_getElem? h.found, ?_⟩
  exact if_pos (position_of_getElem? h.valid h.found)

/-- The net worth of the owner, before and after, is the same sum, up to what the cash and the
street change by. -/
theorem OneBuilding.netWorth {built cash' : ℤ}
    (h : OneBuilding seat position definition properties properties' built) (status : PlayerStatus)
    (hv' : isValidPropertyStates properties' = true)
    (hcash : IsMatchCash cash) (hcash' : IsMatchCash cash') :
    (calculatePlayerNetWorth ⟨seat, status, cash⟩ properties = none ∧
      calculatePlayerNetWorth ⟨seat, status, cash'⟩ properties' = none) ∨
    ∃ worth : ℤ,
      calculatePlayerNetWorth ⟨seat, status, cash⟩ properties =
        (if worth ≤ maxMatchCash then some worth else none) ∧
      calculatePlayerNetWorth ⟨seat, status, cash'⟩ properties' =
        if worth + (cash' - cash + definition.houseCost * built) ≤ maxMatchCash
          then some (worth + (cash' - cash + definition.houseCost * built)) else none := by
  obtain ⟨property, houses, hasHotel, hrebuilt, -⟩ := id h
  by_cases hseat : seat < GameplayPolicy.maximumPlayers
  swap
  · exact .inl ⟨if_pos (.inl fun hvalid => hseat hvalid.1),
      if_pos (.inl fun hvalid => hseat hvalid.1)⟩
  cases status with
  | eliminated =>
    obtain ⟨property', hmem', howner'⟩ := hrebuilt.mem
    exact .inl ⟨calculatePlayerNetWorth_eliminated (List.mem_of_getElem? hrebuilt.found)
      hrebuilt.owner, calculatePlayerNetWorth_eliminated hmem' howner'⟩
  | active =>
    refine .inr ⟨cash + ownedSum seat spaceNetWorth properties,
      calculatePlayerNetWorth_eq ⟨hseat, hcash, nofun⟩ hrebuilt.valid rfl, ?_⟩
    have hafter := calculatePlayerNetWorth_eq
      (⟨hseat, hcash', nofun⟩ : ValidTerminalPlayer ⟨seat, .active, cash'⟩) hv' rfl
    dsimp only at hafter
    rw [h.worth.1] at hafter
    have hsum : cash' + (ownedSum seat spaceNetWorth properties + definition.houseCost * built) =
        cash + ownedSum seat spaceNetWorth properties
          + (cash' - cash + definition.houseCost * built) := by ring
    rwa [hsum] at hafter

end OneBuilding

/-! ### Sequences of actions -/

/-- What the actions of one owner read and write. -/
structure BuildingState where
  properties : List PropertyState
  inventory : BuildingInventory
  cash : ℤ

/-- An accepted action of `seat` on a space. -/
def BuildingStep (seat : ℕ) (s : BuildingState) (label : BuildingAction × ℕ) (s' : BuildingState) :
    Prop :=
  ∃ amount, label.1.apply s.properties s.inventory label.2 seat s.cash =
    .ok ⟨s'.properties, s'.inventory, s'.cash, amount⟩

/-- A valid table with its stock, and cash in range. -/
def BuildingState.Valid (s : BuildingState) : Prop :=
  isValidBuildingInventory s.properties s.inventory = true ∧ IsMatchCash s.cash

/-- Cash, with what a liquidation would pay. -/
def BuildingState.salvage (seat : ℕ) (s : BuildingState) : ℤ :=
  s.cash + ownedSum seat liquidationOf s.properties

section Steps

variable {seat : ℕ} {s s' : BuildingState} {label : BuildingAction × ℕ}

theorem BuildingStep.valid (h : BuildingStep seat s label s') (hs : s.Valid) : s'.Valid := by
  obtain ⟨amount, hrule⟩ := h
  obtain ⟨hchange, -, hmatch⟩ := BuildingAction.apply_eq_ok hrule
  exact ⟨hchange.valid, hmatch hs.2⟩

/-- Building costs twice what a liquidation gives back, and selling pays just that. -/
theorem BuildingStep.salvage_le (h : BuildingStep seat s label s') :
    s'.salvage seat ≤ s.salvage seat := by
  obtain ⟨amount, hrule⟩ := h
  obtain ⟨action, position⟩ := label
  unfold BuildingState.salvage
  cases action with
  | build buildingType =>
    obtain ⟨definition, hone, hcash⟩ := build_oneBuilding hrule
    dsimp only at hone hcash
    have hworth := hone.worth.2
    omega
  | sell buildingType =>
    obtain ⟨definition, hone, hcash⟩ := sell_oneBuilding hrule
    dsimp only at hone hcash
    have hworth := hone.worth.2
    omega

end Steps

/-- The net worth of a seat that is `status`. -/
def BuildingState.netWorth (seat : ℕ) (status : PlayerStatus) (s : BuildingState) : Option ℤ :=
  calculatePlayerNetWorth ⟨seat, status, s.cash⟩ s.properties

section NetWorth

variable {seat position : ℕ} {s s' : BuildingState} {definition : BoardSpaceDefinition}

theorem netWorth_of_built
    (hone : OneBuilding seat position definition s.properties s'.properties 1)
    (hcash : s'.cash = s.cash - definition.houseCost) (hs : s.Valid) (hs' : s'.Valid)
    (status : PlayerStatus) : s'.netWorth seat status = s.netWorth seat status := by
  have hv' := (isValidBuildingInventory_iff.1 hs'.1).1
  obtain ⟨hnone, hnone'⟩ | ⟨worth, hworth, hworth'⟩ :=
    hone.netWorth status hv' hs.2 hs'.2
  · exact hnone'.trans hnone.symm
  · have hsame : worth + (s'.cash - s.cash + definition.houseCost * 1) = worth := by
      rw [hcash]; ring
    rw [hsame] at hworth'
    exact hworth'.trans hworth.symm

theorem netWorth_of_sold
    (hone : OneBuilding seat position definition s.properties s'.properties (-1))
    (hcash : s'.cash = s.cash + (definition.houseCost : ℤ) / 2) (hs : s.Valid) (hs' : s'.Valid)
    {status : PlayerStatus} {netWorth : ℤ} (hbefore : s.netWorth seat status = some netWorth) :
    ∃ definition, boardSpaces[position]? = some definition ∧ ∃ netWorth',
      s'.netWorth seat status = some netWorth' ∧
      2 * netWorth' + definition.houseCost = 2 * netWorth := by
  have hv' := (isValidBuildingInventory_iff.1 hs'.1).1
  have hspace : boardSpaces[position]? = some definition := by
    obtain ⟨_, _, _, hrebuilt, -⟩ := hone
    exact hrebuilt.space
  have heven := houseCost_even hspace
  unfold BuildingState.netWorth at hbefore ⊢
  obtain ⟨hnone, -⟩ | ⟨worth, hworth, hworth'⟩ := hone.netWorth status hv' hs.2 hs'.2
  · rw [hnone] at hbefore
    cases hbefore
  · rw [hworth] at hbefore
    obtain ⟨hle, heq⟩ := Option.ite_none_right_eq_some.1 hbefore
    cases heq
    refine ⟨definition, hspace, _, hworth'.trans (if_pos ?_), ?_⟩
    · omega
    · omega

end NetWorth

/-- Building leaves the net worth of the owner as it is and selling lowers it by half the house
cost; and in every state that a sequence of accepted actions of one owner leads to, cash and what a
liquidation would pay have not grown, and houses and hotels on the board and in stock add up. -/
theorem building_never_profits {seat : ℕ} {s s' : BuildingState}
    {labels : List (BuildingAction × ℕ)} (hs : s.Valid)
    (hrun : Run (BuildingStep seat) s labels s') :
    (∀ buildingType position s'', BuildingStep seat s' (.build buildingType, position) s'' →
      ∀ status, s''.netWorth seat status = s'.netWorth seat status) ∧
    (∀ buildingType position s'', BuildingStep seat s' (.sell buildingType, position) s'' →
      ∀ status netWorth, s'.netWorth seat status = some netWorth →
        ∃ definition, boardSpaces[position]? = some definition ∧ ∃ netWorth',
          s''.netWorth seat status = some netWorth' ∧
          2 * netWorth' + definition.houseCost = 2 * netWorth) ∧
    (∀ players players' bankCash bankCash' resolution resolution',
      resolveBankruptcy players s.properties s.inventory bankCash seat = .ok resolution →
      resolveBankruptcy players' s'.properties s'.inventory bankCash' seat = .ok resolution' →
      s'.cash + resolution'.liquidationValue ≤ s.cash + resolution.liquidationValue) ∧
    housesOnBoard s'.properties + s'.inventory.housesRemaining = 32 ∧
    hotelsOnBoard s'.properties + s'.inventory.hotelsRemaining = 12 := by
  have hs' : s'.Valid := hrun.invariant (fun _ _ _ hs hstep => hstep.valid hs) hs
  refine ⟨?_, ?_, ?_, (isValidBuildingInventory_iff.1 hs'.1).2⟩
  · intro buildingType position s'' hstep status
    have hs'' := hstep.valid hs'
    obtain ⟨amount, hrule⟩ := hstep
    obtain ⟨definition, hone, hcash⟩ := build_oneBuilding hrule
    exact netWorth_of_built hone hcash hs' hs'' status
  · intro buildingType position s'' hstep status netWorth hbefore
    have hs'' := hstep.valid hs'
    obtain ⟨amount, hrule⟩ := hstep
    obtain ⟨definition, hone, hcash⟩ := sell_oneBuilding hrule
    exact netWorth_of_sold hone hcash hs' hs'' hbefore
  · intro players players' bankCash bankCash' resolution resolution' hbefore hafter
    rw [liquidationValue_eq hbefore, liquidationValue_eq hafter]
    exact hrun.invariant (I := fun m => m.salvage seat ≤ s.salvage seat)
      (fun _ _ _ hle hstep => hstep.salvage_le.trans hle) le_rfl

/-- The seat 0 with the brown group, `houses` on its first space. -/
def brownOwner (houses : ℕ) (cash : ℤ) : BuildingState where
  properties := replaceProperty (replaceProperty createPropertyStates 3 fun p =>
      { p with ownerSeatIndex := some 0 }) 1
    fun p => { p with ownerSeatIndex := some 0, houses := houses }
  inventory := ⟨32 - houses, 12⟩
  cash := cash

/-- A house on the brown group, sold again: 25 of the 50 are gone. -/
theorem building_never_profits_brown :
    (brownOwner 0 975).netWorth 0 .active = some 1035 ∧
      ∃ resolution resolution',
        resolveBankruptcy [some ⟨0, .active, 1000, 0, false, 0, 0, 0, 0⟩, none, none, none]
          (brownOwner 0 1000).properties (brownOwner 0 1000).inventory 0 0 = .ok resolution ∧
        resolveBankruptcy [some ⟨0, .active, 975, 0, false, 0, 0, 0, 0⟩, none, none, none]
          (brownOwner 0 975).properties (brownOwner 0 975).inventory 0 0 = .ok resolution' ∧
        975 + resolution'.liquidationValue ≤ 1000 + resolution.liquidationValue := by
  have hrun : Run (BuildingStep 0) (brownOwner 0 1000) [(.build .house, 1), (.sell .house, 1)]
      (brownOwner 0 975) :=
    .cons (m := brownOwner 1 950) ⟨50, rfl⟩ (.cons ⟨25, rfl⟩ (.nil _))
  have hvalid : (brownOwner 0 1000).Valid := ⟨by decide +kernel, by decide⟩
  have hclaim := building_never_profits hvalid hrun
  obtain ⟨resolution, hbefore⟩ : ∃ resolution, resolveBankruptcy
      [some ⟨0, .active, 1000, 0, false, 0, 0, 0, 0⟩, none, none, none]
      (brownOwner 0 1000).properties (brownOwner 0 1000).inventory 0 0 = .ok resolution := ⟨_, rfl⟩
  obtain ⟨resolution', hafter⟩ : ∃ resolution, resolveBankruptcy
      [some ⟨0, .active, 975, 0, false, 0, 0, 0, 0⟩, none, none, none]
      (brownOwner 0 975).properties (brownOwner 0 975).inventory 0 0 = .ok resolution := ⟨_, rfl⟩
  exact ⟨by decide +kernel, resolution, resolution', hbefore, hafter,
    hclaim.2.2.1 _ _ _ _ _ _ hbefore hafter⟩

end Pootown
