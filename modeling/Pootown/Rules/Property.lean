import Mathlib.Tactic
import Pootown.Library.Slots
import Pootown.Model.Primitives
import Pootown.Rules.Board

/-!
# Property rules

Ownership and buildings of the forty spaces, rent, and the even-building rules.

* `PropertyState`, `isValidPropertyStates` and its characterisation `isValidPropertyStates_iff`;
* `hasMonopoly`, `calculateRent`, `canBuildHouse`, `canSellHouse`;
* `replaceProperty`: the update of one space, which keeps the table valid when the new entry is
  valid (`isValidPropertyStates_replaceProperty`) and moves each sum by one term.
-/

namespace Pootown

open Slots

structure PropertyState where
  position : ℕ
  ownerSeatIndex : Option ℕ
  houses : ℕ
  hasHotel : Bool
  mortgaged : Bool

def createPropertyStates : List PropertyState :=
  boardSpaces.map fun space => ⟨space.position, none, 0, false, false⟩

def isOwnableSpace (space : BoardSpaceDefinition) : Bool :=
  space.propertyType == .street || space.propertyType == .railroad ||
    space.propertyType == .utility

/-! ### Validity -/

/-- The conditions on the entry at `index` of the property table. -/
@[mk_iff]
structure ValidPropertyState (definition : BoardSpaceDefinition) (index : ℕ)
    (property : PropertyState) : Prop where
  position_eq : property.position = index
  owner_le : ∀ owner ∈ property.ownerSeatIndex, owner ≤ 3
  houses_le : property.houses ≤ 4
  hotel_alone : property.hasHotel = true → property.houses = 0
  mortgaged_unbuilt : property.mortgaged = true → property.houses = 0 ∧ property.hasHotel = false
  street_of_built : definition.propertyType ≠ .street →
    property.houses = 0 ∧ property.hasHotel = false
  unowned_clean : property.ownerSeatIndex = none →
    property.mortgaged = false ∧ property.houses = 0 ∧ property.hasHotel = false
  ownable_of_owned : isOwnableSpace definition = false → property.ownerSeatIndex = none

instance (definition : BoardSpaceDefinition) (index : ℕ) (property : PropertyState) :
    Decidable (ValidPropertyState definition index property) :=
  decidable_of_iff' _ (validPropertyState_iff definition index property)

def isValidPropertyStates (properties : List PropertyState) : Bool :=
  properties.length == boardSpaces.length &&
    everyIdx (fun index property => (boardSpaces[index]?).any fun definition =>
      decide (ValidPropertyState definition index property)) properties

theorem isValidPropertyStates_iff {properties : List PropertyState} :
    isValidPropertyStates properties = true ↔ properties.length = 40 ∧
      ∀ i property definition, properties[i]? = some property → boardSpaces[i]? = some definition →
        ValidPropertyState definition i property := by
  simp only [isValidPropertyStates, Bool.and_eq_true, beq_iff_eq, length_boardSpaces,
    everyIdx_eq_true]
  refine and_congr_right fun hlen => ⟨fun h i p d hp hd => ?_, fun h i p hp => ?_⟩
  · simpa [hd] using h i p hp
  · obtain ⟨d, hd⟩ := exists_boardSpace (hlen ▸ (List.getElem?_eq_some_iff.1 hp).1)
    simpa [hd] using h i p d hp hd

section Valid

variable {properties : List PropertyState} (hv : isValidPropertyStates properties = true)
include hv

theorem length_properties : properties.length = 40 := (isValidPropertyStates_iff.1 hv).1

theorem validPropertyState_of_getElem? {i : ℕ} {property : PropertyState}
    {definition : BoardSpaceDefinition} (hp : properties[i]? = some property)
    (hd : boardSpaces[i]? = some definition) : ValidPropertyState definition i property :=
  (isValidPropertyStates_iff.1 hv).2 i property definition hp hd

/-- Every entry of a valid table has its board space and satisfies its conditions. -/
theorem exists_definition {i : ℕ} {property : PropertyState}
    (hp : properties[i]? = some property) :
    ∃ definition, boardSpaces[i]? = some definition ∧ ValidPropertyState definition i property := by
  obtain ⟨d, hd⟩ := exists_boardSpace (length_properties hv ▸ (List.getElem?_eq_some_iff.1 hp).1)
  exact ⟨d, hd, validPropertyState_of_getElem? hv hp hd⟩

theorem position_of_getElem? {i : ℕ} {property : PropertyState}
    (hp : properties[i]? = some property) : property.position = i := by
  obtain ⟨d, -, hd⟩ := exists_definition hv hp
  exact hd.position_eq

theorem exists_property {i : ℕ} (hi : i < 40) : ∃ property, properties[i]? = some property :=
  ⟨_, List.getElem?_eq_getElem (by rw [length_properties hv]; exact hi)⟩

theorem getElem?_of_mem {property : PropertyState} (hp : property ∈ properties) :
    properties[property.position]? = some property := by
  obtain ⟨i, hi⟩ := List.mem_iff_getElem?.1 hp
  rw [position_of_getElem? hv hi]
  exact hi

theorem nodup_positions : (properties.map PropertyState.position).Nodup := by
  have hpos : properties.map PropertyState.position = List.range properties.length := by
    refine List.ext_getElem (by simp) fun i h₁ h₂ => ?_
    rw [List.getElem_map, List.getElem_range]
    exact position_of_getElem? hv (List.getElem?_eq_getElem (by simpa using h₁))
  rw [hpos]
  exact List.nodup_range

end Valid

/-! ### Monopoly and rent -/

def ownedPropertyPositions (properties : List PropertyState) (ownerSeatIndex : ℕ) : List ℕ :=
  properties.filterMap fun property =>
    if property.ownerSeatIndex = some ownerSeatIndex then some property.position else none

/-- Nobody owns a position twice. -/
theorem ownedPropertyPositions_nodup {properties : List PropertyState} (owner : ℕ)
    (hv : isValidPropertyStates properties = true) :
    (ownedPropertyPositions properties owner).Nodup := by
  have hfilter : ownedPropertyPositions properties owner
      = (properties.filter fun property => property.ownerSeatIndex = some owner).map
        PropertyState.position := by
    rw [ownedPropertyPositions, ← List.filterMap_eq_map, List.filterMap_filter]
    exact List.filterMap_congr fun property _ => by simp
  rw [hfilter]
  exact (nodup_positions hv).sublist (List.filter_sublist.map _)

def hasMonopoly (properties : List PropertyState) (ownerSeatIndex : ℕ) (colorGroup : ColorGroup) :
    Bool :=
  if isValidPropertyStates properties = false ∨ colorGroup = .special ∨ colorGroup = .railroad ∨
      colorGroup = .utility then false
  else (colorGroupPositions colorGroup).all fun position =>
    (properties[position]?).any fun property => property.ownerSeatIndex == some ownerSeatIndex

/-- The number of spaces of one type among the given positions. -/
def countOfType (propertyType : PropertyType) (positions : List ℕ) : ℕ :=
  (positions.filter fun position =>
    (boardSpaces[position]?).any fun space => space.propertyType == propertyType).length

/-- Street rent: the hotel or house rate, or the base rate, doubled for a monopoly. -/
def streetRent (definition : BoardSpaceDefinition) (property : PropertyState) (monopoly : Bool) :
    Option ℕ :=
  if property.hasHotel then definition.rent[5]?
  else if property.houses > 0 then definition.rent[property.houses]?
  else (definition.rent[0]?).map fun baseRent => baseRent * (if monopoly then 2 else 1)

/-- The rent of a landing, as the natural number the source converts with `BigInt`. -/
def calculateRent (properties : List PropertyState) (position : ℕ) (diceTotal : ℕ) : Option ℤ :=
  Option.map Int.ofNat <|
  if isValidPropertyStates properties = false then none else
  match properties[position]?, boardSpaces[position]? with
  | some property, some definition =>
    if property.position ≠ position ∨ isOwnableSpace definition = false then none else
    match property.ownerSeatIndex with
    | none => some 0
    | some owner =>
      if property.mortgaged then some 0 else
      let owned := ownedPropertyPositions properties owner
      match definition.propertyType with
      | .street =>
        streetRent definition property (hasMonopoly properties owner definition.colorGroup)
      | .railroad => [0, 25, 50, 100, 200][countOfType .railroad owned]?
      | _ =>
        if diceTotal < 2 ∨ diceTotal > 12 then none
        else some (diceTotal * (if countOfType .utility owned = 2 then 10 else 4))
  | _, _ => none

theorem calculateRent_nonneg {properties : List PropertyState} {position diceTotal : ℕ} {rent : ℤ}
    (h : calculateRent properties position diceTotal = some rent) : 0 ≤ rent := by
  obtain ⟨r, -, rfl⟩ := Option.map_eq_some_iff.1 h
  exact Int.natCast_nonneg r

theorem streetRent_le {index : ℕ} {definition : BoardSpaceDefinition} {property : PropertyState}
    {monopoly : Bool} {rent : ℕ} (hd : boardSpaces[index]? = some definition)
    (h : streetRent definition property monopoly = some rent) : rent ≤ 2000 := by
  have hall : ∀ d ∈ boardSpaces, (∀ r ∈ d.rent, r ≤ 2000) ∧ ∀ base ∈ d.rent[0]?, base ≤ 1000 := by
    decide
  obtain ⟨hrents, hbase⟩ := hall _ (List.mem_of_getElem? hd)
  unfold streetRent at h
  split_ifs at h
  · exact hrents _ (List.mem_of_getElem? h)
  · exact hrents _ (List.mem_of_getElem? h)
  all_goals
    obtain ⟨base, hsome, rfl⟩ := Option.map_eq_some_iff.1 h
    have := hbase base hsome
    omega

/-- No rent is above the hotel rate of the dearest street. -/
theorem calculateRent_le {properties : List PropertyState} {position diceTotal : ℕ} {rent : ℤ}
    (h : calculateRent properties position diceTotal = some rent) : rent ≤ 2000 := by
  obtain ⟨r, hr, rfl⟩ := Option.map_eq_some_iff.1 h
  suffices hle : r ≤ 2000 by exact Int.ofNat_le.2 hle
  split at hr
  · cases hr
  split at hr
  next property definition _ hd =>
    split at hr
    · cases hr
    split at hr
    · cases hr
      omega
    split at hr
    · cases hr
      omega
    split at hr
    · exact streetRent_le hd hr
    · have hrates : ∀ rate ∈ [0, 25, 50, 100, 200], rate ≤ 2000 := by decide
      exact hrates r (List.mem_of_getElem? hr)
    · split at hr
      · cases hr
      · cases hr
        split_ifs <;> omega
  · cases hr

/-! ### Even building -/

def canBuildHouse (properties : List PropertyState) (position ownerSeatIndex : ℕ) : Bool :=
  if isValidPropertyStates properties = false then false else
  match properties[position]?, boardSpaces[position]? with
  | some property, some definition =>
    if definition.propertyType ≠ .street ∨ property.ownerSeatIndex ≠ some ownerSeatIndex ∨
        property.mortgaged ∨ property.hasHotel ∨ property.houses ≥ 4 ∨
        hasMonopoly properties ownerSeatIndex definition.colorGroup = false then false
    else (colorGroupPositions definition.colorGroup).all fun groupPosition =>
      decide ((property.houses : ℤ) + 1 ≤
        ((properties[groupPosition]?).map fun p => (p.houses : ℤ)).getD (-1) + 1)
  | _, _ => false

def canSellHouse (properties : List PropertyState) (position ownerSeatIndex : ℕ) : Bool :=
  if isValidPropertyStates properties = false then false else
  match properties[position]?, boardSpaces[position]? with
  | some property, some definition =>
    if definition.propertyType ≠ .street ∨ property.ownerSeatIndex ≠ some ownerSeatIndex ∨
        property.hasHotel ∨ property.houses < 1 ∨
        hasMonopoly properties ownerSeatIndex definition.colorGroup = false then false
    else (colorGroupPositions definition.colorGroup).all fun groupPosition =>
      decide (max 0 (((properties[groupPosition]?).map fun p => (p.houses : ℤ)).getD 0 - 1) ≤
        (property.houses : ℤ) - 1)
  | _, _ => false

/-! ### Replacing one space -/

/-- `properties.map(p => p.position === position ? { ...p, ...update } : p)`. -/
def replaceProperty (properties : List PropertyState) (position : ℕ)
    (update : PropertyState → PropertyState) : List PropertyState :=
  updateKey PropertyState.position position update properties

@[simp] theorem length_replaceProperty (properties : List PropertyState) (position : ℕ)
    (update : PropertyState → PropertyState) :
    (replaceProperty properties position update).length = properties.length := by
  simp [replaceProperty, updateKey]

section Replace

variable {properties : List PropertyState} (hv : isValidPropertyStates properties = true)
include hv

theorem getElem?_replaceProperty (position : ℕ) (update : PropertyState → PropertyState) (i : ℕ) :
    (replaceProperty properties position update)[i]? =
      if i = position then (properties[i]?).map update else properties[i]? := by
  unfold replaceProperty updateKey
  rw [List.getElem?_map]
  cases hp : properties[i]? with
  | none => simp
  | some property =>
    rw [Option.map_some, position_of_getElem? hv hp]
    split_ifs <;> rfl

/-- Replacing an entry by a valid one keeps the table valid. -/
theorem isValidPropertyStates_replaceProperty {position : ℕ}
    {update : PropertyState → PropertyState}
    (hu : ∀ property definition, properties[position]? = some property →
      boardSpaces[position]? = some definition →
      ValidPropertyState definition position (update property)) :
    isValidPropertyStates (replaceProperty properties position update) = true := by
  refine isValidPropertyStates_iff.2 ⟨by simp [length_properties hv], fun i p d hp hd => ?_⟩
  rw [getElem?_replaceProperty hv] at hp
  split_ifs at hp with hi
  · subst hi
    obtain ⟨q, hq, rfl⟩ := Option.map_eq_some_iff.1 hp
    exact hu q d hq hd
  · exact validPropertyState_of_getElem? hv hp hd

theorem sum_replaceProperty {position : ℕ} {property : PropertyState}
    (hp : properties[position]? = some property) (w : PropertyState → ℤ)
    (update : PropertyState → PropertyState) :
    ((replaceProperty properties position update).map w).sum =
      (properties.map w).sum - w property + w (update property) :=
  sum_updateKey (nodup_positions hv) (List.mem_of_getElem? hp) (position_of_getElem? hv hp)

end Replace

end Pootown
