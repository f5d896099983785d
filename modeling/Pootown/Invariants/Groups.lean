import Mathlib.Tactic
import Pootown.Invariants.CashLimits

/-!
# Buildings and colour groups

A house is bought on a whole colour group, and sold evenly.  Ownership moves by purchases, trades
and liquidations, and only a trade can break up a group that carries buildings.

* `groupOf`, `ownerAt`; `BuiltOnGroups`: buildings stand on groups of one owner;
* `DeedsAfter`: what an accepted command does to the property table, `GameplayStep.deeds`;
* `HandsOverBuilt`: the trades that hand over a space of a built group, and `builtOnGroups_step`:
  they alone break what the other commands keep;
* `exists_sellHouse`: on a whole group, some house can always be sold;
* `buildings_stand_on_groups`.
-/

namespace Pootown

open Fallible Runs Slots

/-! ### Groups -/

/-- The spaces in the colour group of a space. -/
def groupOf (position : ℕ) : List ℕ :=
  (boardSpaces[position]?).elim [] fun definition => colorGroupPositions definition.colorGroup

theorem groupOf_eq {position : ℕ} {definition : BoardSpaceDefinition}
    (h : boardSpaces[position]? = some definition) :
    groupOf position = colorGroupPositions definition.colorGroup := by
  rw [groupOf, h]
  rfl

/-- The spaces of a group have it in common. -/
theorem groupOf_of_mem {position other : ℕ} (h : other ∈ groupOf position) :
    groupOf other = groupOf position ∧ position ∈ groupOf other := by
  have hall : ∀ position < 40, ∀ other ∈ groupOf position,
      groupOf other = groupOf position ∧ position ∈ groupOf other := by
    decide +kernel
  obtain hlt | hge := lt_or_ge position 40
  · exact hall position hlt other h
  · rw [groupOf, List.getElem?_eq_none (by simpa using hge)] at h
    cases h

/-- A street is in its group, with another one, and they are all streets. -/
theorem groupOf_street {position : ℕ} {definition : BoardSpaceDefinition}
    (hd : boardSpaces[position]? = some definition) (hstreet : definition.propertyType = .street) :
    position ∈ groupOf position ∧ (∃ other ∈ groupOf position, other ≠ position) ∧
      ∀ other ∈ groupOf position, ∃ space ∈ boardSpaces[other]?, space.propertyType = .street := by
  have hall : ∀ position < 40, ∀ definition ∈ boardSpaces[position]?,
      definition.propertyType = .street → position ∈ groupOf position ∧
        (∃ other ∈ groupOf position, other ≠ position) ∧
        ∀ other ∈ groupOf position, ∃ space ∈ boardSpaces[other]?,
          space.propertyType = .street := by
    decide +kernel
  exact hall position (lt_of_boardSpace hd) definition hd hstreet

/-- The owner of a space, none when it has no entry or nobody owns it. -/
def ownerAt (properties : List PropertyState) (position : ℕ) : Option ℕ :=
  (properties[position]?).bind PropertyState.ownerSeatIndex

theorem ownerAt_eq {properties : List PropertyState} {position : ℕ} {property : PropertyState}
    (h : properties[position]? = some property) :
    ownerAt properties position = property.ownerSeatIndex := by
  rw [ownerAt, h]
  rfl

/-- The space carries houses or a hotel. -/
def PropertyState.Built (property : PropertyState) : Prop :=
  0 < property.houses ∨ property.hasHotel = true

/-- Buildings stand on colour groups that have one owner. -/
def BuiltOnGroups (properties : List PropertyState) : Prop :=
  ∀ position property, properties[position]? = some property → property.Built →
    ∃ owner, property.ownerSeatIndex = some owner ∧
      ∀ other ∈ groupOf position, ownerAt properties other = some owner

section Table

variable {properties : List PropertyState} (hv : isValidPropertyStates properties = true)
include hv

/-- Only streets are built on. -/
theorem street_of_built {position : ℕ} {property : PropertyState}
    (hp : properties[position]? = some property) (hbuilt : property.Built) :
    ∃ definition, boardSpaces[position]? = some definition ∧
      definition.propertyType = .street := by
  obtain ⟨definition, hd, hvp⟩ := exists_definition hv hp
  refine ⟨definition, hd, not_not.1 fun hne => ?_⟩
  obtain ⟨hhouses, hhotel⟩ := hvp.street_of_built hne
  obtain hpos | htrue := hbuilt
  · omega
  · rw [hhotel] at htrue
    cases htrue

/-- Nobody builds on a space without an owner. -/
theorem not_built_of_unowned {position : ℕ} {property : PropertyState}
    (hp : properties[position]? = some property) (hnone : property.ownerSeatIndex = none) :
    ¬ property.Built := by
  obtain ⟨definition, hd, hvp⟩ := exists_definition hv hp
  obtain ⟨-, hhouses, hhotel⟩ := hvp.unowned_clean hnone
  simp [PropertyState.Built, hhouses, hhotel]

theorem ownerAt_replaceProperty_of_ne {position other : ℕ} (update : PropertyState → PropertyState)
    (hne : other ≠ position) :
    ownerAt (replaceProperty properties position update) other = ownerAt properties other := by
  rw [ownerAt, getElem?_replaceProperty hv, if_neg hne, ownerAt]

/-- A purchase leaves the built groups alone. -/
theorem BuiltOnGroups.bought {position owner : ℕ} {property : PropertyState}
    (h : BuiltOnGroups properties) (hp : properties[position]? = some property)
    (hnone : property.ownerSeatIndex = none) :
    BuiltOnGroups (replaceProperty properties position fun property =>
      { property with ownerSeatIndex := some owner }) := by
  intro i entry hi hbuilt
  rw [getElem?_replaceProperty hv] at hi
  split_ifs at hi with hposition
  · rw [hposition, hp] at hi
    cases hi
    exact absurd (show property.Built from hbuilt) (not_built_of_unowned hv hp hnone)
  · obtain ⟨seat, hseat, hgroup⟩ := h i entry hi hbuilt
    refine ⟨seat, hseat, fun other hother => ?_⟩
    rw [ownerAt_replaceProperty_of_ne hv _ fun hsame => ?_, hgroup other hother]
    have hsold := hgroup other hother
    rw [hsame, ownerAt_eq hp, hnone] at hsold
    cases hsold

omit hv in
/-- A liquidation takes the buildings of the groups it breaks up. -/
theorem BuiltOnGroups.released (h : BuiltOnGroups properties) (seat : ℕ) :
    BuiltOnGroups (releaseSeat seat properties) := by
  have hentry : ∀ i, (releaseSeat seat properties)[i]? = (properties[i]?).map
      fun property : PropertyState =>
        if property.ownerSeatIndex = some seat then property.release else property :=
    fun i => List.getElem?_map
  intro i entry hi hbuilt
  rw [hentry] at hi
  obtain ⟨property, hp, rfl⟩ := Option.map_eq_some_iff.1 hi
  split_ifs at hbuilt ⊢ with hseat
  · simp [PropertyState.Built, PropertyState.release] at hbuilt
  · obtain ⟨owner, howner, hgroup⟩ := h i property hp hbuilt
    refine ⟨owner, howner, fun other hother => ?_⟩
    have hsame := hgroup other hother
    obtain ⟨space, hspace, hspaceOwner⟩ := Option.bind_eq_some_iff.1 hsame
    rw [ownerAt, hentry, hspace, Option.map_some, if_neg, Option.bind_some, hspaceOwner]
    rw [hspaceOwner, ← howner]
    exact hseat

end Table

/-! ### What a command does to the property table -/

/-- What building or selling does to the table: the entry of one owned space changes, which was
built on already or lies in a group of its owner. -/
structure Rebuilt (properties : List PropertyState) (position owner : ℕ)
    (properties' : List PropertyState) : Prop where
  owners : properties'.map PropertyState.ownerSeatIndex = properties.map PropertyState.ownerSeatIndex
  elsewhere : ∀ i, i ≠ position → properties'[i]? = properties[i]?
  owned : ownerAt properties position = some owner
  grounds : (∀ other ∈ groupOf position, ownerAt properties other = some owner) ∨
    ∃ property, properties[position]? = some property ∧ property.Built

theorem Rebuilt.kept {properties properties' : List PropertyState} {position owner : ℕ}
    (h : Rebuilt properties position owner properties') (i : ℕ) :
    ownerAt properties' i = ownerAt properties i := by
  have howners := congrArg (fun owners => (owners[i]?).bind id) h.owners
  simpa [ownerAt, Option.bind_map] using howners

theorem BuiltOnGroups.rebuilt {properties properties' : List PropertyState} {position owner : ℕ}
    (h : BuiltOnGroups properties) (hr : Rebuilt properties position owner properties') :
    BuiltOnGroups properties' := by
  have hkept : ∀ {i : ℕ} {entry : PropertyState}, properties'[i]? = some entry →
      (∃ seat, ownerAt properties i = some seat ∧
        ∀ other ∈ groupOf i, ownerAt properties other = some seat) →
      ∃ seat, entry.ownerSeatIndex = some seat ∧
        ∀ other ∈ groupOf i, ownerAt properties' other = some seat := by
    rintro i entry hi ⟨seat, hseat, hgroup⟩
    refine ⟨seat, ?_, fun other hother => (hr.kept other).trans (hgroup other hother)⟩
    rw [← ownerAt_eq hi, hr.kept, hseat]
  have hold : ∀ {i : ℕ} {property : PropertyState}, properties[i]? = some property →
      property.Built → ∃ seat, ownerAt properties i = some seat ∧
        ∀ other ∈ groupOf i, ownerAt properties other = some seat := by
    intro i property hp hbuilt
    obtain ⟨seat, hseat, hgroup⟩ := h i property hp hbuilt
    exact ⟨seat, (ownerAt_eq hp).trans hseat, hgroup⟩
  intro i entry hi hbuilt
  by_cases hsame : i = position
  · subst hsame
    obtain hgroup | ⟨property, hp, hbefore⟩ := hr.grounds
    · exact hkept hi ⟨owner, hr.owned, hgroup⟩
    · exact hkept hi (hold hp hbefore)
  · exact hkept hi (hold ((hr.elsewhere i hsame).symm.trans hi) hbuilt)

theorem ownsGroup_of_hasMonopoly {properties : List PropertyState} {position owner : ℕ}
    (h : (boardSpaces[position]?).any (fun definition =>
      hasMonopoly properties owner definition.colorGroup) = true) :
    ∀ other ∈ groupOf position, ownerAt properties other = some owner := by
  obtain ⟨definition, hd, hmonopoly⟩ := (Option.any_eq_true _ _).1 h
  intro other hother
  rw [groupOf_eq hd] at hother
  unfold hasMonopoly at hmonopoly
  split_ifs at hmonopoly
  obtain ⟨property, hp, howner⟩ := (Option.any_eq_true _ _).1 (List.all_eq_true.1 hmonopoly other hother)
  rw [ownerAt_eq hp]
  exact eq_of_beq howner

theorem Rebuilt.of_replace {properties : List PropertyState} {position owner : ℕ}
    {property : PropertyState} {houses : ℕ} {hasHotel : Bool}
    (hv : isValidPropertyStates properties = true) (hp : properties[position]? = some property)
    (howner : property.ownerSeatIndex = some owner)
    (hgrounds : (∀ other ∈ groupOf position, ownerAt properties other = some owner) ∨
      property.Built) :
    Rebuilt properties position owner (replaceProperty properties position fun p =>
      { p with houses := houses, hasHotel := hasHotel }) where
  owners := map_owner_replaceProperty fun _ => rfl
  elsewhere := fun i hne => by rw [getElem?_replaceProperty hv, if_neg hne]
  owned := (ownerAt_eq hp).trans howner
  grounds := hgrounds.imp_right fun hbuilt => ⟨property, hp, hbuilt⟩

/-- Houses and hotels go up on whole groups, and come down where there are some. -/
theorem BuildingAction.rebuilt {action : BuildingAction} {properties : List PropertyState}
    {inventory : BuildingInventory} {position owner : ℕ} {cash : ℤ} {result : BuildingMutation}
    (h : action.apply properties inventory position owner cash = .ok result) :
    Rebuilt properties position owner result.properties := by
  rcases action with (_ | _) | (_ | _) <;>
    simp only [BuildingAction.apply, buildHouse, buildHotel, sellHouse, sellHotel, bind_eq_ok,
      Prod.exists, require_eq_ok, requireSome_eq_ok, pure_eq_ok, exists_const] at h
  · obtain ⟨property, cost, hbase, -, -, -, hmonopoly, -, -, next, -, rfl⟩ := h
    obtain ⟨hi, hp, howner, -⟩ := validateBase_eq_ok hbase
    simp only [replaceProperty_houses hi hp]
    exact .of_replace (isValidBuildingInventory_iff.1 hi).1 hp howner
      (.inl (ownsGroup_of_hasMonopoly hmonopoly))
  · obtain ⟨property, cost, hbase, -, -, -, hmonopoly, -, next, -, rfl⟩ := h
    obtain ⟨hi, hp, howner, -⟩ := validateBase_eq_ok hbase
    exact .of_replace (isValidBuildingInventory_iff.1 hi).1 hp howner
      (.inl (ownsGroup_of_hasMonopoly hmonopoly))
  · obtain ⟨property, cost, hbase, ⟨hhouses, -⟩, -, next, -, rfl⟩ := h
    obtain ⟨hi, hp, howner, -⟩ := validateBase_eq_ok hbase
    simp only [replaceProperty_houses hi hp]
    exact .of_replace (isValidBuildingInventory_iff.1 hi).1 hp howner (.inr (.inl hhouses))
  · obtain ⟨property, cost, hbase, hhotel, -, next, -, rfl⟩ := h
    obtain ⟨hi, hp, howner, -⟩ := validateBase_eq_ok hbase
    exact .of_replace (isValidBuildingInventory_iff.1 hi).1 hp howner (.inr (.inr hhotel))

/-- The property table after an accepted command. -/
inductive DeedsAfter (state : ActiveGameplayAggregateState) (body : GameplayCommandBody) :
    List PropertyState → Prop
  | same : DeedsAfter state body state.properties
  | bought (position owner : ℕ) (property : PropertyState) :
      state.properties[position]? = some property → property.ownerSeatIndex = none →
      DeedsAfter state body (replaceProperty state.properties position fun property =>
        { property with ownerSeatIndex := some owner })
  | rebuilt (position owner : ℕ) (properties' : List PropertyState) :
      Rebuilt state.properties position owner properties' → DeedsAfter state body properties'
  | released (seat : ℕ) : DeedsAfter state body (releaseSeat seat state.properties)
  | settled (tradeId : String) (nowMs : ℤ) (trade : PendingTrade)
      (proposer receiver : GameplayPlayerState) : body = .trade (.acceptTrade tradeId) →
      Settleable state tradeId nowMs trade proposer receiver →
      DeedsAfter state body (exchangeProperties state.properties trade)

section Steps

variable {state active : ActiveGameplayAggregateState} {current : GameplayPlayerState} {nowMs : ℤ}
  {events : List GameplayDomainEvent} {body : GameplayCommandBody}

theorem TurnStep.deeds {randomSource : RandomSource} {command : GameplayTurnCommand}
    (h : TurnStep state current nowMs randomSource command active events) :
    active.properties = state.properties := by
  cases h with
  | endTurn => rfl
  | roll _ dice rng _ _ hcommand hphase hdraw hroll => cases hroll <;> rfl

theorem PropertyStep.deeds (h : PropertyStep state current nowMs active events) :
    DeedsAfter state body active.properties := by
  cases h with
  | buy position property definition lastDice hphase hdice htime hp hd hnone =>
    exact .bought position _ property hp hnone
  | building action position property result hphase htime hresult =>
    exact .rebuilt position _ _ (BuildingAction.rebuilt hresult)
  | decline | bankruptcy | rent | tax => exact .same

theorem GameplayStep.deeds {context : GameplayCommandContext} {state' : GameplayAggregateState}
    (h : GameplayStep state context body state' events) :
    DeedsAfter state body state'.base.properties := by
  cases h with
  | turn command current active _ hc hstep =>
    rw [GameplayAggregateState.base, hstep.deeds]
    exact .same
  | property command current active _ hnone hc hstep => exact hstep.deeds
  | jail command current active _ hphase hc hstep => cases hstep <;> exact .same
  | card command current cardId rng resolution active _ hphase hc hdraw hres hstep =>
    cases hstep <;> exact .same
  | bankruptcy current resolution _ _ hphase hc helim hstep =>
    have hreleased := helim.properties_eq
    cases hstep <;>
      simp only [GameplayAggregateState.base, afterElimination, finishedElimination, finishState,
        hreleased] <;> exact .released _
  | trade command active _ hnone hstep =>
    cases hstep with
    | accepted tradeId trades trade proposer receiver expired hsub hreceiver hset =>
      exact .settled tradeId _ trade proposer receiver rfl hset
    | cleanup | created | rejected | cancelled => exact .same
  | timeout command current _ _ hactor hnone hlimit hc hstep =>
    cases hstep with
    | timeLimit | warning | turnAdvanced => exact .same
    | forfeitContinued bankruptcy nextSeat next hdeadline htwo helim =>
      simp only [GameplayAggregateState.base, afterElimination, helim.properties_eq]
      exact .released _
    | forfeitFinished bankruptcy terminal winner ranking hdeadline htwo helim =>
      simp only [GameplayAggregateState.base, finishedElimination, finishState,
        helim.properties_eq]
      exact .released _

end Steps

/-! ### Trades of built groups -/

/-- The trade hands over the space. -/
def Names (trade : PendingTrade) (position : ℕ) : Prop :=
  (propertyTerms trade.terms).1 = some position ∨ (propertyTerms trade.terms).2 = some position

/-- The first trade under the id hands over a space of a group that carries buildings. -/
def HandsOverBuilt (state : ActiveGameplayAggregateState) (tradeId : String) : Prop :=
  ∃ trade position built property,
    state.activeTrades.find? (fun candidate => candidate.tradeId = tradeId) = some trade ∧
    Names trade position ∧ built ∈ groupOf position ∧
    state.properties[built]? = some property ∧ property.Built

section Trades

variable {state : ActiveGameplayAggregateState} {tradeId : String} {nowMs : ℤ}
  {trade : PendingTrade} {proposer receiver : GameplayPlayerState}

theorem newOwner_of_not_names {position : ℕ} (h : ¬ Names trade position) (owner : Option ℕ) :
    newOwner trade position owner = owner := by
  rw [newOwner, if_neg fun hoffered => h (.inl hoffered), if_neg fun hrequested =>
    h (.inr hrequested)]

theorem ownerAt_exchangeProperties {properties : List PropertyState}
    (hv : isValidPropertyStates properties = true) {position : ℕ} (h : ¬ Names trade position) :
    ownerAt (exchangeProperties properties trade) position = ownerAt properties position := by
  rw [ownerAt, getElem?_exchangeProperties hv, ownerAt]
  cases properties[position]? with
  | none => rfl
  | some property => exact newOwner_of_not_names h _

/-- A space that changes hands had one owner and gets another. -/
theorem Settleable.ownerAt_ne (hs : Settleable state tradeId nowMs trade proposer receiver)
    (hv : isValidPropertyStates state.properties = true) {position : ℕ}
    (h : Names trade position) : ∃ owner, ownerAt state.properties position = some owner ∧
      ownerAt (exchangeProperties state.properties trade) position ≠ some owner := by
  have hne := hs.seats_ne
  have hafter : ∀ {property : PropertyState}, state.properties[position]? = some property →
      ownerAt (exchangeProperties state.properties trade) position
        = newOwner trade position property.ownerSeatIndex := by
    intro property hp
    rw [ownerAt, getElem?_exchangeProperties hv, hp]
    rfl
  by_cases hoffered : (propertyTerms trade.terms).1 = some position
  · obtain ⟨property, hp, howner, -⟩ := hs.offered_owned position hoffered
    refine ⟨trade.proposerSeatIndex, (ownerAt_eq hp).trans howner, ?_⟩
    rw [hafter hp, newOwner, if_pos hoffered]
    exact fun hsame => hne (Option.some.inj hsame).symm
  · have hrequested := h.resolve_left hoffered
    obtain ⟨property, hp, howner, -⟩ := hs.requested_owned position hrequested
    refine ⟨trade.receiverSeatIndex, (ownerAt_eq hp).trans howner, ?_⟩
    rw [hafter hp, newOwner, if_neg hoffered, if_pos hrequested]
    exact fun hsame => hne (Option.some.inj hsame)

/-- Two spaces of one owner do not both change hands in one trade. -/
theorem Settleable.not_names (hs : Settleable state tradeId nowMs trade proposer receiver)
    {position other : ℕ} (h : Names trade position) (hne : other ≠ position)
    (howner : ownerAt state.properties other = ownerAt state.properties position) :
    ¬ Names trade other := by
  have hoffered : ∀ {i : ℕ}, (propertyTerms trade.terms).1 = some i →
      ownerAt state.properties i = some trade.proposerSeatIndex := by
    intro i hi
    obtain ⟨property, hp, hproperty, -⟩ := hs.offered_owned i hi
    exact (ownerAt_eq hp).trans hproperty
  have hrequested : ∀ {i : ℕ}, (propertyTerms trade.terms).2 = some i →
      ownerAt state.properties i = some trade.receiverSeatIndex := by
    intro i hi
    obtain ⟨property, hp, hproperty, -⟩ := hs.requested_owned i hi
    exact (ownerAt_eq hp).trans hproperty
  rintro (hother | hother)
  · obtain hposition | hposition := h
    · exact hne (Option.some.inj (hother.symm.trans hposition))
    · rw [hoffered hother, hrequested hposition] at howner
      exact hs.seats_ne (Option.some.inj howner)
  · obtain hposition | hposition := h
    · rw [hrequested hother, hoffered hposition] at howner
      exact hs.seats_ne (Option.some.inj howner).symm
    · exact hne (Option.some.inj (hother.symm.trans hposition))

/-- A settlement keeps buildings on whole groups exactly when it hands over no space of a built
group. -/
theorem Settleable.builtOnGroups_iff (hs : Settleable state tradeId nowMs trade proposer receiver)
    (hv : isValidPropertyStates state.properties = true) (h : BuiltOnGroups state.properties) :
    BuiltOnGroups (exchangeProperties state.properties trade) ↔ ¬ HandsOverBuilt state tradeId := by
  constructor
  · rintro hafter ⟨trade', position, built, property, hfound, hnames, hgroup, hp, hbuilt⟩
    rw [hs.found] at hfound
    cases hfound
    obtain ⟨definition, hd, hstreet⟩ := street_of_built hv hp hbuilt
    obtain ⟨owner, howner, hwhole⟩ := h built property hp hbuilt
    have hentry : (exchangeProperties state.properties trade)[built]? = some { property with
        ownerSeatIndex := newOwner trade built property.ownerSeatIndex } := by
      rw [getElem?_exchangeProperties hv, hp]
      rfl
    obtain ⟨seat, -, hwhole'⟩ := hafter built _ hentry hbuilt
    obtain ⟨hsame, hposition⟩ := groupOf_of_mem hgroup
    -- the space changes hands and another one of its group does not
    obtain ⟨space, hspace, hspaceStreet⟩ := (groupOf_street hd hstreet).2.2 position hposition
    obtain ⟨other, hother, hne⟩ := (groupOf_street hspace hspaceStreet).2.1
    rw [← hsame] at hother
    have hkept := hs.not_names hnames hne ((hwhole other hother).trans (hwhole position hposition).symm)
    obtain ⟨before, hbefore, hchanged⟩ := hs.ownerAt_ne hv hnames
    rw [hwhole position hposition] at hbefore
    cases hbefore
    have hstays := ownerAt_exchangeProperties hv hkept
    rw [hwhole' other hother, hwhole other hother] at hstays
    rw [hwhole' position hposition, hstays] at hchanged
    exact hchanged rfl
  · intro hclear i entry hi hbuilt
    rw [getElem?_exchangeProperties hv] at hi
    obtain ⟨property, hp, rfl⟩ := Option.map_eq_some_iff.1 hi
    obtain ⟨owner, howner, hwhole⟩ := h i property hp hbuilt
    have hquiet : ∀ other ∈ groupOf i, ¬ Names trade other := fun other hother hnames =>
      hclear ⟨trade, other, i, property, hs.found, hnames, (groupOf_of_mem hother).2, hp, hbuilt⟩
    obtain ⟨definition, hd, hstreet⟩ := street_of_built hv hp hbuilt
    refine ⟨owner, ?_, fun other hother => ?_⟩
    · exact (newOwner_of_not_names (hquiet i (groupOf_street hd hstreet).1) _).trans howner
    · rw [ownerAt_exchangeProperties hv (hquiet other hother), hwhole other hother]

end Trades

/-! ### Taking buildings down -/

section Sell

variable {properties : List PropertyState} {inventory : BuildingInventory} {position owner : ℕ}
  {property : PropertyState} {definition : BoardSpaceDefinition}

theorem hasMonopoly_of_owns (hv : isValidPropertyStates properties = true)
    (hd : boardSpaces[position]? = some definition) (hstreet : definition.propertyType = .street)
    (hwhole : ∀ other ∈ groupOf position, ownerAt properties other = some owner) :
    hasMonopoly properties owner definition.colorGroup = true := by
  have hall : ∀ d ∈ boardSpaces, d.propertyType = .street →
      ¬ (d.colorGroup = .special ∨ d.colorGroup = .railroad ∨ d.colorGroup = .utility) := by
    decide
  have hgroup := hall _ (List.mem_of_getElem? hd) hstreet
  unfold hasMonopoly
  rw [if_neg (by simp only [hv, reduceCtorEq, false_or]; exact hgroup), List.all_eq_true]
  intro other hother
  rw [← groupOf_eq hd] at hother
  obtain ⟨space, hspace, hspaceOwner⟩ := Option.bind_eq_some_iff.1 (hwhole other hother)
  exact (Option.any_eq_true _ _).2 ⟨space, hspace, beq_iff_eq.2 hspaceOwner⟩

/-- A street with the most houses of its group can give one up. -/
theorem canSellHouse_of_most (hv : isValidPropertyStates properties = true)
    (hp : properties[position]? = some property) (hd : boardSpaces[position]? = some definition)
    (hstreet : definition.propertyType = .street) (hhouses : 0 < property.houses)
    (hwhole : ∀ other ∈ groupOf position, ownerAt properties other = some owner)
    (hmost : ∀ other ∈ groupOf position, ∀ space, properties[other]? = some space →
      space.houses ≤ property.houses) : canSellHouse properties position owner = true := by
  have howner : property.ownerSeatIndex = some owner :=
    (ownerAt_eq hp).symm.trans (hwhole position (groupOf_street hd hstreet).1)
  have hhotel : property.hasHotel = false := by
    by_contra hhotel
    have := (validPropertyState_of_getElem? hv hp hd).hotel_alone (by simpa using hhotel)
    omega
  unfold canSellHouse
  simp only [hv, hp, hd, hstreet, howner, hhotel, hasMonopoly_of_owns hv hd hstreet hwhole,
    Bool.true_eq_false, if_false, ne_eq, not_true, Bool.false_eq_true, false_or, or_false]
  rw [if_neg (by omega), List.all_eq_true]
  intro other hother
  rw [← groupOf_eq hd] at hother
  cases hspace : properties[other]? with
  | none =>
    simp only [Option.map_none, Option.getD_none, decide_eq_true_eq]
    omega
  | some space =>
    have hle := hmost other hother space hspace
    simp only [Option.map_some, Option.getD_some, decide_eq_true_eq]
    omega

/-- Where a whole group carries a house, some house of it can be sold, room for its price given. -/
theorem exists_sellHouse {cash : ℤ} (hstock : isValidBuildingInventory properties inventory = true)
    (hp : properties[position]? = some property) (hhouses : 0 < property.houses)
    (hwhole : ∀ other ∈ groupOf position, ownerAt properties other = some owner)
    (hroom : cash + 100 ≤ maxMatchCash) : ∃ other ∈ groupOf position, ∃ result,
      sellHouse properties inventory other owner cash = .ok result := by
  have hv := (isValidBuildingInventory_iff.1 hstock).1
  obtain ⟨definition, hd, hstreet⟩ := street_of_built hv hp (.inl hhouses)
  have hself := (groupOf_street hd hstreet).1
  -- sell where the group has the most houses
  obtain ⟨most, hmost, hle⟩ := (groupOf position).toFinset.exists_max_image
    (fun other => (properties[other]?).elim 0 PropertyState.houses) ⟨position, by simpa using hself⟩
  rw [List.mem_toFinset] at hmost
  have hmax : ∀ other ∈ groupOf position, ∀ space, properties[other]? = some space →
      space.houses ≤ (properties[most]?).elim 0 PropertyState.houses := by
    intro other hother space hspace
    have := hle other (by simpa using hother)
    rwa [hspace] at this
  obtain ⟨space, hspace, hspaceOwner⟩ := Option.bind_eq_some_iff.1 (hwhole most hmost)
  rw [hspace] at hmax
  simp only [Option.elim_some] at hmax
  have hpos : 0 < space.houses := hhouses.trans_le (hmax position hself property hp)
  obtain ⟨definition', hd', hstreet'⟩ := street_of_built hv hspace (.inl hpos)
  rw [← (groupOf_of_mem hmost).1] at hwhole hmax
  have hhotel : space.hasHotel = false := by
    by_contra hhotel
    have := (validPropertyState_of_getElem? hv hspace hd').hotel_alone (by simpa using hhotel)
    omega
  have hcost := (boardSpace_bounds hd').2.1
  refine ⟨most, hmost, ?_⟩
  simp only [sellHouse, validateBase, bind_eq_ok, require_eq_ok, requireSome_eq_ok, pure_eq_ok,
    exists_const, Prod.exists, Prod.mk.injEq]
  exact ⟨_, space, definition'.houseCost,
    ⟨hv, hstock, space, hspace, definition', hd', hstreet', hspaceOwner, rfl, rfl⟩, ⟨hpos, hhotel⟩,
    canSellHouse_of_most hv hspace hd' hstreet' hpos hwhole hmax, _,
    checkedAddMatchCash_eq_some.2 ⟨rfl, by omega⟩, rfl⟩

end Sell

/-! ### Along a run -/

/-- The command accepts no trade that hands over a space of a built group. -/
def KeepsBuiltGroups (s : GameplayAggregateState) (accepted : AcceptedCommand) : Prop :=
  ∀ state tradeId, s = .inProgress state →
    accepted.command.body = .trade (.acceptTrade tradeId) → ¬ HandsOverBuilt state tradeId

section Runs

variable {start s s' : GameplayAggregateState} {commands : List AcceptedCommand}
  {accepted : AcceptedCommand}

/-- The step lemma: a command that accepts no such trade keeps buildings on whole groups, and one
that does puts some on a broken group. -/
theorem builtOnGroups_step (hbuilt : BuiltOnGroups s.base.properties)
    (h : Accepts s accepted s') :
    BuiltOnGroups s'.base.properties ↔ KeepsBuiltGroups s accepted := by
  obtain ⟨state, rfl, hok⟩ := accepts_inProgress h
  obtain ⟨hadm, hstep⟩ := transitionGameplay_step hok
  have hv := hadm.valid.table.properties_valid
  have hother : (∀ tradeId, accepted.command.body ≠ .trade (.acceptTrade tradeId)) →
      KeepsBuiltGroups (.inProgress state) accepted := fun hne _ tradeId _ hbody =>
    absurd hbody (hne tradeId)
  by_cases haccept : ∃ tradeId, accepted.command.body = .trade (.acceptTrade tradeId)
  · obtain ⟨tradeId, hbody⟩ := haccept
    rw [hbody] at hstep
    generalize accepted.events = events at hstep
    cases hstep with
    | trade _ active _ hnone hstep =>
      cases hstep with
      | accepted _ trades trade proposer receiver expired hsub hreceiver hset =>
        refine (hset.builtOnGroups_iff hv hbuilt).trans ⟨fun hclear state' tradeId' hstate hbody' => ?_,
          fun hkeeps => hkeeps state tradeId rfl hbody⟩
        cases hstate
        cases hbody.symm.trans hbody'
        exact hclear
  · refine iff_of_true ?_ (hother fun tradeId hbody => haccept ⟨tradeId, hbody⟩)
    have hdeeds := hstep.deeds
    generalize s'.base.properties = properties' at hdeeds ⊢
    cases hdeeds with
    | same => exact hbuilt
    | bought position owner property hp hnone => exact hbuilt.bought hv hp hnone
    | rebuilt position owner _ hrebuilt => exact hbuilt.rebuilt hrebuilt
    | released seat => exact hbuilt.released seat
    | settled tradeId _ trade proposer receiver hbody => exact absurd ⟨tradeId, hbody⟩ haccept

theorem builtOnGroups_of_started (h : StartedGame s) : BuiltOnGroups s.base.properties := by
  obtain ⟨lobby, active, hinit, rfl⟩ := h
  unfold initializeGameplayAggregate at hinit
  split_ifs at hinit
  cases hinit
  intro position property hp hbuilt
  exact absurd hbuilt (not_built_of_unowned
    (isValidBuildingInventory_iff.1 stock_createPropertyStates).1 hp
    (unowned_createPropertyStates hp))

end Runs

/-- As long as no trade hands over a space of a built group, buildings stand on groups of one owner,
and the player to move can sell a house of every group of theirs that has one; and one command more
keeps that exactly when it accepts no such trade. -/
theorem buildings_stand_on_groups (start s : GameplayAggregateState)
    (commands : List AcceptedCommand) (hstart : StartedGame start)
    (hrun : Run (Guarded KeepsBuiltGroups Accepts) start commands s) :
    BuiltOnGroups s.base.properties ∧
    (∀ state current position property, s = .inProgress state →
      (state.turn.phase = .awaitingRoll ∨ state.turn.phase = .awaitingEndTurn) →
      IsCurrent state current → state.properties[position]? = some property →
      property.ownerSeatIndex = some state.turn.currentSeatIndex → 0 < property.houses →
      ∃ other ∈ groupOf position, ∃ result, sellHouse state.properties state.inventory other
        state.turn.currentSeatIndex current.cash = .ok result) ∧
    ∀ accepted s', Accepts s accepted s' →
      (BuiltOnGroups s'.base.properties ↔ KeepsBuiltGroups s accepted) := by
  have hbuilt : BuiltOnGroups s.base.properties :=
    hrun.invariant (I := fun s => BuiltOnGroups s.base.properties)
      (fun _ _ _ hI hstep => (builtOnGroups_step hI hstep.1).2 hstep.2)
      (builtOnGroups_of_started hstart)
  refine ⟨hbuilt, ?_, fun accepted s' => builtOnGroups_step hbuilt⟩
  rintro state current position property rfl - hc hp howner hhouses
  have hb : Budgeted state.toGameplayAggregateStateBase :=
    (budgeted_of_reachable ⟨start, commands, hstart, hrun.mono fun _ _ _ hstep => hstep.1⟩).1
  obtain ⟨owner, howner', hwhole⟩ := hbuilt position property hp (.inl hhouses)
  cases howner.symm.trans howner'
  have hroom := hb.room hc.1
  exact exists_sellHouse (isValidBankruptcyState_iff.1 hb.liquidatable).2.2.1 hp hhouses hwhole
    (by omega)

/-- Alice buys both dark blue streets with double ones, builds a house on the cheaper one and offers
bob the other. -/
def darkBlueOpening : List (GameplayCommand × GameplayCommandContext) :=
  [rolls 6 6 1 10, plays "alice" (.property (.declineProperty 12)) 2 20,
    rolls 6 6 3 30, plays "alice" (.property (.declineProperty 24)) 4 40,
    rolls 6 5 5 50, plays "alice" (.property (.declineProperty 35)) 6 60,
    plays "alice" (.turn .endTurn) 7 70,
    rolls 1 2 8 80, plays "bob" (.property (.declineProperty 3)) 9 90,
    plays "bob" (.turn .endTurn) 10 100,
    rolls 1 1 11 110, plays "alice" (.property (.buyProperty 37)) 12 120,
    rolls 1 1 13 130, plays "alice" (.property (.buyProperty 39)) 14 140,
    plays "alice" (.property (.buildHouse 37)) 15 150,
    plays "alice" (.trade (.createTrade "bob" (.propertyForMoney 39 1))) 16 160]

def acceptsTrade (accepted : AcceptedCommand) : Bool :=
  match accepted.command.body with
  | .trade (.acceptTrade _) => true
  | _ => false

/-- Before bob answers, alice owns both streets and can sell her house. -/
theorem buildings_stand_on_groups_darkBlue : ∃ start s commands state current property,
    StartedGame start ∧ Run (Guarded KeepsBuiltGroups Accepts) start commands s ∧
    s = .inProgress state ∧ IsCurrent state current ∧ state.properties[37]? = some property ∧
    property.houses = 1 ∧ BuiltOnGroups s.base.properties ∧
    ∃ other ∈ groupOf 37, ∃ result, sellHouse state.properties state.inventory other
      state.turn.currentSeatIndex current.cash = .ok result := by
  obtain ⟨start, hstart, hcheck⟩ := exists_of_inProgressWith (twoPlayerGame [])
    (fun start => (record (.inProgress start) darkBlueOpening).any
      fun recorded : List AcceptedCommand × GameplayAggregateState =>
        (recorded.1.all fun accepted => !acceptsTrade accepted) &&
        recorded.2.active?.any fun state : ActiveGameplayAggregateState =>
          decide (state.turn.phase = .awaitingRoll) &&
          ((slotAt state.players state.turn.currentSeatIndex).any fun current : GameplayPlayerState =>
            decide (current.status = .active)) &&
          (state.properties[37]?).any fun property : PropertyState => decide (property.houses = 1 ∧
            property.ownerSeatIndex = some state.turn.currentSeatIndex)) (by decide +kernel)
  obtain ⟨⟨commands, last⟩, hrecord, hcheck⟩ := (Option.any_eq_true _ _).1 hcheck
  obtain ⟨hquiet, hcheck⟩ := Bool.and_eq_true_iff.1 hcheck
  obtain ⟨state, hlast, hcheck⟩ := (Option.any_eq_true _ _).1 hcheck
  simp only [Bool.and_eq_true, Option.any_eq_true, decide_eq_true_eq] at hcheck
  obtain ⟨⟨hphase, current, hslot, hactive⟩, property, hp, hhouses, howner⟩ := hcheck
  have hstarted := started_of_twoPlayerGame hstart
  have hrun : Run (Guarded KeepsBuiltGroups Accepts) (.inProgress start) commands last :=
    (run_of_record hrecord).guarded fun accepted haccepted s state' tradeId _ hbody => by
      have hother := List.all_eq_true.1 hquiet accepted haccepted
      rw [acceptsTrade, hbody] at hother
      cases hother
  cases last with
  | finished finished => cases hlast
  | inProgress last =>
    cases hlast
    obtain ⟨hbuilt, hsell, -⟩ := buildings_stand_on_groups _ _ _ hstarted hrun
    exact ⟨_, _, commands, state, current, property, hstarted, hrun, rfl, ⟨hslot, hactive⟩, hp,
      hhouses, hbuilt, hsell state current 37 property rfl (.inl hphase) ⟨hslot, hactive⟩ hp howner
        (by omega)⟩

/-- Once bob has bought the other street, alice's house stands on a broken group, and she can sell
no house of it. -/
theorem not_buildings_stand_on_groups : ∃ start s commands state current property,
    StartedGame start ∧ Run Accepts start commands s ∧ s = .inProgress state ∧
    state.turn.phase = .awaitingRoll ∧ IsCurrent state current ∧
    state.properties[37]? = some property ∧
    property.ownerSeatIndex = some state.turn.currentSeatIndex ∧ property.houses = 1 ∧
    ¬ BuiltOnGroups s.base.properties ∧
    ∀ other ∈ groupOf 37, ∀ result, sellHouse state.properties state.inventory other
      state.turn.currentSeatIndex current.cash ≠ .ok result := by
  obtain ⟨start, hstart, hcheck⟩ := exists_of_inProgressWith (twoPlayerGame [])
    (fun start => (record (.inProgress start)
      (darkBlueOpening ++ [plays "bob" (.trade (.acceptTrade "trade")) 17 170])).any
      fun recorded : List AcceptedCommand × GameplayAggregateState =>
        recorded.2.active?.any fun state : ActiveGameplayAggregateState => decide (state.turn.phase = .awaitingRoll) &&
          decide (ownerAt state.properties 39 ≠ some state.turn.currentSeatIndex) &&
          ((slotAt state.players state.turn.currentSeatIndex).any fun current : GameplayPlayerState =>
            decide (current.status = .active) &&
            (groupOf 37).all fun other => (sellHouse state.properties state.inventory other
              state.turn.currentSeatIndex current.cash).toOption.isNone) &&
          (state.properties[37]?).any fun property : PropertyState => decide (property.houses = 1 ∧
            property.ownerSeatIndex = some state.turn.currentSeatIndex)) (by decide +kernel)
  obtain ⟨⟨commands, last⟩, hrecord, hcheck⟩ := (Option.any_eq_true _ _).1 hcheck
  obtain ⟨state, hlast, hcheck⟩ := (Option.any_eq_true _ _).1 hcheck
  simp only [Bool.and_eq_true, Option.any_eq_true, decide_eq_true_eq, List.all_eq_true] at hcheck
  obtain ⟨⟨⟨hphase, hsold⟩, current, hslot, hactive, hstuck⟩, property, hp, hhouses, howner⟩ := hcheck
  cases last with
  | finished finished => cases hlast
  | inProgress last =>
    cases hlast
    refine ⟨_, _, commands, state, current, property, started_of_twoPlayerGame hstart,
      run_of_record hrecord, rfl, hphase, ⟨hslot, hactive⟩, hp, howner, hhouses, fun hbuilt => ?_,
      fun other hother result hok => ?_⟩
    · obtain ⟨owner, howner', hwhole⟩ := hbuilt 37 property hp (.inl (by omega))
      cases howner.symm.trans howner'
      exact hsold (hwhole 39 (by decide))
    · have hnone := hstuck other hother
      rw [hok] at hnone
      cases hnone

end Pootown
