import Mathlib.Tactic

/-!
# The board and the card decks

The static data of the ruleset: the forty board spaces, the colour groups, and the two five-card
decks, with the effects the decks use.
-/

namespace Pootown

/-! ### Board spaces -/

inductive ColorGroup
  | brown | lightBlue | pink | orange | red | yellow | green | darkBlue | railroad | utility | special
  deriving DecidableEq

inductive PropertyType
  | street | railroad | utility | corner | chance | communityChest | tax
  deriving DecidableEq

/-- One space of the board.  `rent` lists the rent for 0 to 4 houses and for a hotel. -/
structure BoardSpaceDefinition where
  position : ℕ
  price : ℕ
  rent : List ℕ
  houseCost : ℕ
  mortgageValue : ℕ
  colorGroup : ColorGroup
  propertyType : PropertyType

/-- `BOARD_SPACES`. -/
def boardSpaces : List BoardSpaceDefinition := [
  ⟨0, 0, [0, 0, 0, 0, 0, 0], 0, 0, .special, .corner⟩,
  ⟨1, 60, [2, 10, 30, 90, 160, 250], 50, 30, .brown, .street⟩,
  ⟨2, 0, [0, 0, 0, 0, 0, 0], 0, 0, .special, .communityChest⟩,
  ⟨3, 60, [4, 20, 60, 180, 320, 450], 50, 30, .brown, .street⟩,
  ⟨4, 0, [0, 0, 0, 0, 0, 0], 0, 0, .special, .tax⟩,
  ⟨5, 200, [25, 50, 100, 200, 0, 0], 0, 100, .railroad, .railroad⟩,
  ⟨6, 100, [6, 30, 90, 270, 400, 550], 50, 50, .lightBlue, .street⟩,
  ⟨7, 0, [0, 0, 0, 0, 0, 0], 0, 0, .special, .chance⟩,
  ⟨8, 100, [6, 30, 90, 270, 400, 550], 50, 50, .lightBlue, .street⟩,
  ⟨9, 120, [8, 40, 100, 300, 450, 600], 50, 60, .lightBlue, .street⟩,
  ⟨10, 0, [0, 0, 0, 0, 0, 0], 0, 0, .special, .corner⟩,
  ⟨11, 140, [10, 50, 150, 450, 625, 750], 50, 70, .pink, .street⟩,
  ⟨12, 150, [4, 10, 0, 0, 0, 0], 0, 75, .utility, .utility⟩,
  ⟨13, 140, [10, 50, 150, 450, 625, 750], 100, 70, .pink, .street⟩,
  ⟨14, 160, [12, 60, 180, 500, 700, 900], 100, 80, .pink, .street⟩,
  ⟨15, 200, [25, 50, 100, 200, 0, 0], 0, 100, .railroad, .railroad⟩,
  ⟨16, 180, [14, 70, 200, 550, 750, 950], 100, 90, .orange, .street⟩,
  ⟨17, 0, [0, 0, 0, 0, 0, 0], 0, 0, .special, .communityChest⟩,
  ⟨18, 180, [14, 70, 200, 550, 750, 950], 100, 90, .orange, .street⟩,
  ⟨19, 200, [16, 80, 240, 600, 800, 1000], 100, 100, .orange, .street⟩,
  ⟨20, 0, [0, 0, 0, 0, 0, 0], 0, 0, .special, .corner⟩,
  ⟨21, 220, [18, 90, 270, 650, 850, 1050], 150, 110, .red, .street⟩,
  ⟨22, 0, [0, 0, 0, 0, 0, 0], 0, 0, .special, .chance⟩,
  ⟨23, 220, [18, 90, 270, 650, 850, 1050], 150, 110, .red, .street⟩,
  ⟨24, 240, [20, 100, 300, 750, 950, 1100], 150, 120, .red, .street⟩,
  ⟨25, 200, [25, 50, 100, 200, 0, 0], 0, 100, .railroad, .railroad⟩,
  ⟨26, 260, [22, 110, 330, 850, 1050, 1200], 150, 120, .yellow, .street⟩,
  ⟨27, 260, [22, 110, 330, 850, 1050, 1200], 150, 130, .yellow, .street⟩,
  ⟨28, 150, [4, 10, 0, 0, 0, 0], 0, 75, .utility, .utility⟩,
  ⟨29, 280, [24, 120, 360, 900, 1100, 1300], 150, 140, .yellow, .street⟩,
  ⟨30, 0, [0, 0, 0, 0, 0, 0], 0, 0, .special, .corner⟩,
  ⟨31, 300, [26, 130, 390, 900, 1100, 1300], 200, 150, .green, .street⟩,
  ⟨32, 300, [26, 130, 390, 900, 1100, 1300], 200, 150, .green, .street⟩,
  ⟨33, 0, [0, 0, 0, 0, 0, 0], 0, 0, .special, .communityChest⟩,
  ⟨34, 320, [28, 150, 450, 1000, 1200, 1400], 200, 160, .green, .street⟩,
  ⟨35, 200, [25, 50, 100, 200, 0, 0], 0, 100, .railroad, .railroad⟩,
  ⟨36, 0, [0, 0, 0, 0, 0, 0], 0, 0, .special, .chance⟩,
  ⟨37, 350, [35, 175, 500, 1100, 1400, 1500], 200, 175, .darkBlue, .street⟩,
  ⟨38, 0, [0, 0, 0, 0, 0, 0], 0, 0, .special, .tax⟩,
  ⟨39, 400, [50, 200, 600, 1200, 1600, 2000], 200, 200, .darkBlue, .street⟩]

/-- `COLOR_GROUP_POSITIONS`; the source has no entry for `special`. -/
def colorGroupPositions : ColorGroup → List ℕ
  | .brown => [1, 3]
  | .lightBlue => [6, 8, 9]
  | .pink => [11, 13, 14]
  | .orange => [16, 18, 19]
  | .red => [21, 23, 24]
  | .yellow => [26, 27, 29]
  | .green => [31, 32, 34]
  | .darkBlue => [37, 39]
  | .railroad => [5, 15, 25, 35]
  | .utility => [12, 28]
  | .special => []

@[simp] theorem length_boardSpaces : boardSpaces.length = 40 := rfl

theorem exists_boardSpace {position : ℕ} (h : position < 40) :
    ∃ definition, boardSpaces[position]? = some definition :=
  ⟨_, List.getElem?_eq_getElem (by simpa using h)⟩

theorem lt_of_boardSpace {position : ℕ} {definition : BoardSpaceDefinition}
    (h : boardSpaces[position]? = some definition) : position < 40 := by
  simpa using (List.getElem?_eq_some_iff.1 h).1

/-- Prices, house costs and mortgage values stay below 500. -/
theorem boardSpace_bounds {position : ℕ} {definition : BoardSpaceDefinition}
    (h : boardSpaces[position]? = some definition) :
    definition.price ≤ 400 ∧ definition.houseCost ≤ 200 ∧ definition.mortgageValue ≤ 200 := by
  have hall : ∀ d ∈ boardSpaces, d.price ≤ 400 ∧ d.houseCost ≤ 200 ∧ d.mortgageValue ≤ 200 := by
    decide
  exact hall _ (List.mem_of_getElem? h)

/-! ### Cards -/

inductive CardDeck
  | chance | communityChest
  deriving DecidableEq

inductive CardEffect
  | money | move | getOutOfJailFree | collectFromPlayers | moveToNearest | repairFree
  deriving DecidableEq

/-- One card; its title and copy are display text that no rule reads. -/
structure CardDefinition where
  id : ℕ
  effect : CardEffect
  amount : ℤ

/-- `CHANCE_CARDS`. -/
def chanceCards : List CardDefinition := [
  ⟨1, .moveToNearest, 1⟩,
  ⟨2, .money, -50⟩,
  ⟨3, .money, 100⟩,
  ⟨4, .move, -3⟩,
  ⟨5, .getOutOfJailFree, 0⟩]

/-- `COMMUNITY_CHEST_CARDS`. -/
def communityChestCards : List CardDefinition := [
  ⟨1, .collectFromPlayers, 50⟩,
  ⟨2, .money, 100⟩,
  ⟨3, .move, 20⟩,
  ⟨4, .repairFree, 0⟩,
  ⟨5, .money, -50⟩]

end Pootown
