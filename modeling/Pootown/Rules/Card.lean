import Mathlib.Tactic
import Pootown.Rules.Board
import Pootown.Rules.Movement

/-!
# Card rules

Resolving a drawn card against the drawer's cash, position and jail cards.

* `resolveCard`, and `resolveCard_eq_ok`: the new cash is the old one plus `cashDelta`, never
  negative, and only a debit that exceeds the cash asks for bankruptcy.
-/

namespace Pootown

open Fallible

structure CardPlayerState where
  cash : ℤ
  position : ℕ
  getOutOfJailCards : ℕ

inductive CardRuleErrorCode
  | invalidCardState | invalidCard | invalidPlayerCount | arithmeticOverflow
  deriving DecidableEq

def CardRuleErrorCode.text : CardRuleErrorCode → String
  | .invalidCardState => "INVALID_CARD_STATE"
  | .invalidCard => "INVALID_CARD"
  | .invalidPlayerCount => "INVALID_PLAYER_COUNT"
  | .arithmeticOverflow => "ARITHMETIC_OVERFLOW"

structure CardResolution where
  state : CardPlayerState
  card : CardDefinition
  deck : CardDeck
  cashDelta : ℤ
  movement : Option MovementResult
  bankruptcyRequired : Bool

abbrev CardResolutionResult := Except CardRuleErrorCode CardResolution

/-- The `validState` of the card rules. -/
abbrev ValidCardState (state : CardPlayerState) : Prop :=
  IsMatchCash state.cash ∧ state.position < GameplayPolicy.boardSize ∧
    state.getOutOfJailCards ≤ 255

def absoluteMovement (position destination : ℕ) : MovementResult where
  fromPosition := position
  toPosition := destination
  spaces := ((destination : ℤ) - position + GameplayPolicy.boardSize).tmod GameplayPolicy.boardSize
  passedGo := decide (destination < position ∨ destination = 0)

/-- The two decks by name. -/
def cardsOf : CardDeck → List CardDefinition
  | .chance => chanceCards
  | .communityChest => communityChestCards

/-- A movement card: the salary is added when the movement passes GO. -/
def resolveMovement (deck : CardDeck) (card : CardDefinition) (state : CardPlayerState)
    (movement : Option MovementResult) : CardResolutionResult := do
  let movement ← requireSome movement .invalidCard
  let delta := if movement.passedGo then GameplayPolicy.passGoSalary else 0
  let cash ← requireSome (if movement.passedGo then checkedAddMatchCash state.cash delta
    else some state.cash) .arithmeticOverflow
  return {
    state := { state with cash := cash, position := movement.toPosition }
    card := card
    deck := deck
    cashDelta := delta
    movement := some movement
    bankruptcyRequired := false }

/-- A card that credits `amount` without movement. -/
def resolveCredit (deck : CardDeck) (card : CardDefinition) (state : CardPlayerState)
    (amount : ℤ) : CardResolutionResult := do
  let cash ← requireSome (checkedAddMatchCash state.cash amount) .arithmeticOverflow
  return {
    state := { state with cash := cash }
    card := card
    deck := deck
    cashDelta := amount
    movement := none
    bankruptcyRequired := false }

/-- A card that debits `amount`; what the player cannot pay empties them. -/
def resolveDebit (deck : CardDeck) (card : CardDefinition) (state : CardPlayerState)
    (amount : ℤ) : CardResolution :=
  match checkedSubtractMatchCash state.cash amount with
  | none => {
      state := { state with cash := 0 }
      card := card
      deck := deck
      cashDelta := -state.cash
      movement := none
      bankruptcyRequired := true }
  | some cash => {
      state := { state with cash := cash }
      card := card
      deck := deck
      cashDelta := -amount
      movement := none
      bankruptcyRequired := false }

def resolveCard (deck : CardDeck) (cardId : ℕ) (state : CardPlayerState) (playerCount : ℕ) :
    CardResolutionResult := do
  require (ValidCardState state) .invalidCardState
  require (2 ≤ playerCount ∧ playerCount ≤ 4) .invalidPlayerCount
  let card ← requireSome ((cardsOf deck).find? fun candidate => candidate.id = cardId) .invalidCard
  match card.effect with
  | .money =>
    if 0 ≤ card.amount then resolveCredit deck card state card.amount
    else return resolveDebit deck card state (-card.amount)
  | .move =>
    resolveMovement deck card state <| match deck with
      | .chance => moveBy state.position card.amount
      | .communityChest => some (absoluteMovement state.position card.amount.toNat)
  | .moveToNearest =>
    resolveMovement deck card state (moveToNearest state.position [1, 3])
  | .getOutOfJailFree =>
    require (state.getOutOfJailCards ≠ 255) .arithmeticOverflow
    return {
      state := { state with getOutOfJailCards := state.getOutOfJailCards + 1 }
      card := card
      deck := deck
      cashDelta := 0
      movement := none
      bankruptcyRequired := false }
  | .collectFromPlayers =>
    resolveCredit deck card state (card.amount * ((playerCount : ℤ) - 1))
  | .repairFree =>
    return {
      state := state
      card := card
      deck := deck
      cashDelta := 0
      movement := none
      bankruptcyRequired := false }

/-! ### What an accepted resolution does -/

/-- The books of a card: cash moves by `cashDelta`, and a player marked for bankruptcy is
empty. -/
structure CardEffectOn (state : CardPlayerState) (resolution : CardResolution) : Prop where
  cash_eq : resolution.state.cash = state.cash + resolution.cashDelta
  cash_nonneg : 0 ≤ resolution.state.cash
  cash_le : resolution.state.cash ≤ maxMatchCash
  cashDelta_le : resolution.cashDelta ≤ 200
  position_lt : resolution.state.position < 40
  cards_le : resolution.state.getOutOfJailCards ≤ 255
  stays : resolution.movement = none → resolution.state.position = state.position
  moves : ∀ movement, resolution.movement = some movement →
    movement.fromPosition = state.position ∧ resolution.state.position = movement.toPosition ∧
      resolution.bankruptcyRequired = false

theorem resolveMovement_effect {deck : CardDeck} {card : CardDefinition}
    {state : CardPlayerState} {movement : Option MovementResult} {resolution : CardResolution}
    (hs : ValidCardState state)
    (hm : ∀ m, movement = some m → m.fromPosition = state.position ∧ m.toPosition < 40)
    (h : resolveMovement deck card state movement = .ok resolution) :
    CardEffectOn state resolution ∧ resolution.deck = deck ∧ resolution.card = card := by
  obtain ⟨⟨hcash0, hcash1⟩, -, hcards⟩ := hs
  simp only [resolveMovement, bind_eq_ok, requireSome_eq_ok, pure_eq_ok] at h
  obtain ⟨m, rfl, cash, hcash, rfl⟩ := h
  obtain ⟨hfrom, hto⟩ := hm m rfl
  have hbooks : cash = state.cash + (if m.passedGo then GameplayPolicy.passGoSalary else 0) ∧
      cash ≤ maxMatchCash := by
    split_ifs at hcash ⊢
    · obtain ⟨rfl, hle⟩ := checkedAddMatchCash_eq_some.1 hcash
      exact ⟨rfl, hle⟩
    · cases hcash
      exact ⟨by omega, hcash1⟩
  have hdelta : (0 : ℤ) ≤ (if m.passedGo then GameplayPolicy.passGoSalary else 0) ∧
      (if m.passedGo then GameplayPolicy.passGoSalary else 0) ≤ (200 : ℤ) := by
    split_ifs <;> simp
  exact ⟨{
    cash_eq := hbooks.1
    cash_nonneg := by dsimp only; omega
    cash_le := hbooks.2
    cashDelta_le := hdelta.2
    position_lt := hto
    cards_le := hcards
    stays := fun hn => nomatch hn
    moves := fun m' hm' => by cases hm'; exact ⟨hfrom, rfl, rfl⟩ }, rfl, rfl⟩

theorem resolveCredit_effect {deck : CardDeck} {card : CardDefinition}
    {state : CardPlayerState} {amount : ℤ} {resolution : CardResolution}
    (hs : ValidCardState state) (hnn : 0 ≤ amount) (hle : amount ≤ 200)
    (h : resolveCredit deck card state amount = .ok resolution) :
    CardEffectOn state resolution ∧ resolution.deck = deck ∧ resolution.card = card := by
  obtain ⟨⟨hcash0, -⟩, hpos, hcards⟩ := hs
  simp only [resolveCredit, bind_eq_ok, requireSome_eq_ok, pure_eq_ok] at h
  obtain ⟨cash, hcash, rfl⟩ := h
  obtain ⟨rfl, hmax⟩ := checkedAddMatchCash_eq_some.1 hcash
  exact ⟨{
    cash_eq := rfl
    cash_nonneg := by dsimp only; omega
    cash_le := hmax
    cashDelta_le := hle
    position_lt := hpos
    cards_le := hcards
    stays := fun _ => rfl
    moves := fun m hm => nomatch hm }, rfl, rfl⟩

theorem resolveDebit_effect {deck : CardDeck} {card : CardDefinition} {state : CardPlayerState}
    {amount : ℤ} (hs : ValidCardState state) (hnn : 0 ≤ amount) :
    CardEffectOn state (resolveDebit deck card state amount) := by
  obtain ⟨⟨hcash0, hcash1⟩, hpos, hcards⟩ := hs
  have hmax : (0 : ℤ) ≤ maxMatchCash := hcash0.trans hcash1
  unfold resolveDebit
  split
  next hc =>
    exact {
      cash_eq := by dsimp only; omega
      cash_nonneg := le_rfl
      cash_le := hmax
      cashDelta_le := by dsimp only; omega
      position_lt := hpos
      cards_le := hcards
      stays := fun _ => rfl
      moves := fun m hm => nomatch hm }
  next cash hc =>
    obtain ⟨rfl, hle⟩ := checkedSubtractMatchCash_eq_some.1 hc
    exact {
      cash_eq := by dsimp only; omega
      cash_nonneg := by dsimp only; omega
      cash_le := by dsimp only; omega
      cashDelta_le := by dsimp only; omega
      position_lt := hpos
      cards_le := hcards
      stays := fun _ => rfl
      moves := fun m hm => nomatch hm }

/-- Only money cards carry a negative amount a player may fail to pay, and the move cards of the
community chest name a board position. -/
theorem mem_cardsOf {deck : CardDeck} {card : CardDefinition} (h : card ∈ cardsOf deck) :
    (card.effect = .collectFromPlayers → card.amount = 50) ∧
    (card.effect = .money → card.amount ≤ 100) ∧
    (card.effect = .move → deck = .communityChest → card.amount = 20) := by
  cases deck with
  | chance =>
    have hall : ∀ c ∈ chanceCards, (c.effect = .collectFromPlayers → c.amount = 50) ∧
        (c.effect = .money → c.amount ≤ 100) := by decide
    exact ⟨(hall card h).1, (hall card h).2, fun _ hd => nomatch hd⟩
  | communityChest =>
    have hall : ∀ c ∈ communityChestCards, (c.effect = .collectFromPlayers → c.amount = 50) ∧
        (c.effect = .money → c.amount ≤ 100) ∧ (c.effect = .move → c.amount = 20) := by decide
    exact ⟨(hall card h).1, (hall card h).2.1, fun he _ => (hall card h).2.2 he⟩

theorem resolveCard_eq_ok {deck : CardDeck} {cardId playerCount : ℕ} {state : CardPlayerState}
    {resolution : CardResolution}
    (h : resolveCard deck cardId state playerCount = .ok resolution) :
    CardEffectOn state resolution ∧ resolution.deck = deck ∧ resolution.card.id = cardId := by
  simp only [resolveCard, bind_eq_ok, require_eq_ok, requireSome_eq_ok, exists_const] at h
  obtain ⟨hs, hcount, card, hfind, h⟩ := h
  have hid : card.id = cardId := by simpa using List.find?_some hfind
  obtain ⟨hcollect, hmoney, hmove⟩ := mem_cardsOf (List.mem_of_find?_eq_some hfind)
  rw [← hid]
  cases heffect : card.effect with
  | money =>
    simp only [heffect, ite_eq_ok, pure_eq_ok] at h
    obtain ⟨hnn, h⟩ | ⟨hneg, rfl⟩ := h
    · have hle : card.amount ≤ 200 := by have := hmoney heffect; omega
      obtain ⟨heff, hdeck, rfl⟩ := resolveCredit_effect hs hnn hle h
      exact ⟨heff, hdeck, rfl⟩
    · refine ⟨resolveDebit_effect hs (by omega), ?_, ?_⟩ <;>
        unfold resolveDebit <;> split <;> rfl
  | move =>
    simp only [heffect] at h
    have hboard : ∀ m, (match deck with
        | .chance => moveBy state.position card.amount
        | .communityChest => some (absoluteMovement state.position card.amount.toNat)) = some m →
        m.fromPosition = state.position ∧ m.toPosition < 40 := by
      intro m hm
      cases deck with
      | chance => exact moveBy_eq_some hm
      | communityChest =>
        cases hm
        simp [absoluteMovement, hmove heffect rfl]
    obtain ⟨heff, hdeck, rfl⟩ := resolveMovement_effect hs hboard h
    exact ⟨heff, hdeck, rfl⟩
  | moveToNearest =>
    simp only [heffect] at h
    obtain ⟨heff, hdeck, rfl⟩ := resolveMovement_effect hs (fun m hm => moveToNearest_eq_some hm) h
    exact ⟨heff, hdeck, rfl⟩
  | getOutOfJailFree =>
    simp only [heffect, bind_eq_ok, require_eq_ok, exists_const, pure_eq_ok] at h
    obtain ⟨hne, rfl⟩ := h
    obtain ⟨⟨hcash0, hcash1⟩, hpos, hcards⟩ := hs
    exact ⟨{
      cash_eq := by simp
      cash_nonneg := hcash0
      cash_le := hcash1
      cashDelta_le := by simp
      position_lt := hpos
      cards_le := by dsimp only; omega
      stays := fun _ => rfl
      moves := fun m hm => nomatch hm }, rfl, rfl⟩
  | collectFromPlayers =>
    simp only [heffect] at h
    rw [hcollect heffect] at h
    obtain ⟨heff, hdeck, rfl⟩ := resolveCredit_effect hs (by omega) (by omega) h
    exact ⟨heff, hdeck, rfl⟩
  | repairFree =>
    simp only [heffect, pure_eq_ok] at h
    subst h
    obtain ⟨⟨hcash0, hcash1⟩, hpos, hcards⟩ := hs
    exact ⟨{
      cash_eq := by simp
      cash_nonneg := hcash0
      cash_le := hcash1
      cashDelta_le := by simp
      position_lt := hpos
      cards_le := hcards
      stays := fun _ => rfl
      moves := fun m hm => nomatch hm }, rfl, rfl⟩

end Pootown
