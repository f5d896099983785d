import Mathlib.Tactic
import Mathlib.Data.List.Sort
import Pootown.Rules.Timeout

/-!
# Terminal rules

Net worth, the ranking of the active seats, and the terminal record of a finished game.

* `calculatePlayerNetWorth`: cash plus mortgage value plus full house cost of what a seat owns;
* `rankPlayers`: the active seats by net worth, ties by seat;
* `deriveRankedTerminalOutcome` and its three entry points, one per way a game ends.
-/

namespace Pootown

open Fallible Slots

inductive TerminalEndReason
  | lastPlayerStanding | timeLimit | timeoutForfeit
  deriving DecidableEq

structure TerminalPlayerState where
  seatIndex : ℕ
  status : PlayerStatus
  cash : ℤ

structure TerminalRankingEntry where
  rank : ℕ
  seatIndex : ℕ
  netWorth : ℤ
  deriving DecidableEq

/-- The claim of the winner on the stake; its status is always pending here. -/
structure SettlementEntitlement where
  winnerSeatIndex : ℕ

structure TerminalOutcome where
  reason : TerminalEndReason
  winnerSeatIndex : ℕ
  endedAtMs : ℤ
  ranking : List TerminalRankingEntry
  settlementEntitlement : SettlementEntitlement

inductive TerminalRuleErrorCode
  | invalidTerminalState | noActivePlayers | endConditionNotMet | arithmeticOverflow
  deriving DecidableEq

def TerminalRuleErrorCode.text : TerminalRuleErrorCode → String
  | .invalidTerminalState => "INVALID_TERMINAL_STATE"
  | .noActivePlayers => "NO_ACTIVE_PLAYERS"
  | .endConditionNotMet => "END_CONDITION_NOT_MET"
  | .arithmeticOverflow => "ARITHMETIC_OVERFLOW"

abbrev TerminalOutcomeResult := Except TerminalRuleErrorCode TerminalOutcome

/-! ### Net worth -/

/-- The `validPlayer` of the terminal rules. -/
abbrev ValidTerminalPlayer (player : TerminalPlayerState) : Prop :=
  player.seatIndex < GameplayPolicy.maximumPlayers ∧ IsMatchCash player.cash ∧
  (player.status = .eliminated → player.cash = 0)

/-- The `validState` of the terminal rules. -/
def validTerminalState (players : List (Option TerminalPlayerState))
    (properties : List PropertyState) : Bool :=
  decide (players.length = GameplayPolicy.maximumPlayers) && isValidPropertyStates properties &&
  everySlot (fun index player => decide (ValidTerminalPlayer player ∧ player.seatIndex = index))
    players &&
  properties.all fun property => decide (∀ owner ∈ property.ownerSeatIndex,
    ∃ player ∈ slotAt players owner, player.status = .active)

def propertyNetWorth (definition : BoardSpaceDefinition) (property : PropertyState) : ℤ :=
  if property.mortgaged then (definition.mortgageValue : ℤ) * 9 / 10
  else (definition.mortgageValue : ℤ)

def buildingNetWorth (definition : BoardSpaceDefinition) (property : PropertyState) : ℤ :=
  if property.hasHotel then (definition.houseCost : ℤ) * 5
  else (definition.houseCost : ℤ) * property.houses

/-- Add the worth of one space to a seat's running net worth. -/
def addNetWorth (seatIndex : ℕ) (netWorth : ℤ) (property : PropertyState) : Option ℤ := do
  if property.ownerSeatIndex ≠ some seatIndex then return netWorth
  else
    let definition ← boardSpaces[property.position]?
    let afterProperty ← checkedAddMatchCash netWorth (propertyNetWorth definition property)
    checkedAddMatchCash afterProperty (buildingNetWorth definition property)

def calculatePlayerNetWorth (player : TerminalPlayerState) (properties : List PropertyState) :
    Option ℤ :=
  if ¬ ValidTerminalPlayer player ∨ isValidPropertyStates properties = false ∨
      (player.status = .eliminated ∧
        properties.any fun property => property.ownerSeatIndex == some player.seatIndex) then none
  else properties.foldlM (addNetWorth player.seatIndex) player.cash

/-! ### Ranking -/

/-- A seat with its net worth. -/
structure RankedSeat where
  seatIndex : ℕ
  netWorth : ℤ
  deriving DecidableEq

/-- The comparator of the ranking: richer first, ties by seat. -/
abbrev RankedBefore (left right : RankedSeat) : Prop :=
  right.netWorth < left.netWorth ∨
    (left.netWorth = right.netWorth ∧ left.seatIndex ≤ right.seatIndex)

instance : Std.Total RankedBefore where
  total left right := by unfold RankedBefore; omega

instance : IsTrans RankedSeat RankedBefore where
  trans _ _ _ := by unfold RankedBefore; omega

/-- `ranked.sort(comparator)`; the sort of JavaScript is stable, like insertion sort. -/
def sortRanked (ranked : List RankedSeat) : List RankedSeat := ranked.insertionSort RankedBefore

/-- The active players in seat order. -/
def activePlayersOf (players : List (Option TerminalPlayerState)) : List TerminalPlayerState :=
  (occupants players).filter fun player => player.status = .active

/-- The net worth of each player, none as soon as one overflows. -/
def netWorths (properties : List PropertyState) (players : List TerminalPlayerState) :
    Option (List RankedSeat) :=
  players.mapM fun player =>
    (calculatePlayerNetWorth player properties).map fun netWorth => ⟨player.seatIndex, netWorth⟩

/-- Number the sorted seats from rank 1. -/
def withRanks (ranked : List RankedSeat) : List TerminalRankingEntry :=
  ranked.mapIdx fun index entry => ⟨index + 1, entry.seatIndex, entry.netWorth⟩

def deriveRankedTerminalOutcome (players : List (Option TerminalPlayerState))
    (properties : List PropertyState) (reason : TerminalEndReason) (endedAtMs : ℤ) :
    TerminalOutcomeResult := do
  require (validTerminalState players properties = true ∧ IsSafeInteger endedAtMs ∧
    0 ≤ endedAtMs) .invalidTerminalState
  let activePlayers := activePlayersOf players
  require (activePlayers ≠ []) .noActivePlayers
  require ((reason = .lastPlayerStanding ∨ reason = .timeoutForfeit) → activePlayers.length = 1)
    .endConditionNotMet
  let ranked ← requireSome (netWorths properties activePlayers) .arithmeticOverflow
  let sorted := sortRanked ranked
  -- the list is not empty here, so the default is never taken
  let winnerSeatIndex := (sorted.head?.map RankedSeat.seatIndex).getD 0
  return {
    reason := reason
    winnerSeatIndex := winnerSeatIndex
    endedAtMs := endedAtMs
    ranking := withRanks sorted
    settlementEntitlement := ⟨winnerSeatIndex⟩ }

/-! ### The three ways a game ends -/

def deriveTimeLimitTerminalOutcome (players : List (Option TerminalPlayerState))
    (properties : List PropertyState) (gameEndAtMs : Option ℤ) (endedAtMs : ℤ) :
    TerminalOutcomeResult := do
  let gameEndAtMs ← requireSome gameEndAtMs .invalidTerminalState
  require (IsSafeInteger gameEndAtMs ∧ 0 ≤ gameEndAtMs) .invalidTerminalState
  require (IsSafeInteger endedAtMs ∧ 0 ≤ endedAtMs) .invalidTerminalState
  require (gameEndAtMs ≤ endedAtMs) .endConditionNotMet
  deriveRankedTerminalOutcome players properties .timeLimit endedAtMs

/-- The view of a player the terminal rules take. -/
def BankruptcyPlayerState.toTerminal (player : BankruptcyPlayerState) : TerminalPlayerState :=
  ⟨player.seatIndex, player.status, player.cash⟩

def terminalPlayers (players : List (Option BankruptcyPlayerState)) :
    List (Option TerminalPlayerState) :=
  mapSlots (fun _ => BankruptcyPlayerState.toTerminal) players

def deriveBankruptcyTerminalOutcome (resolution : BankruptcyResolution) (endedAtMs : ℤ) :
    TerminalOutcomeResult := do
  require (resolution.endConditionMet = true ∧ resolution.winnerSeatIndex ≠ none)
    .endConditionNotMet
  let activePlayers := (occupants resolution.players).filter fun player => player.status = .active
  require (activePlayers.length = 1 ∧
    activePlayers.head?.map BankruptcyPlayerState.seatIndex = resolution.winnerSeatIndex)
    .invalidTerminalState
  deriveRankedTerminalOutcome (terminalPlayers resolution.players) resolution.properties
    .lastPlayerStanding endedAtMs

def deriveTimeoutForfeitTerminalOutcome (bankruptcy : BankruptcyResolution) (endedAtMs : ℤ) :
    TerminalOutcomeResult := do
  require (bankruptcy.endConditionMet = true ∧ bankruptcy.winnerSeatIndex ≠ none)
    .endConditionNotMet
  deriveRankedTerminalOutcome (terminalPlayers bankruptcy.players) bankruptcy.properties
    .timeoutForfeit endedAtMs

/-! ### What a derived outcome is -/

section Derive

variable {players : List (Option TerminalPlayerState)} {properties : List PropertyState}
  {reason : TerminalEndReason} {endedAtMs : ℤ} {terminal : TerminalOutcome}

/-- A derived outcome ranks the active players by net worth and entitles the first of them. -/
theorem deriveRankedTerminalOutcome_eq_ok :
    deriveRankedTerminalOutcome players properties reason endedAtMs = .ok terminal ↔
      (validTerminalState players properties = true ∧ IsSafeInteger endedAtMs ∧ 0 ≤ endedAtMs) ∧
      activePlayersOf players ≠ [] ∧
      ((reason = .lastPlayerStanding ∨ reason = .timeoutForfeit) →
        (activePlayersOf players).length = 1) ∧
      ∃ ranked, netWorths properties (activePlayersOf players) = some ranked ∧
        terminal = {
          reason := reason
          winnerSeatIndex := ((sortRanked ranked).head?.map RankedSeat.seatIndex).getD 0
          endedAtMs := endedAtMs
          ranking := withRanks (sortRanked ranked)
          settlementEntitlement :=
            ⟨((sortRanked ranked).head?.map RankedSeat.seatIndex).getD 0⟩ } := by
  simp only [deriveRankedTerminalOutcome, bind_eq_ok, require_eq_ok, requireSome_eq_ok,
    pure_eq_ok, exists_const]
  constructor
  · rintro ⟨hv, hne, hone, ranked, hr, rfl⟩
    exact ⟨hv, hne, hone, ranked, hr, rfl⟩
  · rintro ⟨hv, hne, hone, ranked, hr, rfl⟩
    exact ⟨hv, hne, hone, ranked, hr, rfl⟩

end Derive

theorem mem_netWorths {properties : List PropertyState} {players : List TerminalPlayerState}
    {ranked : List RankedSeat} (h : netWorths properties players = some ranked) :
    List.Forall₂ (fun player entry => entry.seatIndex = player.seatIndex ∧
      calculatePlayerNetWorth player properties = some entry.netWorth) players ranked := by
  induction players generalizing ranked with
  | nil =>
    cases h
    exact .nil
  | cons player rest ih =>
    simp only [netWorths, List.mapM_cons, Option.bind_eq_bind, Option.bind_eq_some_iff,
      Option.map_eq_some_iff, Option.pure_def, Option.some.injEq] at h
    obtain ⟨entry, ⟨netWorth, hnet, rfl⟩, tail, htail, rfl⟩ := h
    exact .cons ⟨rfl, hnet⟩ (ih htail)

theorem exists_of_forall₂ {α β : Type} {R : α → β → Prop} {l : List α} {r : List β}
    (h : List.Forall₂ R l r) {b : β} (hb : b ∈ r) : ∃ a ∈ l, R a b := by
  induction h with
  | nil => cases hb
  | cons hab _ ih =>
    obtain rfl | hb := List.mem_cons.1 hb
    · exact ⟨_, List.mem_cons_self .., hab⟩
    · obtain ⟨a, ha, hr⟩ := ih hb
      exact ⟨a, List.mem_cons_of_mem _ ha, hr⟩

theorem sortRanked_perm (ranked : List RankedSeat) : (sortRanked ranked).Perm ranked :=
  List.perm_insertionSort RankedBefore ranked

/-- A derived outcome names the first of the sorted ranking, an active player. -/
theorem deriveRankedTerminalOutcome_winner {players : List (Option TerminalPlayerState)}
    {properties : List PropertyState} {reason : TerminalEndReason} {endedAtMs : ℤ}
    {terminal : TerminalOutcome}
    (h : deriveRankedTerminalOutcome players properties reason endedAtMs = .ok terminal) :
    ∃ ranked winner, netWorths properties (activePlayersOf players) = some ranked ∧
      (sortRanked ranked).head? = some winner ∧
      (∃ player ∈ activePlayersOf players, player.seatIndex = winner.seatIndex) ∧
      terminal = {
        reason := reason
        winnerSeatIndex := winner.seatIndex
        endedAtMs := endedAtMs
        ranking := withRanks (sortRanked ranked)
        settlementEntitlement := ⟨winner.seatIndex⟩ } := by
  obtain ⟨-, hne, -, ranked, hranked, rfl⟩ := deriveRankedTerminalOutcome_eq_ok.1 h
  have hpairs := mem_netWorths hranked
  have hrne : ranked ≠ [] := by
    rintro rfl
    exact hne (List.length_eq_zero_iff.1 hpairs.length_eq)
  obtain ⟨winner, hwinner⟩ : ∃ winner, (sortRanked ranked).head? = some winner := by
    cases hsort : sortRanked ranked with
    | nil =>
      have := hsort ▸ sortRanked_perm ranked
      exact absurd this.symm.eq_nil hrne
    | cons winner rest => exact ⟨winner, rfl⟩
  have hmem : winner ∈ ranked :=
    (sortRanked_perm ranked).subset (List.mem_of_mem_head? hwinner)
  obtain ⟨player, hplayer, hseat, -⟩ := exists_of_forall₂ hpairs hmem
  exact ⟨ranked, winner, hranked, hwinner, ⟨player, hplayer, hseat.symm⟩, by simp [hwinner]⟩

/-! ### Net worth stays in range -/

theorem netWorth_bounds {index : ℕ} {definition : BoardSpaceDefinition} {property : PropertyState}
    (hd : boardSpaces[index]? = some definition) (hhouses : property.houses ≤ 4) :
    (0 ≤ propertyNetWorth definition property ∧ propertyNetWorth definition property ≤ 200) ∧
    (0 ≤ buildingNetWorth definition property ∧ buildingNetWorth definition property ≤ 1000) := by
  obtain ⟨-, hcost, hmortgage⟩ := boardSpace_bounds hd
  have hmul : (definition.houseCost : ℤ) * property.houses ≤ 200 * 4 := by
    exact_mod_cast Nat.mul_le_mul hcost hhouses
  have hmul0 : 0 ≤ (definition.houseCost : ℤ) * property.houses := by positivity
  unfold propertyNetWorth buildingNetWorth
  refine ⟨?_, ?_⟩ <;> split_ifs <;> constructor <;> omega

theorem foldlM_addNetWorth_isSome {seat : ℕ} {properties : List PropertyState} {netWorth : ℤ}
    (hp : ∀ property ∈ properties, property.houses ≤ 4 ∧
      ∃ definition, boardSpaces[property.position]? = some definition)
    (hmax : netWorth + 1200 * properties.length ≤ maxMatchCash) :
    ∃ result, properties.foldlM (addNetWorth seat) netWorth = some result := by
  induction properties generalizing netWorth with
  | nil => exact ⟨netWorth, rfl⟩
  | cons property rest ih =>
    obtain ⟨hhouses, definition, hd⟩ := hp property (List.mem_cons_self ..)
    have hrest := fun p hmem => hp p (List.mem_cons_of_mem _ hmem)
    obtain ⟨⟨hp0, hp1⟩, hb0, hb1⟩ := netWorth_bounds hd hhouses
    rw [List.length_cons] at hmax
    push_cast at hmax
    rw [List.foldlM_cons]
    by_cases hown : property.ownerSeatIndex = some seat
    · obtain ⟨result, hok⟩ := @ih (netWorth + propertyNetWorth definition property
        + buildingNetWorth definition property) hrest (by omega)
      refine ⟨result, Option.bind_eq_some_iff.2 ⟨_, ?_, hok⟩⟩
      simp only [addNetWorth, hown, ne_eq, not_true, if_false, hd, Option.bind_eq_bind,
        Option.bind_some]
      rw [checkedAddMatchCash_eq_some.2 ⟨rfl, by omega⟩]
      exact checkedAddMatchCash_eq_some.2 ⟨rfl, by omega⟩
    · obtain ⟨result, hok⟩ := @ih netWorth hrest (by omega)
      refine ⟨result, Option.bind_eq_some_iff.2 ⟨netWorth, ?_, hok⟩⟩
      simp only [addNetWorth, hown, ne_eq, not_false_iff, if_true]
      rfl

/-- An active player whose cash leaves room has a net worth. -/
theorem calculatePlayerNetWorth_isSome {player : TerminalPlayerState}
    {properties : List PropertyState} (hp : ValidTerminalPlayer player)
    (hv : isValidPropertyStates properties = true) (hactive : player.status = .active)
    (hmax : player.cash + 48000 ≤ maxMatchCash) :
    ∃ netWorth, calculatePlayerNetWorth player properties = some netWorth := by
  unfold calculatePlayerNetWorth
  rw [if_neg (by simp [hp.1, hp.2.1.1, hp.2.1.2, hv, hactive])]
  refine foldlM_addNetWorth_isSome (houses_le_of_mem hv) ?_
  rw [length_properties hv]
  push_cast
  omega

theorem foldlM_addNetWorth_isMatchCash {seat : ℕ} {properties : List PropertyState}
    {netWorth result : ℤ} (h : properties.foldlM (addNetWorth seat) netWorth = some result)
    (hcash : IsMatchCash netWorth) : IsMatchCash result := by
  induction properties generalizing netWorth with
  | nil =>
    cases h
    exact hcash
  | cons property rest ih =>
    rw [List.foldlM_cons] at h
    obtain ⟨next, hnext, hrest⟩ := Option.bind_eq_some_iff.1 h
    refine ih hrest ?_
    simp only [addNetWorth, ite_eq_iff, Option.bind_eq_bind, Option.bind_eq_some_iff,
      Option.pure_def, Option.some.injEq] at hnext
    obtain ⟨-, rfl⟩ | ⟨-, definition, -, after, hafter, hsum⟩ := hnext
    · exact hcash
    · obtain ⟨rfl, -⟩ := checkedAddMatchCash_eq_some.1 hafter
      obtain ⟨rfl, hmax⟩ := checkedAddMatchCash_eq_some.1 hsum
      have hproperty : 0 ≤ propertyNetWorth definition property := by
        unfold propertyNetWorth
        split_ifs <;> omega
      have hbuilding : 0 ≤ buildingNetWorth definition property := by
        unfold buildingNetWorth
        split_ifs <;> positivity
      exact ⟨by omega, hmax⟩

/-- A net worth is an amount in range, of a seat in range. -/
theorem calculatePlayerNetWorth_eq_some {player : TerminalPlayerState}
    {properties : List PropertyState} {netWorth : ℤ}
    (h : calculatePlayerNetWorth player properties = some netWorth) :
    ValidTerminalPlayer player ∧ IsMatchCash netWorth := by
  unfold calculatePlayerNetWorth at h
  split_ifs at h with hinvalid
  have hvalid := not_not.1 (not_or.1 hinvalid).1
  exact ⟨hvalid, foldlM_addNetWorth_isMatchCash h hvalid.2.1⟩

theorem netWorths_isSome {properties : List PropertyState} {players : List TerminalPlayerState}
    (h : ∀ player ∈ players, ∃ netWorth,
      calculatePlayerNetWorth player properties = some netWorth) :
    ∃ ranked, netWorths properties players = some ranked := by
  refine exists_mapM_eq_some fun player hp => ?_
  obtain ⟨netWorth, hnet⟩ := h player hp
  exact ⟨_, by rw [hnet]; rfl⟩

end Pootown
