import Mathlib.Tactic
import Pootown.Transition.Gameplay

/-!
# Fresh turns are valid

Every transition that keeps the game going hands out a turn that starts now.  What the validator
asks of it is proved here once:

* `Admitted.header`: the shared fields after one more version;
* `freshTurn_coupled`: a fresh turn of an active seat in a phase that fits its position;
* `PassesTurn.coupled`: the next active seat's turn;
* `landing_coupled`: the turn after a landing.
-/

namespace Pootown

open Slots

/-! ### The header -/

/-- The shared fields survive one version when only the checkpoint may have moved. -/
theorem Admitted.header {state : ActiveGameplayAggregateState} {expected nowMs : ℤ}
    {next : GameplayAggregateStateBase} (h : Admitted state expected nowMs)
    (hid : next.gameId = state.gameId) (hversion : next.stateVersion = state.stateVersion + 1)
    (hpool : next.freeParkingPool = state.freeParkingPool)
    (hstart : next.startedAtMs = state.startedAtMs) (hend : next.gameEndAtMs = state.gameEndAtMs)
    (hrng : ValidRandomCheckpoint next.rng) : ValidHeader next where
  gameId := by rw [hid]; exact h.valid.header.gameId
  version := by
    have h₁ := h.valid.header.version.1
    have h₂ := h.version_lt
    omega
  freeParking := by rw [hpool]; exact h.valid.header.freeParking
  startedAt := by rw [hstart]; exact h.valid.header.startedAt
  gameEndAt := by rw [hend, hstart]; exact h.valid.header.gameEndAt
  rng := hrng

theorem Admitted.started {state : ActiveGameplayAggregateState} {expected nowMs : ℤ}
    (h : Admitted state expected nowMs) : state.startedAtMs ≤ nowMs :=
  h.valid.turn.started_le.trans h.started_le

/-! ### Phases and positions -/

/-- A pending landing names a position of the board. -/
theorem PhaseCoupled.position_lt {properties : List PropertyState} {player : GameplayPlayerState}
    {phase : TurnPhase} (h : PhaseCoupled properties player phase) :
    ∀ position ∈ phase.propertyPosition, position < 40 := by
  intro position hp
  cases phase with
  | awaitingPropertyDecision p =>
    cases hp
    obtain ⟨-, -, -, definition, hd, -⟩ := h
    exact lt_of_boardSpace hd
  | awaitingRentPayment p =>
    cases hp
    obtain ⟨-, -, -, definition, hd, -⟩ := h
    exact lt_of_boardSpace hd
  | _ => cases hp

/-- Only the two tax spaces are tax spaces. -/
theorem tax_position {position : ℕ} {definition : BoardSpaceDefinition}
    (hd : boardSpaces[position]? = some definition) (htax : definition.propertyType = .tax) :
    position = GameplayPolicy.mevTaxPosition ∨ position = GameplayPolicy.priorityFeeTaxPosition := by
  have hall : ∀ i < 40, ((boardSpaces[i]?).any fun d => d.propertyType == .tax) = true →
      i = 4 ∨ i = 38 := by decide
  exact hall position (lt_of_boardSpace hd) (by simp [hd, htax])

/-- Phases that await nothing on the board. -/
theorem settledPhase_coupled (properties : List PropertyState) (player : GameplayPlayerState)
    (rolledDoubles : Bool) : PhaseCoupled properties player (settledPhase rolledDoubles) := by
  unfold settledPhase
  split_ifs <;> trivial

/-- The phase a landing leads to fits the player who landed. -/
theorem landingPhase_coupled {properties : List PropertyState} {player : GameplayPlayerState}
    {definition : BoardSpaceDefinition} {rolledDoubles : Bool} {phase : TurnPhase}
    (hv : isValidPropertyStates properties = true)
    (hd : boardSpaces[player.position]? = some definition)
    (h : landingPhase properties definition player.position player.seatIndex
      (settledPhase rolledDoubles) = some phase) :
    PhaseCoupled properties player phase ∧ phase ≠ .awaitingBankruptcy := by
  have hsettled := settledPhase_coupled properties player rolledDoubles
  have hne : settledPhase rolledDoubles ≠ .awaitingBankruptcy := by
    unfold settledPhase; split_ifs <;> simp
  obtain ⟨property, hp⟩ := exists_property hv (lt_of_boardSpace hd)
  have hownable : isOwnableSpace definition = true →
      ((properties[player.position]?).map fun property =>
        if property.ownerSeatIndex = none then .awaitingPropertyDecision player.position
        else if property.ownerSeatIndex ≠ some player.seatIndex ∧ property.mortgaged = false then
          .awaitingRentPayment player.position
        else settledPhase rolledDoubles) = some phase →
      PhaseCoupled properties player phase ∧ phase ≠ .awaitingBankruptcy := by
    intro hown hmap
    rw [hp, Option.map_some, Option.some.injEq] at hmap
    subst hmap
    split_ifs with hnone hrent
    · exact ⟨⟨rfl, property, hp, definition, hd, hown, hnone⟩, by simp⟩
    · exact ⟨⟨rfl, property, hp, definition, hd, hown, hnone, hrent.1, hrent.2⟩, by simp⟩
    · exact ⟨hsettled, hne⟩
  have hposition := position_of_getElem? hv hp
  unfold landingPhase at h
  cases htype : definition.propertyType with
  | street => exact hownable (by simp [isOwnableSpace, htype]) (by simpa only [htype] using h)
  | railroad => exact hownable (by simp [isOwnableSpace, htype]) (by simpa only [htype] using h)
  | utility => exact hownable (by simp [isOwnableSpace, htype]) (by simpa only [htype] using h)
  | chance =>
    simp only [htype, Option.some.injEq] at h
    subst h
    exact ⟨⟨by rw [hp, Option.map_some, hposition], by rw [hd, Option.map_some, htype]⟩, by simp⟩
  | communityChest =>
    simp only [htype, Option.some.injEq] at h
    subst h
    exact ⟨⟨by rw [hp, Option.map_some, hposition], by rw [hd, Option.map_some, htype]⟩, by simp⟩
  | tax =>
    simp only [htype, Option.some.injEq] at h
    subst h
    refine ⟨?_, by simp⟩
    obtain hpos | hpos := tax_position hd htype <;> simp [PhaseCoupled, hpos]
  | corner =>
    simp only [htype, Option.some.injEq] at h
    subst h
    exact ⟨hsettled, hne⟩

/-! ### Fresh turns -/

/-- A turn that starts now, in a phase that fits the active player of its seat. -/
theorem freshTurn_coupled {players : List (Option GameplayPlayerState)}
    {properties : List PropertyState} {seat : ℕ} {nowMs startedAtMs : ℤ} {phase : TurnPhase}
    {required : Option ℕ} {lastDice : Option DiceRoll} {player : GameplayPlayerState}
    (htime : ClockableTime nowMs) (hstart : startedAtMs ≤ nowMs) (hseat : seat < 4)
    (hslot : slotAt players seat = some player) (hactive : player.status = .active)
    (hphase : PhaseCoupled properties player phase)
    (hdice : ∀ roll, lastDice = some roll → ValidDice roll)
    (hneed : phase ≠ .awaitingRoll → phase ≠ .awaitingBankruptcy → lastDice ≠ none)
    (hbankruptcy : (required = none ∧ phase ≠ .awaitingBankruptcy) ∨
      (required = some seat ∧ phase = .awaitingBankruptcy)) :
    TurnCoupled players properties ⟨freshClock seat nowMs, phase⟩ required lastDice startedAtMs
    where
  turn_valid := ⟨⟨hseat, htime.1, htime.2.1, htime.2.2, rfl⟩, by simp [freshClock],
    by simp [freshClock], hphase.position_lt⟩
  started_le := hstart
  dice_valid := hdice
  dice_of_phase := hneed
  current := ⟨player, hslot, hactive, hphase⟩
  bankruptcy := hbankruptcy

/-- Every active seat stays active. -/
def KeepsActive (players players' : List (Option GameplayPlayerState)) : Prop :=
  ∀ i p, slotAt players i = some p → p.status = .active →
    ∃ p', slotAt players' i = some p' ∧ p'.status = .active

theorem KeepsActive.refl (players : List (Option GameplayPlayerState)) :
    KeepsActive players players :=
  fun _ p hp hactive => ⟨p, hp, hactive⟩

theorem KeepsActive.updateSlot {f : GameplayPlayerState → GameplayPlayerState} (seat : ℕ)
    (players : List (Option GameplayPlayerState)) (hf : ∀ p, (f p).status = p.status) :
    KeepsActive players (updateSlot seat f players) := by
  intro i p hp hactive
  refine ⟨if i = seat then f p else p, ?_, ?_⟩
  · rw [slotAt_updateSlot, hp]
    split_ifs <;> rfl
  · split_ifs
    · rw [hf, hactive]
    · exact hactive

/-- The next active seat's turn is valid on any table that keeps the active seats active. -/
theorem PassesTurn.coupled {state : ActiveGameplayAggregateState} {nowMs startedAtMs : ℤ}
    {turn : ActiveGameplayAggregateTurn} {players' : List (Option GameplayPlayerState)}
    {properties' : List PropertyState} {lastDice : Option DiceRoll}
    (h : PassesTurn state nowMs turn) (hstart : startedAtMs ≤ nowMs)
    (hkeeps : KeepsActive state.players players')
    (hdice : ∀ roll, lastDice = some roll → ValidDice roll) :
    TurnCoupled players' properties' turn none lastDice startedAtMs := by
  obtain ⟨next, hnext, -, htime, rfl⟩ := h
  obtain ⟨hlt, player, hslot, hactive⟩ := nextActiveSeat_spec hnext
  obtain ⟨player', hslot', hactive'⟩ := hkeeps next player hslot hactive
  exact freshTurn_coupled htime hstart hlt hslot' hactive' trivial hdice (fun h => absurd rfl h)
    (.inl ⟨rfl, by simp⟩)

/-- The turn after a landing is valid once the player stands there. -/
theorem landing_coupled {state : ActiveGameplayAggregateState} {position seat : ℕ}
    {nowMs startedAtMs : ℤ} {rolledDoubles : Bool} {turn : ActiveGameplayAggregateTurn}
    {players' : List (Option GameplayPlayerState)} {player : GameplayPlayerState}
    {lastDice : Option DiceRoll}
    (h : createGameplayLandingTurn state position seat nowMs rolledDoubles = some turn)
    (hv : isValidPropertyStates state.properties = true) (hstart : startedAtMs ≤ nowMs)
    (hseat : seat < 4) (hslot : slotAt players' seat = some player)
    (hactive : player.status = .active) (hposition : player.position = position)
    (hindex : player.seatIndex = seat) (hdice : ∀ roll, lastDice = some roll → ValidDice roll)
    (hsome : lastDice ≠ none) :
    TurnCoupled players' state.properties turn none lastDice startedAtMs := by
  obtain ⟨definition, phase, hd, htime, hphase, rfl⟩ := createGameplayLandingTurn_eq_some h
  subst hposition hindex
  obtain ⟨hcoupled, hne⟩ := landingPhase_coupled hv hd hphase
  exact freshTurn_coupled htime hstart hseat hslot hactive hcoupled hdice (fun _ _ => hsome)
    (.inl ⟨rfl, hne⟩)

end Pootown
