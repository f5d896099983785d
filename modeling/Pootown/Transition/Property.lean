import Mathlib.Tactic
import Pootown.Transition.Turn

/-!
# Property, building and tax transitions

Resolving a landing on a property or a tax space, and building between actions.

* `transitionGameplayProperty`, cut by command;
* `PropertyStep`: the accepted outcomes, and `transitionGameplayProperty_step`.
-/

namespace Pootown

open Fallible Slots

/-- The position a command names, for the check on its payload. -/
def GameplayPropertyCommand.position : GameplayPropertyCommand → Option ℕ
  | .buyProperty position => some position
  | .declineProperty position => some position
  | .payRent position => some position
  | .buildHouse position => some position
  | .buildHotel position => some position
  | .sellBuilding position _ => some position
  | .payMevTax => none
  | .payPriorityFeeTax => none

def validPropertyCommand (command : GameplayPropertyCommand) : Bool :=
  decide (∀ position ∈ command.position, position < GameplayPolicy.boardSize)

/-- The continuation once a landing is resolved: recomputed from the stored dice. -/
def phaseAfterResolvedAction (state : ActiveGameplayAggregateState) (nowMs : ℤ) :
    Option ActiveGameplayAggregateTurn :=
  match state.lastDice with
  | none => none
  | some lastDice =>
    createClockedGameplayTurn (settledPhase lastDice.isDoubles) state.turn.currentSeatIndex nowMs

def buildingPhase (state : ActiveGameplayAggregateState) (nowMs : ℤ) :
    Option ActiveGameplayAggregateTurn :=
  if state.turn.phase ≠ .awaitingRoll ∧ state.turn.phase ≠ .awaitingEndTurn then none
  else createClockedGameplayTurn state.turn.phase state.turn.currentSeatIndex nowMs

def buildingError (state : ActiveGameplayAggregateState) (code : BuildingRuleErrorCode) :
    GameplayRejection :=
  match code with
  | .insufficientCash => reject state .insufficientCash "player cannot afford the building"
  | .arithmeticOverflow =>
    reject state .arithmeticOverflow "building cash result exceeds limits"
  | code =>
    reject state .propertyNotAvailable ("building action is unavailable: " ++ code.text)

/-- The pending landing, the space and its price, for a purchase or a refusal. -/
def checkPropertyDecision (state : ActiveGameplayAggregateState) (position : ℕ) (nowMs : ℤ) :
    Except GameplayRejection (ActiveGameplayAggregateTurn × ℤ) := do
  require (state.turn.phase = .awaitingPropertyDecision position)
    (reject state .invalidPhase "property decision does not match the pending landing")
  let definition ← requireSome boardSpaces[position]?
    (reject state .propertyNotAvailable "property is not available")
  let property ← requireSome state.properties[position]?
    (reject state .propertyNotAvailable "property is not available")
  require (property.ownerSeatIndex = none ∧ isOwnableSpace definition = true)
    (reject state .propertyNotAvailable "property is not available")
  let turn ← requireSome (phaseAfterResolvedAction state nowMs)
    (reject state .invalidState "property decision has no originating dice roll")
  return (turn, definition.price)

def transitionDeclineProperty (state : ActiveGameplayAggregateState)
    (current : GameplayPlayerState) (position : ℕ) (nowMs : ℤ) : GameplayTransitionResult := do
  let (turn, price) ← checkPropertyDecision state position nowMs
  return ({ state with stateVersion := state.stateVersion + 1, turn := turn },
    [.propertyDeclined current.playerId position price])

def transitionBuyProperty (state : ActiveGameplayAggregateState)
    (current : GameplayPlayerState) (position : ℕ) (nowMs : ℤ) : GameplayTransitionResult := do
  let (turn, price) ← checkPropertyDecision state position nowMs
  let cash ← requireSome (checkedSubtractMatchCash current.cash price)
    (reject state .insufficientCash "player cannot afford the property")
  return ({ state with
    stateVersion := state.stateVersion + 1
    players := updateSlot current.seatIndex (fun player => { player with cash := cash })
      state.players
    properties := replaceProperty state.properties position fun property =>
      { property with ownerSeatIndex := some current.seatIndex }
    turn := turn }, [.propertyPurchased current.playerId position price])

/-- The state of a player who cannot pay what is due: nothing moves, bankruptcy is pending. -/
def requireBankruptcy (state : ActiveGameplayAggregateState) (current : GameplayPlayerState)
    (nowMs : ℤ) : GameplayTransitionResult := do
  let turn ← requireSome (createClockedGameplayTurn .awaitingBankruptcy current.seatIndex nowMs)
    (reject state .invalidState "bankruptcy deadline exceeds limits")
  return ({ state with
    stateVersion := state.stateVersion + 1
    turn := turn
    bankruptcyRequiredSeatIndex := some current.seatIndex }, [])

def transitionPayRent (state : ActiveGameplayAggregateState) (current : GameplayPlayerState)
    (position : ℕ) (nowMs : ℤ) : GameplayTransitionResult := do
  require (state.turn.phase = .awaitingRentPayment position)
    (reject state .invalidPhase "rent payment does not match the pending landing")
  let lastDice ← requireSome state.lastDice
    (reject state .invalidState "rent payment has no originating dice roll")
  let owner ← requireSome ((state.properties[position]?).bind fun property =>
      property.ownerSeatIndex.bind (slotAt state.players))
    (reject state .propertyNotAvailable "rent owner is unavailable")
  require (owner.status = .active)
    (reject state .propertyNotAvailable "rent owner is unavailable")
  let amount ← requireSome (calculateRent state.properties position lastDice.total)
    (reject state .invalidState "rent cannot be derived")
  let turn ← requireSome (phaseAfterResolvedAction state nowMs)
    (reject state .invalidState "rent payment has no valid continuation")
  match checkedSubtractMatchCash current.cash amount with
  | none => requireBankruptcy state current nowMs
  | some payerCash =>
    let ownerCash ← requireSome (checkedAddMatchCash owner.cash amount)
      (reject state .arithmeticOverflow "rent would overflow owner cash")
    return ({ state with
      stateVersion := state.stateVersion + 1
      players := mapSlots (fun index player =>
        if index = current.seatIndex then { player with cash := payerCash }
        else if index = owner.seatIndex then { player with cash := ownerCash }
        else player) state.players
      turn := turn }, [.rentPaid current.playerId owner.playerId position amount])

def TaxKind.position : TaxKind → ℕ
  | .mev => GameplayPolicy.mevTaxPosition
  | .priorityFee => GameplayPolicy.priorityFeeTaxPosition

def TaxKind.amount : TaxKind → ℤ
  | .mev => GameplayPolicy.mevTaxAmount
  | .priorityFee => GameplayPolicy.priorityFeeTaxAmount

/-- Tax: only the MEV tax can bankrupt, an unaffordable priority fee is refused. -/
def transitionPayTax (state : ActiveGameplayAggregateState) (current : GameplayPlayerState)
    (taxKind : TaxKind) (nowMs : ℤ) : GameplayTransitionResult := do
  require (state.turn.phase = .awaitingTaxPayment taxKind)
    (reject state .invalidPhase "tax command does not match the pending landing")
  require (current.position = taxKind.position)
    (reject state .invalidState "tax position is inconsistent")
  match checkedSubtractMatchCash current.cash taxKind.amount with
  | none =>
    require (taxKind ≠ .priorityFee)
      (reject state .insufficientCash "player cannot afford the priority fee tax")
    requireBankruptcy state current nowMs
  | some cash =>
    let turn ← requireSome (phaseAfterResolvedAction state nowMs)
      (reject state .invalidState "tax payment has no valid continuation")
    return ({ state with
      stateVersion := state.stateVersion + 1
      players := updateSlot current.seatIndex (fun player => { player with cash := cash })
        state.players
      turn := turn }, [.taxPaid current.playerId taxKind.position taxKind taxKind.amount])

/-- The four building actions, and the event each reports from the rebuilt space. -/
inductive BuildingAction
  | build (buildingType : BuildingType)
  | sell (buildingType : BuildingType)

def BuildingAction.apply (action : BuildingAction) (properties : List PropertyState)
    (inventory : BuildingInventory) (position ownerSeatIndex : ℕ) (cash : ℤ) :
    BuildingMutationResult :=
  match action with
  | .build .house => buildHouse properties inventory position ownerSeatIndex cash
  | .build .hotel => buildHotel properties inventory position ownerSeatIndex cash
  | .sell .house => sellHouse properties inventory position ownerSeatIndex cash
  | .sell .hotel => sellHotel properties inventory position ownerSeatIndex cash

/-- What an action whose price is `amount` does to the cash of its player. -/
def BuildingAction.cashDelta (action : BuildingAction) (amount : ℤ) : ℤ :=
  match action with
  | .build _ => -amount
  | .sell _ => amount

theorem BuildingAction.apply_eq_ok {action : BuildingAction} {properties : List PropertyState}
    {inventory : BuildingInventory} {position ownerSeatIndex : ℕ} {cash : ℤ}
    {result : BuildingMutation}
    (h : action.apply properties inventory position ownerSeatIndex cash = .ok result) :
    BuildingChange properties inventory result ∧
      result.cash = cash + action.cashDelta result.amount ∧
      (IsMatchCash cash → IsMatchCash result.cash) := by
  have hbuild : BuildingChange properties inventory result ∧ result.cash = cash - result.amount ∧
      result.amount ≤ cash → BuildingChange properties inventory result ∧
      result.cash = cash + -result.amount ∧ (IsMatchCash cash → IsMatchCash result.cash) := by
    rintro ⟨hchange, hcash, hle⟩
    have h0 := hchange.amount_nonneg
    exact ⟨hchange, by omega, fun hmatch => ⟨by omega, by have := hmatch.2; omega⟩⟩
  have hsell : BuildingChange properties inventory result ∧ result.cash = cash + result.amount ∧
      cash + result.amount ≤ maxMatchCash → BuildingChange properties inventory result ∧
      result.cash = cash + result.amount ∧ (IsMatchCash cash → IsMatchCash result.cash) := by
    rintro ⟨hchange, hcash, hle⟩
    have h0 := hchange.amount_nonneg
    exact ⟨hchange, hcash, fun hmatch => ⟨by have := hmatch.1; omega, by omega⟩⟩
  cases action with
  | build buildingType =>
    cases buildingType with
    | house => exact hbuild (buildHouse_eq_ok h)
    | hotel => exact hbuild (buildHotel_eq_ok h)
  | sell buildingType =>
    cases buildingType with
    | house => exact hsell (sellHouse_eq_ok h)
    | hotel => exact hsell (sellHotel_eq_ok h)

def BuildingAction.event (action : BuildingAction) (playerId : String) (position : ℕ)
    (property : PropertyState) (amount : ℤ) : GameplayDomainEvent :=
  match action with
  | .build buildingType => .buildingBuilt playerId position buildingType property.houses amount
  | .sell buildingType => .buildingSold playerId position buildingType amount

def transitionBuilding (state : ActiveGameplayAggregateState) (current : GameplayPlayerState)
    (action : BuildingAction) (position : ℕ) (nowMs : ℤ) : GameplayTransitionResult := do
  let turn ← requireSome (buildingPhase state nowMs)
    (reject state .invalidPhase "building action is unavailable while another action is pending")
  match action.apply state.properties state.inventory position current.seatIndex current.cash with
  | .error code => .error (buildingError state code)
  | .ok result =>
    let property ← requireSome result.properties[position]?
      (reject state .invalidState "building result lost its property")
    return ({ state with
      stateVersion := state.stateVersion + 1
      players := updateSlot current.seatIndex (fun player => { player with cash := result.cash })
        state.players
      properties := result.properties
      housesRemaining := result.inventory.housesRemaining
      hotelsRemaining := result.inventory.hotelsRemaining
      turn := turn }, [action.event current.playerId position property result.amount])

def transitionGameplayProperty (state : ActiveGameplayAggregateState)
    (command : GameplayPropertyCommand) (expectedStateVersion : ℤ)
    (context : GameplayCommandContext) : GameplayTransitionResult := do
  checkCommand state (validPropertyCommand command) expectedStateVersion context.nowMs
  let current ← requireSome (activeGameplayPlayer state)
    (reject state .invalidState "turn does not reference an active player")
  require (context.actor = .player current.playerId)
    (reject state .unauthorizedActor "only the current player can execute this property command")
  require (state.bankruptcyRequiredSeatIndex = none)
    (reject state .invalidPhase "bankruptcy must be resolved before another action")
  match command with
  | .declineProperty position => transitionDeclineProperty state current position context.nowMs
  | .buyProperty position => transitionBuyProperty state current position context.nowMs
  | .payRent position => transitionPayRent state current position context.nowMs
  | .payMevTax => transitionPayTax state current .mev context.nowMs
  | .payPriorityFeeTax => transitionPayTax state current .priorityFee context.nowMs
  | .buildHouse position => transitionBuilding state current (.build .house) position context.nowMs
  | .buildHotel position => transitionBuilding state current (.build .hotel) position context.nowMs
  | .sellBuilding position buildingType =>
    transitionBuilding state current (.sell buildingType) position context.nowMs

/-! ### Accepted outcomes -/

section Steps

variable (state : ActiveGameplayAggregateState) (current : GameplayPlayerState) (nowMs : ℤ)

/-- The state once an action is settled: new players, and the turn the stored dice call for. -/
def afterSettled (lastDice : DiceRoll) (players : List (Option GameplayPlayerState)) :
    ActiveGameplayAggregateState :=
  { state with
    stateVersion := state.stateVersion + 1
    players := players
    turn := ⟨freshClock state.turn.currentSeatIndex nowMs, settledPhase lastDice.isDoubles⟩ }

/-- The accepted outcomes of a property command of `current`. -/
inductive PropertyStep : ActiveGameplayAggregateState → List GameplayDomainEvent → Prop
  | decline (position : ℕ) (price : ℤ) (lastDice : DiceRoll) :
      state.turn.phase = .awaitingPropertyDecision position → state.lastDice = some lastDice →
      ClockableTime nowMs →
      PropertyStep (afterSettled state nowMs lastDice state.players)
        [.propertyDeclined current.playerId position price]
  | buy (position : ℕ) (property : PropertyState) (definition : BoardSpaceDefinition)
      (lastDice : DiceRoll) : state.turn.phase = .awaitingPropertyDecision position →
      state.lastDice = some lastDice → ClockableTime nowMs →
      state.properties[position]? = some property → boardSpaces[position]? = some definition →
      property.ownerSeatIndex = none → isOwnableSpace definition = true →
      (definition.price : ℤ) ≤ current.cash →
      PropertyStep
        { afterSettled state nowMs lastDice (updateSlot state.turn.currentSeatIndex
            (fun player => { player with cash := current.cash - definition.price })
            state.players) with
          properties := replaceProperty state.properties position fun property =>
            { property with ownerSeatIndex := some state.turn.currentSeatIndex } }
        [.propertyPurchased current.playerId position definition.price]
  | bankruptcy : ((∃ position, state.turn.phase = .awaitingRentPayment position) ∨
        state.turn.phase = .awaitingTaxPayment .mev) → ClockableTime nowMs →
      PropertyStep
        { state with
          stateVersion := state.stateVersion + 1
          turn := ⟨freshClock state.turn.currentSeatIndex nowMs, .awaitingBankruptcy⟩
          bankruptcyRequiredSeatIndex := some state.turn.currentSeatIndex } []
  | rent (position : ℕ) (ownerSeat : ℕ) (owner : GameplayPlayerState) (amount : ℤ)
      (lastDice : DiceRoll) : state.turn.phase = .awaitingRentPayment position →
      state.lastDice = some lastDice → ClockableTime nowMs →
      slotAt state.players ownerSeat = some owner → owner.status = .active →
      ownerSeat ≠ state.turn.currentSeatIndex →
      calculateRent state.properties position lastDice.total = some amount →
      amount ≤ current.cash → owner.cash + amount ≤ maxMatchCash →
      PropertyStep
        (afterSettled state nowMs lastDice (mapSlots (fun index player =>
          if index = state.turn.currentSeatIndex then
            { player with cash := current.cash - amount }
          else if index = ownerSeat then { player with cash := owner.cash + amount }
          else player) state.players))
        [.rentPaid current.playerId owner.playerId position amount]
  | tax (taxKind : TaxKind) (lastDice : DiceRoll) :
      state.turn.phase = .awaitingTaxPayment taxKind → state.lastDice = some lastDice →
      ClockableTime nowMs → taxKind.amount ≤ current.cash →
      PropertyStep
        (afterSettled state nowMs lastDice (updateSlot state.turn.currentSeatIndex
          (fun player => { player with cash := current.cash - taxKind.amount }) state.players))
        [.taxPaid current.playerId taxKind.position taxKind taxKind.amount]
  | building (action : BuildingAction) (position : ℕ) (property : PropertyState)
      (result : BuildingMutation) :
      (state.turn.phase = .awaitingRoll ∨ state.turn.phase = .awaitingEndTurn) →
      ClockableTime nowMs →
      action.apply state.properties state.inventory position state.turn.currentSeatIndex
        current.cash = .ok result →
      PropertyStep
        { state with
          stateVersion := state.stateVersion + 1
          players := updateSlot state.turn.currentSeatIndex
            (fun player => { player with cash := result.cash }) state.players
          properties := result.properties
          housesRemaining := result.inventory.housesRemaining
          hotelsRemaining := result.inventory.hotelsRemaining
          turn := ⟨freshClock state.turn.currentSeatIndex nowMs, state.turn.phase⟩ }
        [action.event current.playerId position property result.amount]

end Steps

/-! ### Inversion -/

section Inversion

variable {state state' : ActiveGameplayAggregateState} {current : GameplayPlayerState}
  {nowMs : ℤ} {events : List GameplayDomainEvent}

theorem phaseAfterResolvedAction_eq_some {turn : ActiveGameplayAggregateTurn} :
    phaseAfterResolvedAction state nowMs = some turn ↔ ∃ lastDice,
      state.lastDice = some lastDice ∧ ClockableTime nowMs ∧
      turn = ⟨freshClock state.turn.currentSeatIndex nowMs, settledPhase lastDice.isDoubles⟩ := by
  unfold phaseAfterResolvedAction
  cases hd : state.lastDice with
  | none => simp
  | some lastDice =>
    have hphase : settledPhase lastDice.isDoubles = .awaitingRoll ∨
        settledPhase lastDice.isDoubles = .awaitingBankruptcy ∨
        settledPhase lastDice.isDoubles = .awaitingEndTurn := by
      unfold settledPhase; split_ifs <;> simp
    simp only [createClockedGameplayTurn_eq_some, hphase, true_and, Option.some.injEq,
      exists_eq_left']

theorem buildingPhase_eq_some {turn : ActiveGameplayAggregateTurn}
    (h : buildingPhase state nowMs = some turn) :
    (state.turn.phase = .awaitingRoll ∨ state.turn.phase = .awaitingEndTurn) ∧
      ClockableTime nowMs ∧
      turn = ⟨freshClock state.turn.currentSeatIndex nowMs, state.turn.phase⟩ := by
  unfold buildingPhase at h
  split_ifs at h with hphase
  obtain ⟨htime, -, rfl⟩ := createClockedGameplayTurn_eq_some.1 h
  exact ⟨by tauto, htime, rfl⟩

theorem requireBankruptcy_eq_ok (hc : IsCurrent state current) (hv : ValidActive state)
    (h : requireBankruptcy state current nowMs = .ok (state', events)) :
    ClockableTime nowMs ∧ events = [] ∧ state' = { state with
      stateVersion := state.stateVersion + 1
      turn := ⟨freshClock state.turn.currentSeatIndex nowMs, .awaitingBankruptcy⟩
      bankruptcyRequiredSeatIndex := some state.turn.currentSeatIndex } := by
  simp only [requireBankruptcy, hc.seatIndex_eq hv, bind_eq_ok, requireSome_eq_ok, pure_eq_ok,
    createClockedGameplayTurn_eq_some, Prod.mk.injEq] at h
  obtain ⟨_, ⟨htime, -, rfl⟩, rfl, rfl⟩ := h
  exact ⟨htime, rfl, rfl⟩

theorem checkPropertyDecision_eq_ok {position : ℕ} {turn : ActiveGameplayAggregateTurn}
    {price : ℤ} (h : checkPropertyDecision state position nowMs = .ok (turn, price)) :
    ∃ property definition lastDice, state.turn.phase = .awaitingPropertyDecision position ∧
      state.lastDice = some lastDice ∧ ClockableTime nowMs ∧
      state.properties[position]? = some property ∧ boardSpaces[position]? = some definition ∧
      property.ownerSeatIndex = none ∧ isOwnableSpace definition = true ∧
      price = definition.price ∧
      turn = ⟨freshClock state.turn.currentSeatIndex nowMs, settledPhase lastDice.isDoubles⟩ := by
  simp only [checkPropertyDecision, bind_eq_ok, require_eq_ok, requireSome_eq_ok, pure_eq_ok,
    exists_const, phaseAfterResolvedAction_eq_some, Prod.mk.injEq] at h
  obtain ⟨hphase, definition, hd, property, hp, ⟨howner, hown⟩, turn, ⟨lastDice, hdice, htime, rfl⟩,
    rfl, rfl⟩ := h
  exact ⟨property, definition, lastDice, hphase, hdice, htime, hp, hd, howner, hown, rfl, rfl⟩

theorem transitionPayRent_step {position : ℕ} (hc : IsCurrent state current)
    (hv : ValidActive state)
    (h : transitionPayRent state current position nowMs = .ok (state', events)) :
    PropertyStep state current nowMs state' events := by
  simp only [transitionPayRent, bind_eq_ok, require_eq_ok, requireSome_eq_ok, exists_const,
    phaseAfterResolvedAction_eq_some, Option.bind_eq_some_iff] at h
  obtain ⟨hphase, lastDice, hdice, owner, ⟨property, hp, ownerSeat, howner, hslot⟩, hactive, amount,
    hamount, turn, ⟨lastDice', hdice', htime, rfl⟩, h⟩ := h
  rw [hdice] at hdice'
  cases hdice'
  have hother : ownerSeat ≠ state.turn.currentSeatIndex := by
    have hcoupled := hc.phase hv
    rw [hphase] at hcoupled
    obtain ⟨-, property', hp', -, -, -, -, hne, -⟩ := hcoupled
    rw [Option.mem_def, hp] at hp'
    cases hp'
    rintro rfl
    exact hne (by rw [howner, hc.seatIndex_eq hv])
  split at h
  · obtain ⟨-, rfl, rfl⟩ := requireBankruptcy_eq_ok hc hv h
    exact .bankruptcy (.inl ⟨position, hphase⟩) htime
  next payerCash hpay =>
    obtain ⟨rfl, hle⟩ := checkedSubtractMatchCash_eq_some.1 hpay
    simp only [bind_eq_ok, requireSome_eq_ok, pure_eq_ok, checkedAddMatchCash_eq_some,
      Prod.mk.injEq, hc.seatIndex_eq hv, hv.table.seatIndex_eq hslot] at h
    obtain ⟨_, ⟨rfl, hmax⟩, rfl, rfl⟩ := h
    exact .rent position ownerSeat owner amount lastDice hphase hdice htime hslot hactive hother
      hamount hle hmax

theorem transitionPayTax_step {taxKind : TaxKind} (hc : IsCurrent state current)
    (hv : ValidActive state)
    (h : transitionPayTax state current taxKind nowMs = .ok (state', events)) :
    PropertyStep state current nowMs state' events := by
  simp only [transitionPayTax, bind_eq_ok, require_eq_ok, exists_const] at h
  obtain ⟨hphase, -, h⟩ := h
  split at h
  · simp only [bind_eq_ok, require_eq_ok, exists_const] at h
    obtain ⟨hkind, h⟩ := h
    obtain ⟨htime, rfl, rfl⟩ := requireBankruptcy_eq_ok hc hv h
    cases taxKind with
    | mev => exact .bankruptcy (.inr hphase) htime
    | priorityFee => exact absurd rfl hkind
  next cash hpay =>
    obtain ⟨rfl, hle⟩ := checkedSubtractMatchCash_eq_some.1 hpay
    simp only [bind_eq_ok, requireSome_eq_ok, pure_eq_ok, phaseAfterResolvedAction_eq_some,
      Prod.mk.injEq, hc.seatIndex_eq hv] at h
    obtain ⟨_, ⟨lastDice, hdice, htime, rfl⟩, rfl, rfl⟩ := h
    exact .tax taxKind lastDice hphase hdice htime hle

theorem transitionBuilding_step {action : BuildingAction} {position : ℕ}
    (hc : IsCurrent state current) (hv : ValidActive state)
    (h : transitionBuilding state current action position nowMs = .ok (state', events)) :
    PropertyStep state current nowMs state' events := by
  simp only [transitionBuilding, bind_eq_ok, requireSome_eq_ok, hc.seatIndex_eq hv] at h
  obtain ⟨turn, hturn, h⟩ := h
  obtain ⟨hphase, htime, rfl⟩ := buildingPhase_eq_some hturn
  split at h
  · cases h
  next result hresult =>
    simp only [bind_eq_ok, requireSome_eq_ok, pure_eq_ok, Prod.mk.injEq] at h
    obtain ⟨property, -, rfl, rfl⟩ := h
    exact .building action position property result hphase htime hresult

/-- An accepted property command was admitted, came from the current player with no bankruptcy
pending, and did one of the listed things. -/
theorem transitionGameplayProperty_step {command : GameplayPropertyCommand} {expected : ℤ}
    {context : GameplayCommandContext}
    (h : transitionGameplayProperty state command expected context = .ok (state', events)) :
    Admitted state expected context.nowMs ∧ state.bankruptcyRequiredSeatIndex = none ∧
      ∃ current, IsCurrent state current ∧
        PropertyStep state current context.nowMs state' events := by
  simp only [transitionGameplayProperty, bind_eq_ok, require_eq_ok, requireSome_eq_ok,
    exists_const, checkCommand_eq_ok, activeGameplayPlayer_eq_some] at h
  obtain ⟨⟨-, hadm⟩, current, hc, -, hnone, h⟩ := h
  refine ⟨hadm, hnone, current, hc, ?_⟩
  have hv := hadm.valid
  cases command with
  | declineProperty position =>
    simp only [transitionDeclineProperty, bind_eq_ok, pure_eq_ok, Prod.exists, Prod.mk.injEq] at h
    obtain ⟨turn, price, hcheck, rfl, rfl⟩ := h
    obtain ⟨property, definition, lastDice, hphase, hdice, htime, -, -, -, -, -, rfl⟩ :=
      checkPropertyDecision_eq_ok hcheck
    exact .decline position price lastDice hphase hdice htime
  | buyProperty position =>
    simp only [transitionBuyProperty, bind_eq_ok, requireSome_eq_ok, pure_eq_ok, Prod.exists,
      Prod.mk.injEq, checkedSubtractMatchCash_eq_some, hc.seatIndex_eq hv] at h
    obtain ⟨turn, price, hcheck, _, ⟨rfl, hle⟩, rfl, rfl⟩ := h
    obtain ⟨property, definition, lastDice, hphase, hdice, htime, hp, hd, howner, hown, rfl, rfl⟩ :=
      checkPropertyDecision_eq_ok hcheck
    exact .buy position property definition lastDice hphase hdice htime hp hd howner hown hle
  | payRent position => exact transitionPayRent_step hc hv h
  | payMevTax => exact transitionPayTax_step hc hv h
  | payPriorityFeeTax => exact transitionPayTax_step hc hv h
  | buildHouse position => exact transitionBuilding_step hc hv h
  | buildHotel position => exact transitionBuilding_step hc hv h
  | sellBuilding position buildingType => exact transitionBuilding_step hc hv h

end Inversion

end Pootown
