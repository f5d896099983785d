import Mathlib.Tactic
import Pootown.Model.Commands

/-!
# Turn transitions

Rolling the dice and ending the turn.

* `createClockedGameplayTurn`, `createGameplayLandingTurn`, `advanceGameplayTurn`: the fresh turns a
  transition can produce;
* `transitionGameplayTurn`, cut into the end of the turn, the roll of a jailed player and the roll
  of a free one;
* `TurnStep`: the accepted outcomes, one constructor per branch, and `transitionGameplayTurn_step`.
-/

namespace Pootown

open Fallible Slots

/-! ### Fresh turns -/

def createClockedGameplayTurn (phase : TurnPhase) (seatIndex : ℕ) (nowMs : ℤ) :
    Option ActiveGameplayAggregateTurn :=
  let deadlineAtMs := nowMs + GameplayPolicy.turnTimeoutMs
  if ¬ (IsSafeInteger nowMs ∧ 0 ≤ nowMs) ∨ ¬ IsSafeInteger deadlineAtMs then none
  else if phase = .awaitingRoll ∨ phase = .awaitingBankruptcy ∨ phase = .awaitingEndTurn then
    some {
      currentSeatIndex := seatIndex
      startedAtMs := nowMs
      deadlineAtMs := deadlineAtMs
      emittedWarnings := []
      phase := phase }
  else none

/-- The phase a landing leads to, given the phase that follows when nothing is pending. -/
def landingPhase (properties : List PropertyState) (definition : BoardSpaceDefinition)
    (position currentSeatIndex : ℕ) (settled : TurnPhase) : Option TurnPhase :=
  match definition.propertyType with
  | .street | .railroad | .utility =>
    (properties[position]?).map fun property =>
      if property.ownerSeatIndex = none then .awaitingPropertyDecision position
      else if property.ownerSeatIndex ≠ some currentSeatIndex ∧ property.mortgaged = false then
        .awaitingRentPayment position
      else settled
  | .chance => some (.awaitingCardDraw .chance)
  | .communityChest => some (.awaitingCardDraw .communityChest)
  | .tax => some (.awaitingTaxPayment
      (if position = GameplayPolicy.mevTaxPosition then .mev else .priorityFee))
  | .corner => some settled

/-- The phase when nothing is pending: doubles earn another roll. -/
def settledPhase (rolledDoubles : Bool) : TurnPhase :=
  if rolledDoubles then .awaitingRoll else .awaitingEndTurn

def createGameplayLandingTurn (state : ActiveGameplayAggregateState)
    (position currentSeatIndex : ℕ) (nowMs : ℤ) (rolledDoubles : Bool) :
    Option ActiveGameplayAggregateTurn := do
  let definition ← boardSpaces[position]?
  let clock ← createClockedGameplayTurn (settledPhase rolledDoubles) currentSeatIndex nowMs
  let phase ← landingPhase state.properties definition position currentSeatIndex clock.phase
  return { clock with phase := phase }

/-- The turn of the next active seat, when that is another seat. -/
def advanceGameplayTurn (state : ActiveGameplayAggregateState) (nowMs : ℤ) :
    Option (ActiveGameplayAggregateTurn × ℕ) := do
  let nextSeatIndex ← nextActiveSeat (fun player => player.status) state.players
    state.turn.currentSeatIndex
  if nextSeatIndex = state.turn.currentSeatIndex then none
  else
    let turn ← createClockedGameplayTurn .awaitingRoll nextSeatIndex nowMs
    return (turn, nextSeatIndex)

/-! ### The transition -/

/-- `{ ...player, ...jail.state }`. -/
def GameplayPlayerState.withJail (player : GameplayPlayerState) (jail : JailPlayerState) :
    GameplayPlayerState :=
  { player with
    cash := jail.cash
    position := jail.position
    inJail := jail.inJail
    jailTurns := jail.jailTurns
    consecutiveDoubles := jail.consecutiveDoubles
    getOutOfJailCards := jail.getOutOfJailCards }

/-- A player sent to jail. -/
def GameplayPlayerState.jailed (player : GameplayPlayerState) : GameplayPlayerState :=
  { player with
    position := GameplayPolicy.jailPosition
    inJail := true
    jailTurns := 0
    consecutiveDoubles := 0 }

def playerActorAuthorized (command : GameplayTurnCommand) (state : ActiveGameplayAggregateState)
    (context : GameplayCommandContext) : Bool :=
  match command, context.actor with
  | .resolveRandomDice, actor => actor == .internal
  | _, .player playerId => (activeGameplayPlayer state).any fun current =>
      current.playerId == playerId
  | _, .internal => false

def transitionEndTurn (state : ActiveGameplayAggregateState) (nowMs : ℤ) :
    GameplayTransitionResult := do
  require (state.bankruptcyRequiredSeatIndex = none)
    (reject state .invalidPhase "bankruptcy must be resolved before the turn can end")
  require (state.turn.phase = .awaitingEndTurn)
    (reject state .invalidCommand "turn cannot end while an action is pending")
  require (state.lastDice ≠ none)
    (reject state .invalidState "turn cannot end before dice have been rolled")
  let (turn, _) ← requireSome (advanceGameplayTurn state nowMs)
    (reject state .invalidState "no next active player is available")
  return ({ state with
    stateVersion := state.stateVersion + 1
    players := updateSlot state.turn.currentSeatIndex
      (fun player => { player with consecutiveDoubles := 0 }) state.players
    turn := turn
    lastDice := none }, [])

/-- The dice of a command and the checkpoint after them, from an isolated cursor. -/
def drawGameplayDice (state : ActiveGameplayAggregateState) (randomSource : RandomSource) :
    Except GameplayRejection (DiceRoll × RandomCheckpoint) := do
  let commandRandomSource ← requireSome (forkGameplayRandomSource randomSource state.rng)
    (reject state .invalidState "random source cannot fork the persisted checkpoint")
  let (dice, commandRandomSource) ← requireSome (rollDice randomSource commandRandomSource)
    (reject state .invalidState "random source failed to produce valid dice")
  let nextCheckpoint ← requireSome (readRandomCheckpoint randomSource commandRandomSource)
    (reject state .invalidState "random source returned an invalid checkpoint")
  require (isAdvancedGameplayCheckpoint state.rng nextCheckpoint 2 = true ∧
      canResumeGameplayCheckpoint randomSource commandRandomSource nextCheckpoint = true)
    (reject state .invalidState "random source returned an invalid checkpoint")
  return (dice, nextCheckpoint)

/-- A roll from jail: stay and pass the turn, go bankrupt on the forced fine, or leave and land. -/
def transitionJailedRoll (state : ActiveGameplayAggregateState) (current : GameplayPlayerState)
    (dice : DiceRoll) (nextCheckpoint : RandomCheckpoint) (nowMs : ℤ) :
    GameplayTransitionResult := do
  let diceEvent : GameplayDomainEvent := .diceRolled current.playerId dice
  match resolveJailRoll current.toJail dice with
  | .error code =>
    .error (reject state .invalidState ("jailed dice resolution failed: " ++ code.text))
  | .ok jail =>
    let players := updateSlot current.seatIndex (fun player => player.withJail jail.state)
      state.players
    match jail.outcome with
    | .remains =>
      let (turn, _) ← requireSome (advanceGameplayTurn state nowMs)
        (reject state .invalidState "no next active player is available")
      return ({ state with
        stateVersion := state.stateVersion + 1
        players := players
        turn := turn
        lastDice := some dice
        rng := nextCheckpoint }, [diceEvent])
    | .bankruptcyRequired =>
      let turn ← requireSome (createClockedGameplayTurn .awaitingBankruptcy current.seatIndex nowMs)
        (reject state .invalidState "bankruptcy deadline exceeds limits")
      return ({ state with
        stateVersion := state.stateVersion + 1
        players := players
        turn := turn
        bankruptcyRequiredSeatIndex := some current.seatIndex
        lastDice := some dice
        rng := nextCheckpoint }, [diceEvent])
    | _ =>
      let movement ← requireSome jail.movement
        (reject state .invalidState "jail release did not provide its movement")
      let releaseMethod ← requireSome jail.releaseMethod
        (reject state .invalidState "jail release did not provide its movement")
      let turn ← requireSome
        (createGameplayLandingTurn state movement.toPosition current.seatIndex nowMs false)
        (reject state .invalidState "jail release landing cannot be resolved")
      return ({ state with
        stateVersion := state.stateVersion + 1
        players := players
        turn := turn
        lastDice := some dice
        rng := nextCheckpoint },
        [diceEvent, .jailExited current.playerId releaseMethod,
          .playerMoved current.playerId movement.fromPosition movement.toPosition
            movement.passedGo 0])

/-- A roll outside jail: the third doubles or the go-to-jail space end in jail, any other roll
moves and lands. -/
def transitionFreeRoll (state : ActiveGameplayAggregateState) (current : GameplayPlayerState)
    (dice : DiceRoll) (doubles : DoublesResult) (nextCheckpoint : RandomCheckpoint) (nowMs : ℤ) :
    GameplayTransitionResult := do
  let diceEvent : GameplayDomainEvent := .diceRolled current.playerId dice
  if doubles.sentToJail then
    let (turn, _) ← requireSome (advanceGameplayTurn state nowMs)
      (reject state .invalidState "no next active player is available")
    return ({ state with
      stateVersion := state.stateVersion + 1
      players := updateSlot current.seatIndex GameplayPlayerState.jailed state.players
      turn := turn
      lastDice := some dice
      rng := nextCheckpoint },
      [diceEvent, .jailEntered current.playerId .threeDoubles])
  else
    let movement ← requireSome (moveBy current.position dice.total)
      (reject state .invalidState "player position is invalid")
    let cash ← requireSome
      (if movement.passedGo then checkedAddMatchCash current.cash GameplayPolicy.passGoSalary
        else some current.cash)
      (reject state .invalidState "GO salary cannot be applied")
    let movedEvent : GameplayDomainEvent := .playerMoved current.playerId movement.fromPosition
      movement.toPosition movement.passedGo
      (if movement.passedGo then GameplayPolicy.passGoSalary else 0)
    if movement.toPosition = GameplayPolicy.goToJailPosition then
      let (turn, _) ← requireSome (advanceGameplayTurn state nowMs)
        (reject state .invalidState "no next active player is available")
      return ({ state with
        stateVersion := state.stateVersion + 1
        players := updateSlot current.seatIndex
          (fun player => { player.jailed with cash := cash }) state.players
        turn := turn
        lastDice := some dice
        rng := nextCheckpoint },
        [diceEvent, movedEvent, .jailEntered current.playerId .space])
    else
      let turn ← requireSome (createGameplayLandingTurn state movement.toPosition
          current.seatIndex nowMs dice.isDoubles)
        (reject state .invalidState "landing cannot be resolved")
      return ({ state with
        stateVersion := state.stateVersion + 1
        players := updateSlot current.seatIndex (fun player =>
          { player with
            cash := cash
            position := movement.toPosition
            consecutiveDoubles := doubles.consecutiveDoubles }) state.players
        turn := turn
        lastDice := some dice
        rng := nextCheckpoint }, [diceEvent, movedEvent])

def transitionRoll (state : ActiveGameplayAggregateState) (current : GameplayPlayerState)
    (context : GameplayCommandContext) : GameplayTransitionResult := do
  require (state.turn.phase = .awaitingRoll)
    (reject state .invalidCommand "dice can only be rolled at the start of a turn")
  let (dice, nextCheckpoint) ← drawGameplayDice state context.randomSource
  let doubles ← requireSome (applyDoubles current.consecutiveDoubles dice)
    (reject state .invalidState "player doubles state is invalid")
  if current.inJail then
    transitionJailedRoll state current dice nextCheckpoint context.nowMs
  else
    transitionFreeRoll state current dice doubles nextCheckpoint context.nowMs

def transitionGameplayTurn (state : ActiveGameplayAggregateState) (command : GameplayTurnCommand)
    (expectedStateVersion : ℤ) (context : GameplayCommandContext) :
    GameplayTransitionResult := do
  checkCommand state (decide (0 ≤ context.nowMs)) expectedStateVersion context.nowMs
  let current ← requireSome (activeGameplayPlayer state)
    (reject state .invalidState "turn does not reference an active player")
  require (playerActorAuthorized command state context = true)
    (reject state .unauthorizedActor "actor cannot execute this turn command")
  match command with
  | .endTurn => transitionEndTurn state context.nowMs
  | .rollDice => transitionRoll state current context
  | .resolveRandomDice => transitionRoll state current context

/-! ### Fresh turns, characterised -/

/-- A time from which a new turn can be clocked. -/
abbrev ClockableTime (nowMs : ℤ) : Prop :=
  IsSafeInteger nowMs ∧ 0 ≤ nowMs ∧ IsSafeInteger (nowMs + 90000)

/-- The clock of a turn that starts now. -/
def freshClock (seatIndex : ℕ) (nowMs : ℤ) : TimeoutTurnState :=
  ⟨seatIndex, nowMs, nowMs + 90000, []⟩

theorem createClockedGameplayTurn_eq_some {phase : TurnPhase} {seatIndex : ℕ} {nowMs : ℤ}
    {turn : ActiveGameplayAggregateTurn} :
    createClockedGameplayTurn phase seatIndex nowMs = some turn ↔ ClockableTime nowMs ∧
      (phase = .awaitingRoll ∨ phase = .awaitingBankruptcy ∨ phase = .awaitingEndTurn) ∧
      turn = ⟨freshClock seatIndex nowMs, phase⟩ := by
  unfold createClockedGameplayTurn
  simp only [GameplayPolicy.turnTimeoutMs]
  split_ifs with htime hphase
  · simp only [false_iff]
    rintro ⟨⟨hs, h0, hd⟩, -⟩
    exact htime.elim (fun h => h ⟨hs, h0⟩) fun h => h hd
  · simp only [not_or, not_not] at htime
    rw [Option.some.injEq]
    exact ⟨fun h => ⟨⟨htime.1.1, htime.1.2, htime.2⟩, hphase, h.symm⟩, fun h => h.2.2.symm⟩
  · simp [hphase]

/-- `turn` belongs to the next active seat, another one, and starts now. -/
def PassesTurn (state : ActiveGameplayAggregateState) (nowMs : ℤ)
    (turn : ActiveGameplayAggregateTurn) : Prop :=
  ∃ next, nextActiveSeat (fun player => player.status) state.players state.turn.currentSeatIndex
      = some next ∧ next ≠ state.turn.currentSeatIndex ∧ ClockableTime nowMs ∧
    turn = ⟨freshClock next nowMs, .awaitingRoll⟩

theorem advanceGameplayTurn_eq_some {state : ActiveGameplayAggregateState} {nowMs : ℤ}
    {turn : ActiveGameplayAggregateTurn} {next : ℕ}
    (h : advanceGameplayTurn state nowMs = some (turn, next)) : PassesTurn state nowMs turn := by
  simp only [advanceGameplayTurn, Option.bind_eq_bind, Option.bind_eq_some_iff] at h
  obtain ⟨seat, hseat, h⟩ := h
  split_ifs at h with hne
  simp only [Option.bind_eq_some_iff, createClockedGameplayTurn_eq_some, Option.pure_def,
    Option.some.injEq, Prod.mk.injEq] at h
  obtain ⟨_, ⟨htime, -, rfl⟩, rfl, rfl⟩ := h
  exact ⟨_, hseat, hne, htime, rfl⟩

theorem createGameplayLandingTurn_eq_some {state : ActiveGameplayAggregateState}
    {position seat : ℕ} {nowMs : ℤ} {rolledDoubles : Bool} {turn : ActiveGameplayAggregateTurn}
    (h : createGameplayLandingTurn state position seat nowMs rolledDoubles = some turn) :
    ∃ definition phase, boardSpaces[position]? = some definition ∧ ClockableTime nowMs ∧
      landingPhase state.properties definition position seat (settledPhase rolledDoubles)
        = some phase ∧ turn = ⟨freshClock seat nowMs, phase⟩ := by
  simp only [createGameplayLandingTurn, Option.bind_eq_bind, Option.bind_eq_some_iff,
    createClockedGameplayTurn_eq_some, Option.pure_def, Option.some.injEq] at h
  obtain ⟨definition, hd, _, ⟨htime, -, rfl⟩, phase, hphase, rfl⟩ := h
  exact ⟨definition, phase, hd, htime, hphase, rfl⟩

/-! ### Accepted outcomes -/

section Steps

variable (state : ActiveGameplayAggregateState) (current : GameplayPlayerState) (nowMs : ℤ)

/-- The state after a roll, whatever it leads to. -/
def afterRoll (dice : DiceRoll) (rng : RandomCheckpoint) (turn : ActiveGameplayAggregateTurn)
    (update : GameplayPlayerState → GameplayPlayerState) : ActiveGameplayAggregateState :=
  { state with
    stateVersion := state.stateVersion + 1
    players := updateSlot state.turn.currentSeatIndex update state.players
    turn := turn
    lastDice := some dice
    rng := rng }

/-- The accepted outcomes of a roll of `dice` by `current`. -/
inductive RollStep (dice : DiceRoll) (rng : RandomCheckpoint) :
    ActiveGameplayAggregateState → List GameplayDomainEvent → Prop
  | jailRemains (turn : ActiveGameplayAggregateTurn) : current.inJail = true →
      dice.isDoubles = false → current.jailTurns < 2 → PassesTurn state nowMs turn →
      RollStep dice rng
        (afterRoll state dice rng turn fun player => player.withJail
          { current.toJail with jailTurns := current.jailTurns + 1 })
        [.diceRolled current.playerId dice]
  | jailBankruptcy : current.inJail = true → dice.isDoubles = false → 2 ≤ current.jailTurns →
      current.cash < 50 → ClockableTime nowMs →
      RollStep dice rng
        { afterRoll state dice rng
            ⟨freshClock state.turn.currentSeatIndex nowMs, .awaitingBankruptcy⟩
            (fun player => player.withJail { current.toJail with
              cash := 0, inJail := false, jailTurns := 0, consecutiveDoubles := 0 }) with
          bankruptcyRequiredSeatIndex := some state.turn.currentSeatIndex }
        [.diceRolled current.playerId dice]
  | jailRelease (cash : ℤ) (method : JailReleaseMethod) (movement : MovementResult)
      (turn : ActiveGameplayAggregateTurn) : current.inJail = true →
      ((dice.isDoubles = true ∧ method = .doubles ∧ cash = current.cash) ∨
        (dice.isDoubles = false ∧ 2 ≤ current.jailTurns ∧ method = .fine ∧ 50 ≤ current.cash ∧
          cash = current.cash - 50)) →
      moveBy current.position dice.total = some movement →
      createGameplayLandingTurn state movement.toPosition state.turn.currentSeatIndex nowMs false
        = some turn →
      RollStep dice rng
        (afterRoll state dice rng turn fun player => player.withJail { current.toJail with
          cash := cash, position := movement.toPosition, inJail := false, jailTurns := 0,
          consecutiveDoubles := 0 })
        [.diceRolled current.playerId dice, .jailExited current.playerId method,
          .playerMoved current.playerId movement.fromPosition movement.toPosition
            movement.passedGo 0]
  | threeDoubles (turn : ActiveGameplayAggregateTurn) : current.inJail = false →
      current.consecutiveDoubles = 2 → dice.isDoubles = true → PassesTurn state nowMs turn →
      RollStep dice rng (afterRoll state dice rng turn GameplayPlayerState.jailed)
        [.diceRolled current.playerId dice, .jailEntered current.playerId .threeDoubles]
  | goToJail (cash : ℤ) (movement : MovementResult) (turn : ActiveGameplayAggregateTurn) :
      current.inJail = false → moveBy current.position dice.total = some movement →
      cash = current.cash + (if movement.passedGo then 200 else 0) → cash ≤ maxMatchCash →
      PassesTurn state nowMs turn →
      RollStep dice rng
        (afterRoll state dice rng turn fun player => { player.jailed with cash := cash })
        [.diceRolled current.playerId dice,
          .playerMoved current.playerId movement.fromPosition movement.toPosition
            movement.passedGo (if movement.passedGo then 200 else 0),
          .jailEntered current.playerId .space]
  | moved (cash : ℤ) (movement : MovementResult) (doubles : DoublesResult)
      (turn : ActiveGameplayAggregateTurn) : current.inJail = false →
      applyDoubles current.consecutiveDoubles dice = some doubles →
      moveBy current.position dice.total = some movement →
      cash = current.cash + (if movement.passedGo then 200 else 0) → cash ≤ maxMatchCash →
      createGameplayLandingTurn state movement.toPosition state.turn.currentSeatIndex nowMs
        dice.isDoubles = some turn →
      RollStep dice rng
        (afterRoll state dice rng turn fun player => { player with
          cash := cash, position := movement.toPosition,
          consecutiveDoubles := doubles.consecutiveDoubles })
        [.diceRolled current.playerId dice,
          .playerMoved current.playerId movement.fromPosition movement.toPosition
            movement.passedGo (if movement.passedGo then 200 else 0)]

/-- The accepted outcomes of a turn command. -/
inductive TurnStep (randomSource : RandomSource) : GameplayTurnCommand →
    ActiveGameplayAggregateState → List GameplayDomainEvent → Prop
  | endTurn (turn : ActiveGameplayAggregateTurn) : state.turn.phase = .awaitingEndTurn →
      PassesTurn state nowMs turn →
      TurnStep randomSource .endTurn
        { state with
          stateVersion := state.stateVersion + 1
          players := updateSlot state.turn.currentSeatIndex
            (fun player => { player with consecutiveDoubles := 0 }) state.players
          turn := turn
          lastDice := none } []
  | roll (command : GameplayTurnCommand) (dice : DiceRoll) (rng : RandomCheckpoint)
      (state' : ActiveGameplayAggregateState) (events : List GameplayDomainEvent) :
      command ≠ .endTurn → state.turn.phase = .awaitingRoll →
      drawGameplayDice state randomSource = .ok (dice, rng) →
      RollStep state current nowMs dice rng state' events →
      TurnStep randomSource command state' events

end Steps

/-! ### Inversion -/

section Inversion

variable {state state' : ActiveGameplayAggregateState} {current : GameplayPlayerState}
  {dice : DiceRoll} {rng : RandomCheckpoint} {nowMs : ℤ} {events : List GameplayDomainEvent}

/-- What a successful draw has established about dice and checkpoint. -/
theorem drawGameplayDice_eq_ok {randomSource : RandomSource}
    (h : drawGameplayDice state randomSource = .ok (dice, rng)) :
    ValidDice dice ∧ ValidRandomCheckpoint rng := by
  simp only [drawGameplayDice, bind_eq_ok, requireSome_eq_ok, require_eq_ok, pure_eq_ok,
    Prod.exists, exists_const, Prod.mk.injEq] at h
  obtain ⟨cursor, -, dice, cursor', hroll, rng, hread, -, rfl, rfl⟩ := h
  exact ⟨rollDice_valid hroll, readRandomCheckpoint_valid hread⟩

theorem transitionJailedRoll_step (hc : IsCurrent state current) (hv : ValidActive state)
    (hin : current.inJail = true)
    (h : transitionJailedRoll state current dice rng nowMs = .ok (state', events)) :
    RollStep state current nowMs dice rng state' events := by
  simp only [transitionJailedRoll, hc.seatIndex_eq hv] at h
  split at h
  · cases h
  next jail hjail =>
    obtain ⟨hout, hno, hlt, hstate⟩ | ⟨hout, hno, hge, hcash, hstate⟩ |
      ⟨hout, cash, method, movement, hmove, hby, hmethod, hpay, hstate⟩ := resolveJailRoll_eq_ok hjail
    · simp only [hout, bind_eq_ok, requireSome_eq_ok, pure_eq_ok, Prod.exists,
        Prod.mk.injEq] at h
      obtain ⟨turn, next, hadv, rfl, rfl⟩ := h
      rw [hstate]
      exact .jailRemains turn hin hno hlt (advanceGameplayTurn_eq_some hadv)
    · simp only [hout, bind_eq_ok, requireSome_eq_ok, pure_eq_ok, Prod.mk.injEq,
        createClockedGameplayTurn_eq_some] at h
      obtain ⟨turn, ⟨htime, -, rfl⟩, rfl, rfl⟩ := h
      rw [hstate]
      exact .jailBankruptcy hin hno hge hcash htime
    · simp only [hout, hmove, hmethod, bind_eq_ok, requireSome_eq_ok, pure_eq_ok, Prod.mk.injEq,
        Option.some.injEq, exists_eq_left'] at h
      obtain ⟨turn, hturn, rfl, rfl⟩ := h
      rw [hstate]
      exact .jailRelease cash method movement turn hin hpay hby hturn

theorem salary_eq_some {passedGo : Bool} {cash cash' : ℤ} (hmax : cash ≤ maxMatchCash)
    (h : (if passedGo then checkedAddMatchCash cash GameplayPolicy.passGoSalary
      else some cash) = some cash') :
    cash' = cash + (if passedGo then 200 else 0) ∧ cash' ≤ maxMatchCash := by
  split_ifs at h ⊢
  · obtain ⟨rfl, hle⟩ := checkedAddMatchCash_eq_some.1 h
    exact ⟨rfl, hle⟩
  · cases h
    exact ⟨(add_zero cash).symm, hmax⟩

theorem transitionFreeRoll_step {doubles : DoublesResult} (hc : IsCurrent state current)
    (hv : ValidActive state) (hin : current.inJail = false)
    (hd : applyDoubles current.consecutiveDoubles dice = some doubles)
    (h : transitionFreeRoll state current dice doubles rng nowMs = .ok (state', events)) :
    RollStep state current nowMs dice rng state' events := by
  have hmax : current.cash ≤ maxMatchCash := (hc.rules hv).cash.2
  simp only [transitionFreeRoll, hc.seatIndex_eq hv, ite_eq_ok, bind_eq_ok, requireSome_eq_ok,
    pure_eq_ok, Prod.exists, Prod.mk.injEq] at h
  obtain ⟨hsent, turn, next, hadv, rfl, rfl⟩ | ⟨-, movement, hmove, cash, hcash,
    ⟨-, turn, next, hadv, rfl, rfl⟩ | ⟨-, turn, hturn, rfl, rfl⟩⟩ := h
  · obtain ⟨htwo, hdoubles⟩ := (applyDoubles_eq_some hd).2.2 hsent
    exact .threeDoubles turn hin htwo hdoubles (advanceGameplayTurn_eq_some hadv)
  · obtain ⟨hbooks, hle⟩ := salary_eq_some hmax hcash
    exact .goToJail cash movement turn hin hmove hbooks hle (advanceGameplayTurn_eq_some hadv)
  · obtain ⟨hbooks, hle⟩ := salary_eq_some hmax hcash
    exact .moved cash movement doubles turn hin hd hmove hbooks hle hturn

theorem transitionRoll_step {context : GameplayCommandContext} (hc : IsCurrent state current)
    (hv : ValidActive state) (h : transitionRoll state current context = .ok (state', events)) :
    state.turn.phase = .awaitingRoll ∧ ∃ dice rng,
      drawGameplayDice state context.randomSource = .ok (dice, rng) ∧
      RollStep state current context.nowMs dice rng state' events := by
  simp only [transitionRoll, bind_eq_ok, require_eq_ok, requireSome_eq_ok, Prod.exists,
    exists_const, ite_eq_ok, Bool.not_eq_true] at h
  obtain ⟨hphase, dice, rng, hdraw, doubles, hd, ⟨hin, h⟩ | ⟨hin, h⟩⟩ := h
  · exact ⟨hphase, dice, rng, hdraw, transitionJailedRoll_step hc hv hin h⟩
  · exact ⟨hphase, dice, rng, hdraw, transitionFreeRoll_step hc hv hin hd h⟩

/-- An accepted turn command was admitted, and did one of the listed things. -/
theorem transitionGameplayTurn_step {command : GameplayTurnCommand} {expected : ℤ}
    {context : GameplayCommandContext}
    (h : transitionGameplayTurn state command expected context = .ok (state', events)) :
    Admitted state expected context.nowMs ∧ ∃ current, IsCurrent state current ∧
      playerActorAuthorized command state context = true ∧
      TurnStep state current context.nowMs context.randomSource command state' events := by
  simp only [transitionGameplayTurn, bind_eq_ok, require_eq_ok, requireSome_eq_ok, exists_const,
    checkCommand_eq_ok, activeGameplayPlayer_eq_some] at h
  obtain ⟨⟨-, hadm⟩, current, hc, hauth, h⟩ := h
  refine ⟨hadm, current, hc, hauth, ?_⟩
  cases command with
  | endTurn =>
    simp only [transitionEndTurn, bind_eq_ok, require_eq_ok, requireSome_eq_ok, pure_eq_ok,
      Prod.exists, exists_const, Prod.mk.injEq] at h
    obtain ⟨-, hphase, -, turn, next, hadv, rfl, rfl⟩ := h
    exact .endTurn turn hphase (advanceGameplayTurn_eq_some hadv)
  | rollDice =>
    obtain ⟨hphase, dice, rng, hdraw, hroll⟩ := transitionRoll_step hc hadm.valid h
    exact .roll _ dice rng _ _ (by simp) hphase hdraw hroll
  | resolveRandomDice =>
    obtain ⟨hphase, dice, rng, hdraw, hroll⟩ := transitionRoll_step hc hadm.valid h
    exact .roll _ dice rng _ _ (by simp) hphase hdraw hroll

end Inversion

end Pootown
