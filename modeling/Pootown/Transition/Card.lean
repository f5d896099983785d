import Mathlib.Tactic
import Pootown.Transition.Turn

/-!
# Card transitions

Drawing a card by rejection sampling and resolving it: a debit the player cannot meet leads to
bankruptcy, a movement to a new landing, anything else to the end of the action.
-/

namespace Pootown

open Fallible Slots

def cardCount : ℕ := 5

def maximumCardRejectionDraws : ℕ := 32

def commandDeck : GameplayCardCommand → CardDeck
  | .drawChanceCard => .chance
  | .drawCommunityChestCard => .communityChest
  | .resolveRandomCard deck => deck

/-- A card number with the bytes drawn for it.  Byte 255 is drawn again; `attempt` counts from 1
and `remaining` is what is left of the permitted draws. -/
def drawCardIdFrom (randomSource : RandomSource) :
    (remaining attempt : ℕ) → randomSource.Cursor → Option (ℕ × ℕ × randomSource.Cursor)
  | 0, _, _ => none
  | remaining + 1, attempt, cursor =>
    match randomSource.nextBytes cursor 1 with
    | some ([byte], cursor) =>
      if byte.toNat < 255 then some (byte.toNat % cardCount + 1, attempt, cursor)
      else drawCardIdFrom randomSource remaining (attempt + 1) cursor
    | _ => none

def drawCardId (randomSource : RandomSource) (cursor : randomSource.Cursor) :
    Option (ℕ × ℕ × randomSource.Cursor) :=
  drawCardIdFrom randomSource maximumCardRejectionDraws 1 cursor

/-- The continuation of a resolved card: recomputed from the stored dice. -/
def continuationTurn (state : ActiveGameplayAggregateState) (position : ℕ) (nowMs : ℤ)
    (moved : Bool) : Option ActiveGameplayAggregateTurn :=
  let rolledDoubles := state.lastDice.any DiceRoll.isDoubles
  if moved then
    createGameplayLandingTurn state position state.turn.currentSeatIndex nowMs rolledDoubles
  else
    createClockedGameplayTurn (settledPhase rolledDoubles) state.turn.currentSeatIndex nowMs

/-- `{ ...player, ...resolution.state }`. -/
def GameplayPlayerState.withCard (player : GameplayPlayerState) (card : CardPlayerState) :
    GameplayPlayerState :=
  { player with
    cash := card.cash
    position := card.position
    getOutOfJailCards := card.getOutOfJailCards }

/-- The card number of a command and the checkpoint after it, from an isolated cursor. -/
def drawGameplayCard (state : ActiveGameplayAggregateState) (randomSource : RandomSource) :
    Except GameplayRejection (ℕ × RandomCheckpoint) := do
  let commandRandomSource ← requireSome (forkGameplayRandomSource randomSource state.rng)
    (reject state .invalidState "random source cannot fork the persisted checkpoint")
  let (cardId, bytesConsumed, commandRandomSource) ←
    requireSome (drawCardId randomSource commandRandomSource)
      (reject state .invalidState "random source failed to select a card")
  let nextCheckpoint ← requireSome (readRandomCheckpoint randomSource commandRandomSource)
    (reject state .invalidState "random source returned an invalid checkpoint")
  require (isAdvancedGameplayCheckpoint state.rng nextCheckpoint bytesConsumed = true ∧
      canResumeGameplayCheckpoint randomSource commandRandomSource nextCheckpoint = true)
    (reject state .invalidState "random source returned an invalid checkpoint")
  return (cardId, nextCheckpoint)

/-- The events of a resolved card: the card, then the movement it caused, if any. -/
def cardEvents (playerId : String) (deck : CardDeck) (resolution : CardResolution) :
    List GameplayDomainEvent :=
  let cardEvent := .cardDrawn playerId deck resolution.card.id resolution.card.effect
  match resolution.movement with
  | none => [cardEvent]
  | some movement => [cardEvent, .playerMoved playerId movement.fromPosition movement.toPosition
      movement.passedGo (if movement.passedGo then GameplayPolicy.passGoSalary else 0)]

/-- The internal actor resolves random cards, the current player draws the others. -/
def cardActorAuthorized (command : GameplayCardCommand) (current : GameplayPlayerState)
    (context : GameplayCommandContext) : Bool :=
  match command with
  | .resolveRandomCard _ => context.actor == .internal
  | _ => context.actor == .player current.playerId

def transitionGameplayCard (state : ActiveGameplayAggregateState) (command : GameplayCardCommand)
    (expectedStateVersion : ℤ) (context : GameplayCommandContext) : GameplayTransitionResult := do
  checkCommand state true expectedStateVersion context.nowMs
  let current ← requireSome (activeGameplayPlayer state)
    (reject state .invalidState "turn does not reference an active player")
  let deck := commandDeck command
  require (cardActorAuthorized command current context = true)
    (reject state .unauthorizedActor "actor cannot execute this card command")
  require (state.turn.phase = .awaitingCardDraw deck)
    (reject state .invalidPhase "card command does not match the pending deck")
  let (cardId, nextCheckpoint) ← drawGameplayCard state context.randomSource
  let joinedPlayerCount := (occupants state.players).length
  match resolveCard deck cardId current.toCard joinedPlayerCount with
  | .error code => .error (reject state .invalidState ("card resolution failed: " ++ code.text))
  | .ok resolution =>
    let players := updateSlot current.seatIndex (fun player => player.withCard resolution.state)
      state.players
    if resolution.bankruptcyRequired then
      let turn ← requireSome
        (createClockedGameplayTurn .awaitingBankruptcy current.seatIndex context.nowMs)
        (reject state .invalidState "bankruptcy deadline exceeds limits")
      return ({ state with
        stateVersion := state.stateVersion + 1
        players := players
        turn := turn
        bankruptcyRequiredSeatIndex := some current.seatIndex
        rng := nextCheckpoint },
        [.cardDrawn current.playerId deck resolution.card.id resolution.card.effect])
    else
      let turn ← requireSome (continuationTurn state resolution.state.position context.nowMs
          resolution.movement.isSome)
        (reject state .invalidState "card follow-up landing cannot be resolved")
      return ({ state with
        stateVersion := state.stateVersion + 1
        players := players
        turn := turn
        rng := nextCheckpoint }, cardEvents current.playerId deck resolution)

/-! ### Accepted outcomes -/

section Steps

variable (state : ActiveGameplayAggregateState) (current : GameplayPlayerState) (nowMs : ℤ)

/-- The state after a resolved card, whatever it leads to. -/
def afterCard (rng : RandomCheckpoint) (turn : ActiveGameplayAggregateTurn)
    (resolution : CardResolution) : ActiveGameplayAggregateState :=
  { state with
    stateVersion := state.stateVersion + 1
    players := updateSlot state.turn.currentSeatIndex
      (fun player => player.withCard resolution.state) state.players
    turn := turn
    rng := rng }

/-- The accepted outcomes of a card command of `current`. -/
inductive CardStep (deck : CardDeck) (rng : RandomCheckpoint) (resolution : CardResolution) :
    ActiveGameplayAggregateState → List GameplayDomainEvent → Prop
  | bankruptcy : resolution.bankruptcyRequired = true → ClockableTime nowMs →
      CardStep deck rng resolution
        { afterCard state rng ⟨freshClock state.turn.currentSeatIndex nowMs, .awaitingBankruptcy⟩
            resolution with
          bankruptcyRequiredSeatIndex := some state.turn.currentSeatIndex }
        [.cardDrawn current.playerId deck resolution.card.id resolution.card.effect]
  | continued (turn : ActiveGameplayAggregateTurn) : resolution.bankruptcyRequired = false →
      continuationTurn state resolution.state.position nowMs resolution.movement.isSome
        = some turn →
      CardStep deck rng resolution (afterCard state rng turn resolution)
        (cardEvents current.playerId deck resolution)

end Steps

theorem drawGameplayCard_eq_ok {state : ActiveGameplayAggregateState}
    {randomSource : RandomSource} {cardId : ℕ} {rng : RandomCheckpoint}
    (h : drawGameplayCard state randomSource = .ok (cardId, rng)) : ValidRandomCheckpoint rng := by
  simp only [drawGameplayCard, bind_eq_ok, requireSome_eq_ok, require_eq_ok, pure_eq_ok,
    Prod.exists, exists_const, Prod.mk.injEq] at h
  obtain ⟨cursor, -, cardId, bytes, cursor', -, rng, hread, -, rfl, rfl⟩ := h
  exact readRandomCheckpoint_valid hread

/-- An accepted card command was admitted in the matching phase, drew a card, and resolved it. -/
theorem transitionGameplayCard_step {state state' : ActiveGameplayAggregateState}
    {command : GameplayCardCommand} {expected : ℤ} {context : GameplayCommandContext}
    {events : List GameplayDomainEvent}
    (h : transitionGameplayCard state command expected context = .ok (state', events)) :
    Admitted state expected context.nowMs ∧
      state.turn.phase = .awaitingCardDraw (commandDeck command) ∧
      ∃ current cardId rng resolution, IsCurrent state current ∧
        drawGameplayCard state context.randomSource = .ok (cardId, rng) ∧
        resolveCard (commandDeck command) cardId current.toCard (occupants state.players).length
          = .ok resolution ∧
        CardStep state current context.nowMs (commandDeck command) rng resolution state' events := by
  simp only [transitionGameplayCard, bind_eq_ok, require_eq_ok, requireSome_eq_ok,
    exists_const, checkCommand_eq_ok, activeGameplayPlayer_eq_some, Prod.exists] at h
  obtain ⟨⟨-, hadm⟩, current, hc, -, hphase, cardId, rng, hdraw, h⟩ := h
  refine ⟨hadm, hphase, ?_⟩
  split at h
  · cases h
  next resolution hres =>
    refine ⟨current, cardId, rng, resolution, hc, hdraw, hres, ?_⟩
    simp only [ite_eq_ok, bind_eq_ok, requireSome_eq_ok, pure_eq_ok, Bool.not_eq_true,
      createClockedGameplayTurn_eq_some, hc.seatIndex_eq hadm.valid, Prod.mk.injEq] at h
    obtain ⟨hbank, _, ⟨htime, -, rfl⟩, rfl, rfl⟩ | ⟨hbank, turn, hturn, rfl, rfl⟩ := h
    · exact .bankruptcy hbank htime
    · exact .continued turn hbank hturn

end Pootown
