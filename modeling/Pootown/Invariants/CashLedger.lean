import Mathlib.Tactic
import Pootown.Invariants.Validity

/-!
# The cash ledger

The cash of a game, in players' hands, in the bank and on free parking, moves by what the events of
a command announce.  One branch breaks the rule: a third failed roll from jail that the player
cannot pay for takes the rest of their cash and announces nothing but the dice.
-/

namespace Pootown

open Fallible Slots

/-! ### What a command announces -/

/-- All the cash of an aggregate. -/
def totalCash (state : GameplayAggregateStateBase) : ℤ :=
  total (fun player => player.cash) state.players + state.bankCash + state.freeParkingPool

/-- The fields both lifecycles share. -/
def GameplayAggregateState.base : GameplayAggregateState → GameplayAggregateStateBase
  | .inProgress state => state.toGameplayAggregateStateBase
  | .finished state => state.toGameplayAggregateStateBase

/-- What an event announces, its salary apart. -/
def eventCash : GameplayDomainEvent → ℤ
  | .propertyPurchased _ _ price => -price
  | .buildingBuilt _ _ _ _ cost => -cost
  | .buildingSold _ _ _ salePrice => salePrice
  | .taxPaid _ _ _ amount => -amount
  | .jailExited _ .fine => -GameplayPolicy.jailFine
  | .playerBankrupt _ _ liquidationValue _ => liquidationValue
  | _ => 0

/-- The salary a movement announces. -/
def salaryOf : GameplayDomainEvent → ℤ
  | .playerMoved _ _ _ _ salaryCollected => salaryCollected
  | _ => 0

/-- What a card does to the cash of the player who drew it from `state`. -/
def cardCash (state : GameplayAggregateStateBase) (playerId : String) (deck : CardDeck)
    (cardId : ℕ) : ℤ :=
  match gameplayPlayerById state.players playerId with
  | none => 0
  | some player =>
    match resolveCard deck cardId player.toCard (occupants state.players).length with
    | .ok resolution => resolution.cashDelta
    | .error _ => 0

/-- The drawn card of a command, if any. -/
def drawnCard (events : List GameplayDomainEvent) : Option (String × CardDeck × ℕ) :=
  events.findSome? fun event => match event with
    | .cardDrawn playerId deck cardId _ => some (playerId, deck, cardId)
    | _ => none

/-- The change of `totalCash` the events of a command announce: the card's delta, which includes a
salary, or else the salaries; and what every other event names. -/
def announcedCash (state : GameplayAggregateStateBase) (events : List GameplayDomainEvent) : ℤ :=
  (match drawnCard events with
    | some (playerId, deck, cardId) => cardCash state playerId deck cardId
    | none => (events.map salaryOf).sum) + (events.map eventCash).sum

/-- The roll a jailed player cannot pay for: the third one, no doubles, with some cash but less than
the fine. -/
def UnpayableThirdRoll (state : ActiveGameplayAggregateState) (body : GameplayCommandBody)
    (context : GameplayCommandContext) : Prop :=
  (body = .turn .rollDice ∨ body = .turn .resolveRandomDice) ∧
  ∃ current dice rng, IsCurrent state current ∧ current.inJail = true ∧ current.jailTurns = 2 ∧
    0 < current.cash ∧ current.cash < GameplayPolicy.jailFine ∧
    drawGameplayDice state context.randomSource = .ok (dice, rng) ∧ dice.isDoubles = false

/-! ### One step -/

section Steps

variable {state state' : ActiveGameplayAggregateState} {current : GameplayPlayerState}
  {nowMs : ℤ} {events : List GameplayDomainEvent}

theorem total_updated {f : GameplayPlayerState → GameplayPlayerState}
    (hc : IsCurrent state current) :
    total (fun player => player.cash)
      (updateSlot state.turn.currentSeatIndex f state.players)
      = total (fun player => player.cash) state.players - current.cash + (f current).cash :=
  total_updateSlot hc.1

/-- The roll of a jailed player who owes the fine and cannot pay it. -/
abbrev Unpayable (current : GameplayPlayerState) (dice : DiceRoll) : Prop :=
  current.inJail = true ∧ dice.isDoubles = false ∧ 2 ≤ current.jailTurns ∧
    current.cash < GameplayPolicy.jailFine

/-- The cash a roll takes without a word. -/
def unpaidCash (current : GameplayPlayerState) (dice : DiceRoll) : ℤ :=
  if Unpayable current dice then current.cash else 0

theorem unpaidCash_of_not {dice : DiceRoll} (h : ¬ Unpayable current dice) :
    unpaidCash current dice = 0 := if_neg h

/-- A roll keeps the books but for the unpayable one, which takes the player's cash. -/
theorem RollStep.cash {dice : DiceRoll} {rng : RandomCheckpoint}
    (h : RollStep state current nowMs dice rng state' events) (hc : IsCurrent state current) :
    totalCash state'.toGameplayAggregateStateBase =
      totalCash state.toGameplayAggregateStateBase
        + announcedCash state.toGameplayAggregateStateBase events - unpaidCash current dice := by
  cases h with
  | jailRemains turn hin hno hlt hpass =>
    rw [unpaidCash_of_not fun hcon => absurd hcon.2.2.1 (by omega)]
    simp only [totalCash, afterRoll, total_updated hc, announcedCash, drawnCard]
    simp [eventCash, salaryOf, GameplayPlayerState.withJail, GameplayPlayerState.toJail]
  | jailBankruptcy hin hno hge hcash htime =>
    rw [unpaidCash, if_pos ⟨hin, hno, hge, hcash⟩]
    simp only [totalCash, afterRoll, total_updated hc, announcedCash, drawnCard]
    simp [eventCash, salaryOf, GameplayPlayerState.withJail]
    ring
  | jailRelease cash method movement turn hin hpay hmove hturn =>
    rw [unpaidCash_of_not]
    · simp only [totalCash, afterRoll, total_updated hc, announcedCash, drawnCard]
      obtain ⟨-, rfl, rfl⟩ | ⟨-, -, rfl, -, rfl⟩ := hpay
      · simp [eventCash, salaryOf, GameplayPlayerState.withJail]
      · simp [eventCash, salaryOf, GameplayPlayerState.withJail]
        ring
    · rintro ⟨-, hno, -, hlt⟩
      obtain ⟨hyes, -⟩ | ⟨-, -, -, hle, -⟩ := hpay
      · rw [hno] at hyes
        cases hyes
      · exact absurd hlt (not_lt.2 hle)
  | threeDoubles turn hin htwo hdoubles hpass =>
    rw [unpaidCash_of_not (by simp [hin])]
    simp only [totalCash, afterRoll, total_updated hc, announcedCash, drawnCard]
    simp [eventCash, salaryOf, GameplayPlayerState.jailed]
  | goToJail cash movement turn hin hmove hcash hle hpass =>
    rw [unpaidCash_of_not (by simp [hin])]
    simp only [totalCash, afterRoll, total_updated hc, announcedCash, drawnCard]
    simp [eventCash, salaryOf, hcash]
    ring
  | moved cash movement doubles turn hin hdoubles hmove hcash hle hturn =>
    rw [unpaidCash_of_not (by simp [hin])]
    simp only [totalCash, afterRoll, total_updated hc, announcedCash, drawnCard]
    simp [eventCash, salaryOf, hcash]
    ring

theorem PropertyStep.cash (h : PropertyStep state current nowMs state' events)
    (hc : IsCurrent state current) :
    totalCash state'.toGameplayAggregateStateBase =
      totalCash state.toGameplayAggregateStateBase
        + announcedCash state.toGameplayAggregateStateBase events := by
  cases h with
  | decline position price lastDice hphase hdice htime =>
    simp [totalCash, afterSettled, announcedCash, drawnCard, eventCash, salaryOf]
  | buy position property definition lastDice hphase hdice htime hp hd howner hown hle =>
    simp only [totalCash, afterSettled, total_updated hc, announcedCash, drawnCard]
    simp [eventCash, salaryOf]
    ring
  | bankruptcy hphase htime => simp [totalCash, announcedCash, drawnCard]
  | rent position ownerSeat owner amount lastDice hphase hdice htime hslot hactive hne hamount hle
      hmax =>
    have hrest : ∀ i (p : GameplayPlayerState), i ≠ state.turn.currentSeatIndex → i ≠ ownerSeat →
        slotAt state.players i = some p →
        (if i = state.turn.currentSeatIndex then { p with cash := current.cash - amount }
          else if i = ownerSeat then { p with cash := owner.cash + amount } else p).cash
          = p.cash := by
      intro i p h₁ h₂ _
      rw [if_neg h₁, if_neg h₂]
    simp only [totalCash, afterSettled,
      total_mapSlots_pair (w := fun player : GameplayPlayerState => player.cash) (Ne.symm hne)
        hc.1 hslot hrest, announcedCash, drawnCard]
    simp [eventCash, salaryOf, hne]
    ring
  | tax taxKind lastDice hphase hdice htime hle =>
    simp only [totalCash, afterSettled, total_updated hc, announcedCash, drawnCard]
    simp [eventCash, salaryOf]
    ring
  | building action position property result hphase htime hresult =>
    obtain ⟨-, hcash, -⟩ := BuildingAction.apply_eq_ok hresult
    simp only [totalCash, total_updated hc, announcedCash, drawnCard, hcash]
    cases action <;> simp [BuildingAction.event, BuildingAction.cashDelta, eventCash, salaryOf] <;>
      ring

theorem JailStep.cash (h : JailStep state current nowMs state' events)
    (hc : IsCurrent state current) :
    totalCash state'.toGameplayAggregateStateBase =
      totalCash state.toGameplayAggregateStateBase
        + announcedCash state.toGameplayAggregateStateBase events := by
  cases h with
  | bankruptcy hcash htime => simp [totalCash, announcedCash, drawnCard]
  | released cash cards method turn hin hpay hpass =>
    simp only [totalCash, total_updated hc, announcedCash, drawnCard]
    obtain ⟨rfl, -, rfl, -⟩ | ⟨rfl, rfl, -⟩ := hpay
    · simp [eventCash, salaryOf, GameplayPlayerState.withJail]
      ring
    · simp [eventCash, salaryOf, GameplayPlayerState.withJail]

end Steps

/-! ### Cards -/

/-- On a valid table a player is found by their id. -/
theorem gameplayPlayerById_of_slot {state : ActiveGameplayAggregateState} {seat : ℕ}
    {player : GameplayPlayerState} (hv : ValidActive state)
    (hslot : slotAt state.players seat = some player) :
    gameplayPlayerById state.players player.playerId = some player := by
  have hmem : player ∈ occupants state.players := mem_occupants.2 ⟨seat, hslot⟩
  have hfound : (gameplayPlayerById state.players player.playerId).isSome :=
    List.find?_isSome.2 ⟨player, hmem, by simp⟩
  obtain ⟨other, hother⟩ := Option.isSome_iff_exists.1 hfound
  obtain ⟨hid, i, hi⟩ := gameplayPlayerById_slot hother
  rw [hother, List.inj_on_of_nodup_map hv.table.ids (mem_occupants.2 ⟨i, hi⟩) hmem hid]

section Cards

variable {state state' : ActiveGameplayAggregateState} {current : GameplayPlayerState}
  {nowMs : ℤ} {events : List GameplayDomainEvent} {deck : CardDeck} {cardId : ℕ}
  {rng : RandomCheckpoint} {resolution : CardResolution}

/-- The events of a card announce its delta, the movement included. -/
theorem announcedCash_card (hv : ValidActive state) (hc : IsCurrent state current)
    (hres : resolveCard deck cardId current.toCard (occupants state.players).length
      = .ok resolution) :
    announcedCash state.toGameplayAggregateStateBase
        [.cardDrawn current.playerId deck resolution.card.id resolution.card.effect]
      = resolution.cashDelta ∧
    announcedCash state.toGameplayAggregateStateBase
        (cardEvents current.playerId deck resolution) = resolution.cashDelta := by
  have hid := (resolveCard_eq_ok hres).2.2
  have hcash : cardCash state.toGameplayAggregateStateBase current.playerId deck resolution.card.id
      = resolution.cashDelta := by
    simp only [cardCash, gameplayPlayerById_of_slot hv hc.1, hid, hres]
  constructor
  · simp [announcedCash, drawnCard, hcash, eventCash]
  · unfold cardEvents
    cases resolution.movement <;> simp [announcedCash, drawnCard, hcash, eventCash]

theorem CardStep.cash (h : CardStep state current nowMs deck rng resolution state' events)
    (hv : ValidActive state) (hc : IsCurrent state current)
    (hres : resolveCard deck cardId current.toCard (occupants state.players).length
      = .ok resolution) :
    totalCash state'.toGameplayAggregateStateBase =
      totalCash state.toGameplayAggregateStateBase
        + announcedCash state.toGameplayAggregateStateBase events := by
  obtain ⟨hone, hall⟩ := announcedCash_card hv hc hres
  have hcash : resolution.state.cash = current.cash + resolution.cashDelta :=
    (resolveCard_eq_ok hres).1.cash_eq
  have htotal : total (fun player => player.cash) (updateSlot state.turn.currentSeatIndex
      (fun player => player.withCard resolution.state) state.players)
      = total (fun player => player.cash) state.players + resolution.cashDelta := by
    rw [total_updated hc]
    simp only [GameplayPlayerState.withCard, hcash]
    ring
  cases h with
  | bankruptcy _ htime =>
    rw [hone]
    simp only [totalCash, afterCard, htotal]
    ring
  | continued turn _ hturn =>
    rw [hall]
    simp only [totalCash, afterCard, htotal]
    ring

end Cards

/-! ### Elimination, timers and trades -/

section Outcomes

variable {state : ActiveGameplayAggregateState} {state' : GameplayAggregateState}
  {current : GameplayPlayerState} {nowMs : ℤ} {events : List GameplayDomainEvent}

/-- Elimination moves the cash of the seat to the bank and mints the liquidation value. -/
theorem Eliminated.cash {seat : ℕ} {players : List (Option GameplayPlayerState)}
    {player : GameplayPlayerState} {resolution : BankruptcyResolution}
    (h : Eliminated state seat players player resolution) :
    total (fun player => player.cash) (updateSlot seat GameplayPlayerState.eliminate players)
        + resolution.bankCash
      = total (fun player => player.cash) players + state.bankCash
        + resolution.liquidationValue := by
  have hcash : player.eliminate.cash = 0 := rfl
  rw [total_updateSlot h.slot, h.bank_eq, hcash]
  ring

theorem announcedCash_endEvents (base : GameplayAggregateStateBase) (gameId : String)
    (reason : TerminalEndReason) (winner : GameplayPlayerState)
    (ranking : List GameEndRankingEntry) :
    announcedCash base (endEvents gameId reason winner ranking) = 0 := by
  simp [announcedCash, endEvents, drawnCard, eventCash, salaryOf]

theorem BankruptcyStep.cash {resolution : BankruptcyResolution}
    (h : BankruptcyStep state current nowMs resolution state' events)
    (helim : Eliminated state state.turn.currentSeatIndex state.players current resolution) :
    totalCash state'.base = totalCash state.toGameplayAggregateStateBase
      + announcedCash state.toGameplayAggregateStateBase events := by
  have hcash := helim.cash
  cases h with
  | continued turn hend hpass =>
    simp only [GameplayAggregateState.base, totalCash, afterElimination, announcedCash, drawnCard]
    simp [eventCash, salaryOf]
    omega
  | finished terminal winner ranking hend hterm hwinner hranking =>
    simp only [GameplayAggregateState.base, totalCash, finishedElimination, finishState,
      announcedCash, drawnCard, endEvents]
    simp [eventCash, salaryOf]
    omega

/-- Missing a turn costs no cash. -/
theorem total_afterMissedTurn (missedTurns : ℕ) :
    total (fun player => player.cash) (afterMissedTurn state missedTurns)
      = total (fun player => player.cash) state.players := by
  unfold afterMissedTurn updateSlot
  refine total_mapSlots_of_eq fun i p _ => ?_
  split_ifs <;> rfl

theorem TimeoutStep.cash {command : GameplayTimeoutCommand}
    (h : TimeoutStep state current nowMs command state' events) :
    totalCash state'.base = totalCash state.toGameplayAggregateStateBase
      + announcedCash state.toGameplayAggregateStateBase events := by
  cases h with
  | timeLimit gameEndAtMs terminal winner ranking hend hle hterm hwinner hranking =>
    rw [announcedCash_endEvents]
    simp [GameplayAggregateState.base, totalCash, finishState]
  | warning _ seconds turn _ hwarn =>
    simp [GameplayAggregateState.base, totalCash, announcedCash, drawnCard, eventCash, salaryOf]
  | turnAdvanced turn next hdeadline hlt hpass hslot =>
    simp only [GameplayAggregateState.base, totalCash, total_afterMissedTurn, announcedCash,
      drawnCard]
    simp [eventCash, salaryOf]
  | forfeitContinued bankruptcy nextSeat next hdeadline htwo helim hend hseat htime hslot =>
    have hcash := helim.cash
    rw [total_afterMissedTurn] at hcash
    simp only [GameplayAggregateState.base, totalCash, afterElimination, announcedCash, drawnCard,
      forfeitEvents]
    simp [eventCash, salaryOf]
    omega
  | forfeitFinished bankruptcy terminal winner ranking hdeadline htwo helim hend hterm hwinner
      hranking =>
    have hcash := helim.cash
    rw [total_afterMissedTurn] at hcash
    simp only [GameplayAggregateState.base, totalCash, finishedElimination, finishState,
      announcedCash, drawnCard, forfeitEvents, endEvents]
    simp [eventCash, salaryOf]
    omega

/-- The expiry of trades announces nothing. -/
theorem announcedCash_expired (base : GameplayAggregateStateBase) (expired : List String)
    (event : GameplayDomainEvent) :
    announcedCash base (expired.map .tradeExpired ++ [event]) = announcedCash base [event] := by
  have hdrawn : drawnCard (expired.map .tradeExpired ++ [event]) = drawnCard [event] := by
    induction expired with
    | nil => rfl
    | cons id rest ih => exact ih
  simp only [announcedCash, hdrawn, List.map_append, List.map_map, Function.comp_def, salaryOf,
    eventCash, List.sum_append]
  simp

/-- A settlement moves cash between its two parties. -/
theorem Settleable.cash {tradeId : String} {trade : PendingTrade}
    {proposer receiver : GameplayPlayerState}
    (h : Settleable state tradeId nowMs trade proposer receiver) :
    total (fun player => player.cash) (mapSlots (fun index player =>
        { player with cash := settledCash trade proposer receiver index player.cash })
        state.players) = total (fun player => player.cash) state.players := by
  rw [total_mapSlots_pair (w := fun player : GameplayPlayerState => player.cash) h.seats_ne
    h.proposer_slot h.receiver_slot]
  · simp only [settledCash, if_true, if_neg (Ne.symm h.seats_ne)]
    ring
  · intro i p h₁ h₂ _
    simp [settledCash, h₁, h₂]

theorem TradeStep.cash {command : GameplayTradeCommand} {active : ActiveGameplayAggregateState}
    (h : TradeStep state nowMs command active events) :
    totalCash active.toGameplayAggregateStateBase = totalCash state.toGameplayAggregateStateBase
      + announcedCash state.toGameplayAggregateStateBase events := by
  cases h with
  | cleanup trades expired hsub hne =>
    have hdrawn : drawnCard (expired.map .tradeExpired) = none := by
      simp [drawnCard, List.findSome?_map, Function.comp_def]
    simp only [totalCash, withBook, announcedCash, hdrawn, List.map_map, Function.comp_def,
      salaryOf, eventCash]
    simp
  | created receiverId proposerId terms trades trade expired hsub hvalid =>
    rw [announcedCash_expired]
    simp [totalCash, withBook, announcedCash, drawnCard, eventCash, salaryOf]
  | accepted tradeId trades trade proposer receiver expired hsub hreceiver hs =>
    rw [announcedCash_expired]
    simp only [totalCash, afterSettlement, withBook, hs.cash]
    simp [announcedCash, drawnCard, eventCash, salaryOf]
  | rejected tradeId rejecterId trades trade expired hsub =>
    rw [announcedCash_expired]
    simp [totalCash, withBook, announcedCash, drawnCard, eventCash, salaryOf]
  | cancelled tradeId cancellerId trades trade expired hsub =>
    rw [announcedCash_expired]
    simp [totalCash, withBook, announcedCash, drawnCard, eventCash, salaryOf]

end Outcomes

/-! ### Every command -/

section Accepted

variable {state : ActiveGameplayAggregateState} {state' : GameplayAggregateState}
  {body : GameplayCommandBody} {context : GameplayCommandContext}
  {events : List GameplayDomainEvent}

theorem not_unpayableThirdRoll (h : ∀ command, body ≠ .turn command) :
    ¬ UnpayableThirdRoll state body context := by
  rintro ⟨hroll | hroll, -⟩
  · exact h _ hroll
  · exact h _ hroll

/-- An unpaid sum of an accepted roll is the mark of the unpayable third roll. -/
theorem unpaidCash_pos_iff {command : GameplayTurnCommand} {current : GameplayPlayerState}
    {dice : DiceRoll} {rng : RandomCheckpoint} (hv : ValidActive state)
    (hc : IsCurrent state current) (hcommand : command ≠ .endTurn)
    (hdraw : drawGameplayDice state context.randomSource = .ok (dice, rng)) :
    0 < unpaidCash current dice ↔ UnpayableThirdRoll state (.turn command) context := by
  have hrules := hc.rules hv
  constructor
  · intro hpos
    unfold unpaidCash at hpos
    split_ifs at hpos with hunpayable
    · obtain ⟨hin, hno, hge, hlt⟩ := hunpayable
      have hjail := hrules.jail
      simp only [JailCoupled, hin, if_true] at hjail
      refine ⟨?_, current, dice, rng, hc, hin, by omega, hpos, hlt, hdraw, hno⟩
      cases command with
      | endTurn => exact absurd rfl hcommand
      | rollDice => exact .inl rfl
      | resolveRandomDice => exact .inr rfl
    · exact absurd hpos (lt_irrefl 0)
  · rintro ⟨-, current', dice', rng', hc', hin, htwo, hpos, hlt, hdraw', hno⟩
    obtain rfl := hc.unique hc'
    rw [hdraw] at hdraw'
    cases hdraw'
    rw [unpaidCash, if_pos ⟨hin, hno, htwo.ge, hlt⟩]
    exact hpos

/-- Outside the unpayable third roll the books balance; in it they do not. -/
theorem GameplayStep.cash (h : GameplayStep state context body state' events)
    (hv : ValidActive state) :
    totalCash state'.base - totalCash state.toGameplayAggregateStateBase
        = announcedCash state.toGameplayAggregateStateBase events ↔
      ¬ UnpayableThirdRoll state body context := by
  have hbalanced : totalCash state'.base = totalCash state.toGameplayAggregateStateBase
      + announcedCash state.toGameplayAggregateStateBase events →
      ¬ UnpayableThirdRoll state body context →
      (totalCash state'.base - totalCash state.toGameplayAggregateStateBase
        = announcedCash state.toGameplayAggregateStateBase events ↔
        ¬ UnpayableThirdRoll state body context) :=
    fun hcash hnot => iff_of_true (by omega) hnot
  cases h with
  | turn command current active _ hc hstep =>
    cases hstep with
    | endTurn turn hphase hpass =>
      refine hbalanced ?_ (fun ⟨hroll, _⟩ => by simp at hroll)
      have htotal : total (fun player => player.cash) (updateSlot state.turn.currentSeatIndex
          (fun player => { player with consecutiveDoubles := 0 }) state.players)
          = total (fun player => player.cash) state.players := by
        rw [total_updated hc]
        ring
      simp [GameplayAggregateState.base, totalCash, htotal, announcedCash, drawnCard]
    | roll _ dice rng _ _ hcommand hphase hdraw hroll =>
      have hcash := hroll.cash hc
      have hpos := unpaidCash_pos_iff hv hc hcommand hdraw
      have h0 : 0 ≤ unpaidCash current dice := by
        unfold unpaidCash
        split_ifs
        · exact (hc.rules hv).cash.1
        · exact le_rfl
      rw [← hpos, GameplayAggregateState.base]
      omega
  | property command current active _ hnone hc hstep =>
    exact hbalanced (hstep.cash hc) (not_unpayableThirdRoll (by simp))
  | jail command current active _ hphase hc hstep =>
    exact hbalanced (hstep.cash hc) (not_unpayableThirdRoll (by simp))
  | card command current cardId rng resolution active _ hphase hc hdraw hres hstep =>
    exact hbalanced (hstep.cash hv hc hres) (not_unpayableThirdRoll (by simp))
  | bankruptcy current resolution _ _ hphase hc helim hstep =>
    exact hbalanced (hstep.cash helim) (not_unpayableThirdRoll (by simp))
  | trade command active _ hnone hstep =>
    exact hbalanced hstep.cash (not_unpayableThirdRoll (by simp))
  | timeout command current _ _ hactor hnone hlimit hc hstep =>
    exact hbalanced hstep.cash (not_unpayableThirdRoll (by simp))

end Accepted

/-- The cash of a game moves by what the events of an accepted command announce, exactly outside
the unpayable third roll. -/
theorem cash_accounted_iff (state : ActiveGameplayAggregateState) (command : GameplayCommand)
    (context : GameplayCommandContext) (state' : GameplayAggregateState)
    (events : List GameplayDomainEvent)
    (h : transitionGameplay (.inProgress state) command context = .ok (state', events)) :
    totalCash state'.base - totalCash state.toGameplayAggregateStateBase
        = announcedCash state.toGameplayAggregateStateBase events ↔
      ¬ UnpayableThirdRoll state command.body context := by
  obtain ⟨hadm, hstep⟩ := transitionGameplay_step h
  exact hstep.cash hadm.valid

/-- The books of the first roll. -/
theorem cash_accounted_iff_firstRoll : ∃ state state' events,
    twoPlayerGame [] = some (.inProgress state) ∧
    transitionGameplay (.inProgress state) (rolls 1 2 1 10).1 (rolls 1 2 1 10).2
      = .ok (state', events) ∧
    (totalCash state'.base - totalCash state.toGameplayAggregateStateBase
        = announcedCash state.toGameplayAggregateStateBase events ↔
      ¬ UnpayableThirdRoll state (rolls 1 2 1 10).1.body (rolls 1 2 1 10).2) := by
  obtain ⟨state, state', events, hstart, hok, -⟩ := exists_of_acceptedWith
    (twoPlayerGame []) (rolls 1 2 1 10) (fun _ _ _ => true) (by decide +kernel)
  exact ⟨state, state', events, hstart, hok, cash_accounted_iff state _ _ state' events hok⟩

/-- Alice in jail for her third turn, with 30 left of her cash. -/
def jailedDebtor : Option GameplayAggregateState :=
  (initializeGameplayAggregate twoPlayerLobby).map fun state => .inProgress { state with
    players := updateSlot 0 (fun player =>
      { player with cash := 30, position := 10, inJail := true, jailTurns := 2 }) state.players }

/-- Her third roll, no doubles, takes the 30 and announces nothing. -/
theorem not_cash_accounted : ¬ ∀ (state : ActiveGameplayAggregateState)
    (command : GameplayCommand) (context : GameplayCommandContext)
    (state' : GameplayAggregateState) (events : List GameplayDomainEvent),
    isValidActiveGameplayAggregateState state = true →
    transitionGameplay (.inProgress state) command context = .ok (state', events) →
    totalCash state'.base - totalCash state.toGameplayAggregateStateBase
      = announcedCash state.toGameplayAggregateStateBase events := by
  intro h
  obtain ⟨state, state', events, -, hok, hcheck⟩ := exists_of_acceptedWith jailedDebtor
    (rolls 1 2 1 10)
    (fun state state' events => isValidActiveGameplayAggregateState state &&
      !decide (totalCash state'.base - totalCash state.toGameplayAggregateStateBase
        = announcedCash state.toGameplayAggregateStateBase events)) (by decide +kernel)
  simp only [Bool.and_eq_true, Bool.not_eq_true', decide_eq_false_iff_not] at hcheck
  exact hcheck.2 (h state _ _ state' events hcheck.1 hok)

end Pootown
