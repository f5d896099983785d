import Mathlib.Tactic
import Pootown.Contracts.GameplayEvents
import Pootown.Server.PublicState
import Pootown.Server.RequestIds

/-!
# The published events of a game

Before a command is committed its events are put into text, numbered under the request id, and held
to the schema of the contract: an event that the schema refused would lose a command that the rules
have accepted.

* `publicEvents`: the envelopes of the events of a command, or why there are none;
* `Publishable`: an event that has an envelope; one lemma for each kind of step;
* `events_published`: every event of every accepted command is published, and no command has more
  events than an acknowledgement has room for.
-/

namespace Pootown.Server

open Contracts Fallible Runs Slots

/-! ### Publication -/

def wireRanking (entry : GameEndRankingEntry) : RankingEntryPublicState :=
  ⟨entry.rank, entry.seatIndex, entry.playerId, toString entry.netWorth⟩

/-- An event in text. -/
def wirePayload : GameplayDomainEvent → GameplayEventPayload
  | .diceRolled playerId dice => .diceRolled playerId (publicDice dice)
  | .playerMoved playerId fromPosition toPosition passedGo salaryCollected =>
    .playerMoved playerId fromPosition toPosition passedGo (toString salaryCollected)
  | .jailEntered playerId reason => .jailEntered playerId reason
  | .jailExited playerId method => .jailExited playerId method
  | .cardDrawn playerId deck cardId effect => .cardDrawn playerId deck cardId effect
  | .propertyPurchased playerId position price =>
    .propertyPurchased playerId position (toString price)
  | .propertyDeclined playerId position price =>
    .propertyDeclined playerId position (toString price)
  | .rentPaid payerId ownerId position amount =>
    .rentPaid payerId ownerId position (toString amount)
  | .buildingBuilt playerId position buildingType houseCount cost =>
    .buildingBuilt playerId position buildingType houseCount (toString cost)
  | .buildingSold playerId position buildingType salePrice =>
    .buildingSold playerId position buildingType (toString salePrice)
  | .taxPaid playerId position taxKind amount =>
    .taxPaid playerId position taxKind (toString amount)
  | .playerBankrupt playerId creditorId liquidationValue cashTransferred =>
    .playerBankrupt playerId creditorId (toString liquidationValue) (toString cashTransferred)
  | .gameEnded reason winnerId ranking => .gameEnded reason winnerId (ranking.map wireRanking)
  | .settlementEntitled winnerId reason entitlementKey =>
    .settlementEntitled winnerId reason entitlementKey
  | .tradeCreated tradeId proposerId receiverId terms expiresAtMs =>
    .tradeCreated tradeId proposerId receiverId (publicTerms terms) expiresAtMs
  | .tradeAccepted tradeId proposerId receiverId => .tradeAccepted tradeId proposerId receiverId
  | .tradeRejected tradeId rejecterId => .tradeRejected tradeId rejecterId
  | .tradeCancelled tradeId cancellerId => .tradeCancelled tradeId cancellerId
  | .tradeExpired tradeId => .tradeExpired tradeId
  | .timeoutWarning playerId remainingSeconds => .timeoutWarning playerId remainingSeconds
  | .timeoutPenalty playerId missedTurns => .timeoutPenalty playerId missedTurns
  | .forcedTurnEnd timedOutPlayerId nextPlayerId => .forcedTurnEnd timedOutPlayerId nextPlayerId
  | .timeoutForfeit playerId totalMissedTurns => .timeoutForfeit playerId totalMissedTurns

/-- Why the events of a command are not published: the handler throws, or the schema refuses. -/
inductive EventError
  | thrown (error : ServerError)
  | schema

def publicPayload (state : GameplayAggregateState) (event : GameplayDomainEvent) :
    Except EventError GameplayEventPayload := do
  let named ← (gameplayPayload state event).mapError .thrown
  require (wirePayload named).Conforms .schema
  return wirePayload named

/-- The envelope of the event number `index`. -/
def envelope (state : GameplayAggregateState) (requestId : String) (occurredAtMs : ℤ) (index : ℕ)
    (payload : GameplayEventPayload) : GameplayDomainEventEnvelope where
  eventId := eventId requestId index
  gameId := state.base.gameId
  stateVersion := state.base.stateVersion
  occurredAtMs := occurredAtMs
  payload := payload

def publicEvents (events : List GameplayDomainEvent) (state : GameplayAggregateState)
    (requestId : String) (occurredAtMs : ℤ) :
    Except EventError (List GameplayDomainEventEnvelope) :=
  events.zipIdx.mapM fun entry => do
    let payload ← publicPayload state entry.1
    let message := envelope state requestId occurredAtMs entry.2 payload
    require message.Conforms .schema
    return message

/-- The event is published as it stands, next to the state it led to. -/
structure Publishable (state : GameplayAggregateState) (event : GameplayDomainEvent) : Prop where
  named : gameplayPayload state event = .ok event
  conforms : (wirePayload event).Conforms

/-! ### Cards -/

/-- An accepted resolution is of a card of the deck. -/
theorem resolveCard_mem {deck : CardDeck} {cardId playerCount : ℕ} {state : CardPlayerState}
    {resolution : CardResolution}
    (h : resolveCard deck cardId state playerCount = .ok resolution) :
    resolution.card ∈ cardsOf deck := by
  simp only [resolveCard, bind_eq_ok, require_eq_ok, requireSome_eq_ok, exists_const] at h
  obtain ⟨-, -, card, hfind, h⟩ := h
  have hmem := List.mem_of_find?_eq_some hfind
  -- whatever the effect does, the resolution names the card that was found
  suffices hsame : resolution.card = card by rw [hsame]; exact hmem
  cases heffect : card.effect <;>
    simp only [heffect, ite_eq_ok, resolveCredit, resolveMovement, bind_eq_ok, require_eq_ok,
      requireSome_eq_ok, exists_const, pure_eq_ok] at h
  case money =>
    obtain ⟨-, _, -, rfl⟩ | ⟨-, rfl⟩ := h
    · rfl
    · unfold resolveDebit
      split <;> rfl
  case move =>
    obtain ⟨_, -, _, -, rfl⟩ := h
    rfl
  case getOutOfJailFree =>
    obtain ⟨-, rfl⟩ := h
    rfl
  case collectFromPlayers =>
    obtain ⟨_, -, rfl⟩ := h
    rfl
  case moveToNearest =>
    obtain ⟨_, -, _, -, rfl⟩ := h
    rfl
  case repairFree =>
    subst h
    rfl

/-- The schema knows the effect of every card. -/
theorem cardEffects_of_mem {deck : CardDeck} {card : CardDefinition} (h : card ∈ cardsOf deck) :
    (1 ≤ card.id ∧ card.id ≤ 5) ∧ (cardEffects deck)[card.id - 1]? = some card.effect := by
  have hall : ∀ deck : CardDeck, ∀ card ∈ cardsOf deck,
      (1 ≤ card.id ∧ card.id ≤ 5) ∧ (cardEffects deck)[card.id - 1]? = some card.effect := by
    intro deck
    cases deck <;> decide
  exact hall deck card h

/-! ### One kind of step after the other -/

section Steps

variable {state state' : ActiveGameplayAggregateState} {next : GameplayAggregateState}
  {current : GameplayPlayerState} {nowMs : ℤ} {events : List GameplayDomainEvent}
  (hv : ValidActive state) (hc : IsCurrent state current)

theorem isOpaqueId_of_slot {players : List (Option GameplayPlayerState)}
    {properties : List PropertyState} {inventory : BuildingInventory} {bankCash startedAtMs : ℤ}
    {seat : ℕ} {player : GameplayPlayerState}
    (h : ValidTable players properties inventory bankCash startedAtMs)
    (hslot : slotAt players seat = some player) : IsOpaqueId player.playerId :=
  (h.player seat player hslot).slot.2.1

theorem isCashString_small {amount : ℤ} (h : 0 ≤ amount) (hle : amount ≤ 1000000) :
    IsCashString (toString amount) :=
  isCashString_toString ⟨h, by simp only [maxMatchCash]; omega⟩

theorem isCashString_salary (passedGo : Bool) :
    IsCashString (toString (if passedGo then 200 else 0 : ℤ)) := by
  cases passedGo
  · exact isCashString_small (by decide) (by decide)
  · exact isCashString_small (by decide) (by decide)

/-- The event that reports a movement from the current position. -/
theorem playerMoved_publishable {movement : MovementResult} {salary : ℤ} (hv : ValidActive state)
    (hc : IsCurrent state current) (hfrom : movement.fromPosition = current.position)
    (hto : movement.toPosition < 40) (hsalary : IsCashString (toString salary)) :
    Publishable next (.playerMoved current.playerId movement.fromPosition movement.toPosition
      movement.passedGo salary) := by
  have hposition := (hv.table.player _ _ hc.1).rules.position_lt
  simp only [GameplayPolicy.boardSize] at hposition
  exact ⟨rfl, isOpaqueId_of_slot hv.table hc.1, by rw [hfrom]; exact Nat.le_of_lt_succ hposition,
    Nat.le_of_lt_succ hto, hsalary⟩

include hv hc

theorem RollStep.publishable {dice : DiceRoll} {rng : RandomCheckpoint}
    (h : RollStep state current nowMs dice rng state' events) (hdice : ValidDice dice) :
    ∀ event ∈ events, Publishable next event := by
  have hid : IsOpaqueId current.playerId := isOpaqueId_of_slot hv.table hc.1
  have hrolled : Publishable next (.diceRolled current.playerId dice) :=
    ⟨rfl, hid, publicDice_conforms hdice⟩
  cases h with
  | jailRemains turn hin hno hlt hpass => simpa using hrolled
  | jailBankruptcy hin hno hge hcash htime => simpa using hrolled
  | jailRelease cash method movement turn hin hpay hmove hturn =>
    obtain ⟨hfrom, hto⟩ := moveBy_eq_some hmove
    have hmoved : Publishable next _ := playerMoved_publishable hv hc hfrom hto
      (isCashString_toString isMatchCash_zero)
    rw [List.forall_mem_cons, List.forall_mem_cons, List.forall_mem_singleton]
    exact ⟨hrolled, ⟨rfl, hid⟩, hmoved⟩
  | threeDoubles turn hin htwo hdoubles hpass =>
    rw [List.forall_mem_cons, List.forall_mem_singleton]
    exact ⟨hrolled, ⟨rfl, hid⟩⟩
  | goToJail cash movement turn hin hmove hcash hmax hpass =>
    obtain ⟨hfrom, hto⟩ := moveBy_eq_some hmove
    rw [List.forall_mem_cons, List.forall_mem_cons, List.forall_mem_singleton]
    exact ⟨hrolled, playerMoved_publishable hv hc hfrom hto (isCashString_salary _), ⟨rfl, hid⟩⟩
  | moved cash movement doubles turn hin hdoubles hmove hcash hmax hturn =>
    obtain ⟨hfrom, hto⟩ := moveBy_eq_some hmove
    rw [List.forall_mem_cons, List.forall_mem_singleton]
    exact ⟨hrolled, playerMoved_publishable hv hc hfrom hto (isCashString_salary _)⟩

theorem TurnStep.publishable {randomSource : RandomSource} {command : GameplayTurnCommand}
    (h : TurnStep state current nowMs randomSource command state' events) :
    ∀ event ∈ events, Publishable next event := by
  cases h with
  | endTurn turn hphase hpass => simp
  | roll _ dice rng _ _ hne hphase hdraw hstep =>
    exact RollStep.publishable hv hc hstep (drawGameplayDice_eq_ok hdraw).1

theorem JailStep.publishable (h : JailStep state current nowMs state' events) :
    ∀ event ∈ events, Publishable next event := by
  cases h with
  | bankruptcy hcash htime => simp
  | released cash cards method turn hin hmethod hpass =>
    have hreleased : Publishable next (.jailExited current.playerId method) :=
      ⟨rfl, isOpaqueId_of_slot hv.table hc.1⟩
    simpa using hreleased

theorem building_publishable {action : BuildingAction} {position : ℕ}
    (h : transitionBuilding state current action position nowMs = .ok (state', events)) :
    ∀ event ∈ events, Publishable next event := by
  simp only [transitionBuilding, bind_eq_ok, requireSome_eq_ok] at h
  obtain ⟨turn, -, h⟩ := h
  split at h
  · cases h
  next result hresult =>
    simp only [bind_eq_ok, requireSome_eq_ok, pure_eq_ok, Prod.mk.injEq] at h
    obtain ⟨property, hp, rfl, rfl⟩ := h
    have hchange := (BuildingAction.apply_eq_ok hresult).1
    have hvalid := (isValidBuildingInventory_iff.1 hchange.valid).1
    obtain ⟨definition, hd, hentry⟩ := exists_definition hvalid hp
    have hposition : IsBoardPosition position := Nat.le_of_lt_succ (lt_of_boardSpace hd)
    have hle := hchange.amount_le
    have hamount := isCashString_small hchange.amount_nonneg (by omega)
    have hid : IsOpaqueId current.playerId := isOpaqueId_of_slot hv.table hc.1
    rw [List.forall_mem_singleton]
    cases action with
    | build buildingType => exact ⟨rfl, hid, hposition, hentry.houses_le, hamount⟩
    | sell buildingType => exact ⟨rfl, hid, hposition, hamount⟩

/-- The events of the two answers to a landing on a free space. -/
theorem decision_publishable {position : ℕ} {turn : ActiveGameplayAggregateTurn} {price : ℤ}
    (hcheck : checkPropertyDecision state position nowMs = .ok (turn, price)) :
    Publishable next (.propertyDeclined current.playerId position price) ∧
      Publishable next (.propertyPurchased current.playerId position price) := by
  obtain ⟨property, definition, lastDice, -, -, -, -, hd, -, -, rfl, -⟩ :=
    checkPropertyDecision_eq_ok hcheck
  have hid : IsOpaqueId current.playerId := isOpaqueId_of_slot hv.table hc.1
  have hposition : IsBoardPosition position := Nat.le_of_lt_succ (lt_of_boardSpace hd)
  have hle := (boardSpace_bounds hd).1
  have hprice := isCashString_small (Int.natCast_nonneg definition.price) (by omega)
  exact ⟨⟨rfl, hid, hposition, hprice⟩, ⟨rfl, hid, hposition, hprice⟩⟩

/-- The events of a payment that is due. -/
theorem payment_publishable (h : PropertyStep state current nowMs state' events)
    (hdue : (∃ position, state.turn.phase = .awaitingRentPayment position) ∨
      ∃ taxKind, state.turn.phase = .awaitingTaxPayment taxKind) :
    ∀ event ∈ events, Publishable next event := by
  have hid : IsOpaqueId current.playerId := isOpaqueId_of_slot hv.table hc.1
  cases h with
  | decline position price lastDice hphase hdice htime => simp [hphase] at hdue
  | buy position property definition lastDice hphase hdice htime hp hd howner hown hle =>
    simp [hphase] at hdue
  | building action position property result hphase htime happly =>
    obtain hphase | hphase := hphase <;> simp [hphase] at hdue
  | bankruptcy _ htime => simp
  | rent position ownerSeat owner amount lastDice hphase hdice htime hslot hactive hne hrent hle
      hmax =>
    obtain ⟨-, -, -, hpayload⟩ := hv.turn.turn_valid
    rw [hphase] at hpayload
    have hrange := calculateRent_le hrent
    rw [List.forall_mem_singleton]
    exact ⟨rfl, hid, isOpaqueId_of_slot hv.table hslot, Nat.le_of_lt_succ (hpayload position rfl),
      isCashString_small (calculateRent_nonneg hrent) (by omega)⟩
  | tax taxKind lastDice hphase hdice htime hle =>
    rw [List.forall_mem_singleton]
    refine ⟨rfl, hid, ?_, ?_⟩
    · cases taxKind <;> simp [TaxKind.position]
    · cases taxKind <;> exact isCashString_small (by decide) (by decide)

omit hv hc in
theorem property_publishable {command : GameplayPropertyCommand} {expected : ℤ}
    {context : GameplayCommandContext}
    (h : transitionGameplayProperty state command expected context = .ok (state', events)) :
    ∀ event ∈ events, Publishable next event := by
  simp only [transitionGameplayProperty, bind_eq_ok, require_eq_ok, requireSome_eq_ok,
    exists_const, checkCommand_eq_ok, activeGameplayPlayer_eq_some] at h
  obtain ⟨⟨-, hadm⟩, current, hc, -, -, h⟩ := h
  have hv := hadm.valid
  cases command with
  | declineProperty position =>
    simp only [transitionDeclineProperty, bind_eq_ok, pure_eq_ok, Prod.exists, Prod.mk.injEq] at h
    obtain ⟨turn, price, hcheck, rfl, rfl⟩ := h
    rw [List.forall_mem_singleton]
    exact (decision_publishable hv hc hcheck).1
  | buyProperty position =>
    simp only [transitionBuyProperty, bind_eq_ok, requireSome_eq_ok, pure_eq_ok, Prod.exists,
      Prod.mk.injEq] at h
    obtain ⟨turn, price, hcheck, _, -, rfl, rfl⟩ := h
    rw [List.forall_mem_singleton]
    exact (decision_publishable hv hc hcheck).2
  | payRent position =>
    refine payment_publishable hv hc (transitionPayRent_step hc hv h) (.inl ⟨position, ?_⟩)
    simp only [transitionPayRent, bind_eq_ok, require_eq_ok, exists_const] at h
    exact h.1
  | payMevTax =>
    refine payment_publishable hv hc (transitionPayTax_step hc hv h) (.inr ⟨.mev, ?_⟩)
    simp only [transitionPayTax, bind_eq_ok, require_eq_ok, exists_const] at h
    exact h.1
  | payPriorityFeeTax =>
    refine payment_publishable hv hc (transitionPayTax_step hc hv h) (.inr ⟨.priorityFee, ?_⟩)
    simp only [transitionPayTax, bind_eq_ok, require_eq_ok, exists_const] at h
    exact h.1
  | buildHouse position => exact building_publishable hv hc h
  | buildHotel position => exact building_publishable hv hc h
  | sellBuilding position buildingType => exact building_publishable hv hc h

theorem CardStep.publishable {deck : CardDeck} {cardId playerCount : ℕ} {rng : RandomCheckpoint}
    {resolution : CardResolution}
    (hres : resolveCard deck cardId current.toCard playerCount = .ok resolution)
    (h : CardStep state current nowMs deck rng resolution state' events) :
    ∀ event ∈ events, Publishable next event := by
  have hid : IsOpaqueId current.playerId := isOpaqueId_of_slot hv.table hc.1
  have hdrawn : Publishable next
      (.cardDrawn current.playerId deck resolution.card.id resolution.card.effect) :=
    ⟨rfl, hid, cardEffects_of_mem (resolveCard_mem hres)⟩
  cases h with
  | bankruptcy hbank htime => simpa using hdrawn
  | continued turn hbank hturn =>
    unfold cardEvents
    cases hmove : resolution.movement with
    | none => simpa using hdrawn
    | some movement =>
      obtain ⟨heffect, -, -⟩ := resolveCard_eq_ok hres
      obtain ⟨hfrom, hto, -⟩ := heffect.moves movement hmove
      show ∀ event ∈ [_, _], Publishable next event
      rw [List.forall_mem_cons, List.forall_mem_singleton]
      exact ⟨hdrawn, playerMoved_publishable hv hc hfrom (hto ▸ heffect.position_lt)
        (isCashString_salary _)⟩

theorem bankrupt_publishable {seat : ℕ} {players : List (Option GameplayPlayerState)}
    {player : GameplayPlayerState} {resolution : BankruptcyResolution}
    (helim : Eliminated state seat players player resolution) (hcash : IsMatchCash current.cash) :
    Publishable next
      (.playerBankrupt current.playerId none resolution.liquidationValue current.cash) := by
  refine ⟨rfl, isOpaqueId_of_slot hv.table hc.1, by simp, ?_, isCashString_toString hcash⟩
  have hle := helim.value_le
  exact isCashString_small helim.value_nonneg (by omega)

omit hv hc in
theorem isEntitlementKey_of_id {id : String} (h : IsOpaqueId id) : isEntitlementKey id = true := by
  unfold IsOpaqueId validOpaqueId at h
  unfold isEntitlementKey
  cases hchars : id.toList with
  | nil => simp [hchars] at h
  | cons c cs =>
    simp only [hchars, Bool.and_eq_true, decide_eq_true_eq, List.all_eq_true] at h ⊢
    exact ⟨⟨h.1.1, h.1.2⟩, fun c hc => by simp [h.2 c hc]⟩

omit hv hc in
/-- The final ranking in the words of an event. -/
theorem eventRanking_eq {players : List (Option GameplayPlayerState)}
    {entries : List TerminalRankingEntry} {ranking : List GameEndRankingEntry}
    (h : eventRanking players entries = some ranking) :
    ranking = entries.map fun entry =>
      ⟨entry.rank, entry.seatIndex, entry.netWorth, nameAt players entry.seatIndex⟩ := by
  induction entries generalizing ranking with
  | nil =>
    cases h
    rfl
  | cons entry rest ih =>
    unfold eventRanking at h ih
    rw [List.mapM_cons] at h
    obtain ⟨first, hfirst, h⟩ := Option.bind_eq_some_iff.1 h
    obtain ⟨others, hothers, h⟩ := Option.bind_eq_some_iff.1 h
    obtain ⟨player, hslot, rfl⟩ := Option.map_eq_some_iff.1 hfirst
    cases h
    rw [List.map_cons, ih hothers, nameAt_of_slot hslot]

omit hv hc in
/-- The two events that end a game, next to the finished game. -/
theorem end_publishable {finished : FinishedGameplayAggregateState} (h : ValidFinished finished)
    {winner : GameplayPlayerState} {ranking : List GameEndRankingEntry} {reason : TerminalEndReason}
    (hwinner : terminalWinner finished.players finished.terminal = some winner)
    (hranking : eventRanking finished.players finished.terminal.ranking = some ranking) :
    ∀ event ∈ endEvents finished.gameId reason winner ranking,
      Publishable (.finished finished) event := by
  obtain ⟨hslot, -⟩ := Option.filter_eq_some_iff.1 hwinner
  have hid : IsOpaqueId winner.playerId := isOpaqueId_of_slot h.table hslot
  obtain ⟨first, rest, hhead, -, -⟩ := ranking_head h
  have hfits := (Snapshot.fits_of_valid
    (show isValidGameplayAggregateState (.finished finished) = true from
      isValidFinished_iff.2 h)).2
  obtain rfl := eventRanking_eq hranking
  rw [endEvents, List.forall_mem_cons, List.forall_mem_singleton]
  -- only the ranking is named anew, and its names are those it already has
  refine ⟨⟨?_, hid, ⟨?_, ?_⟩, ?_⟩, ⟨rfl, hid, isEntitlementKey_of_id h.header.gameId⟩⟩
  · unfold gameplayPayload
    refine bind_eq_ok.2 ⟨_, mapM_eq_ok (g := id) fun entry hentry => ?_, by rw [List.map_id]; rfl⟩
    obtain ⟨ranked, hranked, rfl⟩ := List.mem_map.1 hentry
    obtain ⟨player, hplayer, -⟩ := ranking_seated h hranked
    refine bind_eq_ok.2 ⟨player, requireSome_eq_ok.2 hplayer, ?_⟩
    simp [nameAt_of_slot hplayer, pure, Except.pure]
  · simp [hhead]
  · simpa using ranking_length_le h
  · intro entry hentry
    rw [List.map_map] at hentry
    obtain ⟨ranked, hranked, rfl⟩ := List.mem_map.1 hentry
    obtain ⟨player, hplayer, -⟩ := ranking_seated h hranked
    have hfit := hfits.ranking ranked hranked
    refine ⟨hfit.rank, hfit.seatIndex, ?_, isCashString_toString hfit.netWorth⟩
    show IsOpaqueId (nameAt finished.players ranked.seatIndex)
    rw [nameAt_of_slot hplayer]
    exact isOpaqueId_of_slot h.table hplayer

theorem BankruptcyStep.publishable {resolution : BankruptcyResolution} {expected : ℤ}
    (h : BankruptcyStep state current nowMs resolution next events)
    (hadm : Pootown.Admitted state expected nowMs)
    (helim : Eliminated state state.turn.currentSeatIndex state.players current resolution) :
    ∀ event ∈ events, Publishable next event := by
  have hcash : IsMatchCash current.cash := hv.table.cash hc.1
  have hvalid := BankruptcyStep.valid h hadm helim
  cases h with
  | continued turn hend hpass =>
    rw [List.forall_mem_singleton]
    exact bankrupt_publishable hv hc helim hcash
  | finished terminal winner ranking hend hterm hwinner hranking =>
    rw [List.forall_mem_cons]
    exact ⟨bankrupt_publishable hv hc helim hcash, end_publishable hvalid hwinner hranking⟩

omit hv hc in
/-- Who sits on a seat after an update that keeps names sat there before. -/
theorem slot_of_updated {players : List (Option GameplayPlayerState)} {k seat : ℕ}
    {f : GameplayPlayerState → GameplayPlayerState} {player : GameplayPlayerState}
    (h : slotAt (updateSlot k f players) seat = some player)
    (hf : ∀ p, (f p).playerId = p.playerId) :
    ∃ p, slotAt players seat = some p ∧ player.playerId = p.playerId := by
  rw [slotAt_updateSlot] at h
  split_ifs at h
  · obtain ⟨p, hp, rfl⟩ := Option.map_eq_some_iff.1 h
    exact ⟨p, hp, hf p⟩
  · exact ⟨player, h, rfl⟩

/-- The events of a forfeit, up to the bankruptcy. -/
theorem forfeit_publishable {seat : ℕ} {players : List (Option GameplayPlayerState)}
    {player : GameplayPlayerState} {bankruptcy : BankruptcyResolution}
    (helim : Eliminated state seat players player bankruptcy) :
    ∀ event ∈ forfeitEvents current bankruptcy, Publishable next event := by
  have hid : IsOpaqueId current.playerId := isOpaqueId_of_slot hv.table hc.1
  rw [forfeitEvents, List.forall_mem_cons, List.forall_mem_cons, List.forall_mem_singleton]
  exact ⟨⟨rfl, hid, by decide, by decide⟩, ⟨rfl, hid, rfl⟩,
    bankrupt_publishable hv hc helim (hv.table.cash hc.1)⟩

theorem TimeoutStep.publishable {command : GameplayTimeoutCommand} {expected : ℤ}
    (h : TimeoutStep state current nowMs command next events)
    (hadm : Pootown.Admitted state expected nowMs)
    (hnone : state.bankruptcyRequiredSeatIndex = none) :
    ∀ event ∈ events, Publishable next event := by
  have hid : IsOpaqueId current.playerId := isOpaqueId_of_slot hv.table hc.1
  have hvalid := TimeoutStep.valid h hadm hc hnone
  cases h with
  | timeLimit gameEndAtMs terminal winner ranking hend hle hterm hwinner hranking =>
    exact end_publishable hvalid hwinner hranking
  | warning _ seconds turn hseconds hwarn =>
    rw [List.forall_mem_singleton]
    exact ⟨rfl, hid⟩
  | turnAdvanced turn next hdeadline hmissed hpass hnext =>
    unfold afterMissedTurn at hnext
    obtain ⟨player, hplayer, hname⟩ := slot_of_updated hnext fun _ => rfl
    rw [List.forall_mem_cons, List.forall_mem_singleton]
    refine ⟨⟨rfl, hid, by omega, by omega⟩, ⟨rfl, hid, ?_⟩⟩
    rw [hname]
    exact isOpaqueId_of_slot hv.table hplayer
  | forfeitContinued bankruptcy nextSeat next hdeadline hmissed helim hend hseat htime hnext =>
    obtain ⟨missed, hslot, hname⟩ := slot_of_updated hnext fun _ => rfl
    unfold afterMissedTurn at hslot
    obtain ⟨player, hplayer, hname'⟩ := slot_of_updated hslot fun _ => rfl
    rw [List.forall_mem_append, List.forall_mem_singleton]
    refine ⟨forfeit_publishable hv hc helim, rfl, hid, ?_⟩
    rw [hname, hname']
    exact isOpaqueId_of_slot hv.table hplayer
  | forfeitFinished bankruptcy terminal winner ranking hdeadline hmissed helim hend hterm hwinner
      hranking =>
    rw [List.forall_mem_append]
    exact ⟨forfeit_publishable hv hc helim, end_publishable hvalid hwinner hranking⟩

end Steps

/-! ### Trades -/

section Trades

variable {state state' : ActiveGameplayAggregateState} {next : GameplayAggregateState}
  {nowMs : ℤ} {events : List GameplayDomainEvent}

theorem expired_publishable (hv : ValidActive state) {tradeId : String}
    (h : tradeId ∈ expiredIds nowMs state.activeTrades) :
    Publishable next (.tradeExpired tradeId) := by
  obtain ⟨trade, htrade, rfl⟩ := List.mem_map.1 h
  exact ⟨rfl, (hv.trades trade (List.mem_of_mem_filter htrade)).1⟩

theorem participantIds_eq_some {trade : PendingTrade} {ids : String × String}
    (hv : ValidActive state) (h : participantIds state trade = some ids) :
    IsOpaqueId ids.1 ∧ IsOpaqueId ids.2 := by
  simp only [participantIds, Option.bind_eq_bind, Option.bind_eq_some_iff, Option.pure_def,
    Option.some.injEq] at h
  obtain ⟨proposer, hproposer, receiver, hreceiver, rfl⟩ := h
  exact ⟨isOpaqueId_of_slot hv.table hproposer, isOpaqueId_of_slot hv.table hreceiver⟩

/-- The events of a settled trade: the expired ones, then the one that names the end of it. -/
theorem settle_publishable {tradeId : String} {mutate : ℕ → TradeMutationResult}
    {event : GameplayPlayerState → String × String → PendingTrade → GameplayDomainEvent}
    {context : GameplayCommandContext} (hv : ValidActive state)
    (hclosing : ∀ seat mutation, mutate seat = .ok mutation →
      ∃ trade, Closing context.nowMs state.activeTrades tradeId mutation trade)
    (hevent : ∀ actor ids trade, IsOpaqueId actor.playerId → IsOpaqueId ids.1 →
      IsOpaqueId ids.2 → IsOpaqueId trade.tradeId → Publishable next (event actor ids trade))
    (h : transitionSettleTrade state tradeId mutate event context = .ok (state', events)) :
    ∀ event ∈ events, Publishable next event := by
  simp only [transitionSettleTrade, bind_eq_ok, requireSome_eq_ok, pure_eq_ok,
    checkTradeResult_eq_ok, Prod.mk.injEq] at h
  obtain ⟨actor, hactor, mutation, hmut, players, -, trade, htrade, ids, hids, rfl, rfl⟩ := h
  obtain ⟨closed, hclosed⟩ := hclosing _ _ hmut
  obtain rfl : closed = trade := Option.some.inj (hclosed.settled.symm.trans htrade)
  obtain ⟨-, hslot, -⟩ := tradeActor_eq_ok hv hactor
  obtain ⟨hfirst, hsecond⟩ := participantIds_eq_some hv hids
  have hmem : closed ∈ state.activeTrades := List.mem_of_mem_filter hclosed.mem
  rw [List.forall_mem_append, List.forall_mem_singleton]
  refine ⟨fun expired hexpired => ?_, hevent actor ids closed (isOpaqueId_of_slot hv.table hslot)
    hfirst hsecond (hv.trades closed hmem).1⟩
  obtain ⟨id, hid, rfl⟩ := List.mem_map.1 hexpired
  obtain ⟨hremoved, hne⟩ := List.mem_filter.1 hid
  rw [hclosed.removed_eq, List.mem_append, List.mem_singleton] at hremoved
  obtain hremoved | rfl := hremoved
  · exact expired_publishable hv hremoved
  · -- the settled trade is filtered out of the expired ones
    simp at hne

theorem create_publishable {receiverId : String} {terms : TradeTerms}
    {context : GameplayCommandContext} (hv : ValidActive state)
    (h : transitionCreateTrade state receiverId terms context = .ok (state', events)) :
    ∀ event ∈ events, Publishable next event := by
  simp only [transitionCreateTrade, bind_eq_ok, requireSome_eq_ok, pure_eq_ok,
    checkTradeResult_eq_ok, Option.filter_eq_some_iff, decide_eq_true_eq, Prod.mk.injEq] at h
  obtain ⟨actor, hactor, receiver, ⟨hid, -, -⟩, tradeId, -, mutation, hmut, players, -, trade,
    htrade, rfl, rfl⟩ := h
  obtain ⟨-, hslot, -⟩ := tradeActor_eq_ok hv hactor
  obtain ⟨hname, i, hreceiver⟩ := gameplayPlayerById_slot hid
  obtain ⟨made, hmade, hvalid, -⟩ := createTrade_eq_ok hmut
  obtain ⟨-, -, hentry, hremoved⟩ := createTrade_book hmut
  obtain rfl : made = trade := Option.some.inj (hmade.symm.trans htrade)
  have hterms : made.terms = terms := by
    rw [hmade, Option.some.injEq] at hentry
    rw [hentry]
  have hexpires : IsEpochMs made.expiresAtMs := by
    obtain ⟨-, -, -, -, -, -, hcreated, hsafe, heq⟩ := hvalid
    simp only [GameplayPolicy.tradeExpiryMs] at hsafe heq
    exact ⟨by omega, by rw [heq]; exact hsafe.2⟩
  rw [hremoved, List.forall_mem_append, List.forall_mem_singleton]
  refine ⟨fun expired hexpired => ?_, rfl, hvalid.1, isOpaqueId_of_slot hv.table hslot, ?_, ?_,
    hexpires⟩
  · obtain ⟨id, hid, rfl⟩ := List.mem_map.1 hexpired
    exact expired_publishable hv hid
  · rw [← hname]
    exact isOpaqueId_of_slot hv.table hreceiver
  · rw [← hterms]
    exact publicTerms_conforms hvalid.2.2.2.2.1

theorem trade_publishable {command : GameplayTradeCommand} {expected : ℤ}
    {context : GameplayCommandContext}
    (h : transitionGameplayTrade state command expected context = .ok (state', events)) :
    ∀ event ∈ events, Publishable next event := by
  simp only [transitionGameplayTrade, bind_eq_ok, require_eq_ok, exists_const,
    checkCommand_eq_ok] at h
  obtain ⟨⟨-, hadm⟩, -, h⟩ := h
  have hv := hadm.valid
  cases command with
  | cleanupExpiredTrades =>
    simp only [transitionCleanupExpiredTrades, bind_eq_ok, require_eq_ok, requireSome_eq_ok,
      pure_eq_ok, exists_const, Prod.mk.injEq] at h
    obtain ⟨-, cleaned, hclean, -, rfl, rfl⟩ := h
    rw [(cleanupExpiredTrades_book hclean).2]
    intro expired hexpired
    obtain ⟨id, hid, rfl⟩ := List.mem_map.1 hexpired
    exact expired_publishable hv hid
  | createTrade receiverId terms => exact create_publishable hv h
  | acceptTrade tradeId =>
    refine settle_publishable hv (fun _ _ => acceptCleanedTrade_closing hadm)
      (fun _ _ _ _ hfirst hsecond hid => ?_) h
    exact ⟨rfl, hid, hfirst, hsecond⟩
  | rejectTrade tradeId =>
    refine settle_publishable hv (fun _ _ => removeTrade_closing)
      (fun _ _ _ hactor _ _ hid => ?_) h
    exact ⟨rfl, hid, hactor⟩
  | cancelTrade tradeId =>
    refine settle_publishable hv (fun _ _ => removeTrade_closing)
      (fun _ _ _ hactor _ _ hid => ?_) h
    exact ⟨rfl, hid, hactor⟩

end Trades

/-! ### Every command -/

theorem transition_publishable {state : ActiveGameplayAggregateState}
    {next : GameplayAggregateState} {command : GameplayCommand} {context : GameplayCommandContext}
    {events : List GameplayDomainEvent}
    (h : transitionGameplay (.inProgress state) command context = .ok (next, events)) :
    ∀ event ∈ events, Publishable next event := by
  obtain ⟨hadm, hstep⟩ := transitionGameplay_step h
  have hv := hadm.valid
  generalize hbody : command.body = body at hstep
  cases hstep with
  | turn _ current active _ hc hstep => exact TurnStep.publishable hv hc hstep
  | jail _ current active _ hphase hc hstep => exact JailStep.publishable hv hc hstep
  | card _ current cardId rng resolution active _ hphase hc hdraw hres hstep =>
    exact CardStep.publishable hv hc hres hstep
  | bankruptcy current resolution _ _ hphase hc helim hstep =>
    exact BankruptcyStep.publishable hv hc hstep hadm helim
  | timeout _ current _ _ hactor hnone hlimit hc hstep =>
    exact TimeoutStep.publishable hv hc hstep hadm hnone
  | property body current active _ hnone hc hstep =>
    -- prices and house counts of the events are not in the step relation
    simp only [transitionGameplay, routeGameplay, hbody, bind_eq_ok, require_eq_ok,
      exists_const] at h
    obtain ⟨-, -, h⟩ := h
    obtain ⟨_, hproperty, hactive⟩ := keepsPlaying_eq_ok.1 h
    exact property_publishable hproperty
  | trade body active _ hnone hstep =>
    simp only [transitionGameplay, routeGameplay, hbody, bind_eq_ok, require_eq_ok,
      exists_const] at h
    obtain ⟨-, -, h⟩ := h
    obtain ⟨_, htrade, hactive⟩ := keepsPlaying_eq_ok.1 h
    exact trade_publishable htrade

/-- A command has few events: those of a trade are the expired trades and one more. -/
theorem length_events_le {state : ActiveGameplayAggregateState} {next : GameplayAggregateState}
    {command : GameplayCommand} {context : GameplayCommandContext}
    {events : List GameplayDomainEvent}
    (hbook : WellFormedBook state.toGameplayAggregateStateBase)
    (h : transitionGameplay (.inProgress state) command context = .ok (next, events)) :
    events.length ≤ 21 := by
  obtain ⟨-, hstep⟩ := transitionGameplay_step h
  generalize hbody : command.body = body at hstep
  cases hstep with
  | turn _ current active _ hc hstep =>
    cases hstep with
    | endTurn turn hphase hpass => simp
    | roll _ dice rng _ _ hne hphase hdraw hstep => cases hstep <;> simp
  | property _ current active _ hnone hc hstep => cases hstep <;> simp
  | jail _ current active _ hphase hc hstep => cases hstep <;> simp
  | card _ current cardId rng resolution active _ hphase hc hdraw hres hstep =>
    cases hstep with
    | bankruptcy hbank htime => simp
    | continued turn hbank hturn =>
      unfold cardEvents
      cases resolution.movement <;> simp
  | bankruptcy current resolution _ _ hphase hc helim hstep =>
    cases hstep <;> simp [endEvents]
  | timeout _ current _ _ hactor hnone hlimit hc hstep =>
    cases hstep <;> simp [endEvents, forfeitEvents]
  | trade body active _ hnone hstep =>
    simp only [transitionGameplay, routeGameplay, hbody, bind_eq_ok, require_eq_ok,
      exists_const] at h
    obtain ⟨-, -, h⟩ := h
    obtain ⟨_, htrade, hactive⟩ := keepsPlaying_eq_ok.1 h
    have hexpired : (expiredIds context.nowMs state.activeTrades).length ≤ 20 := by
      rw [expiredIds, List.length_map]
      exact (List.length_filter_le ..).trans hbook.length_le
    have hchange := transitionGameplayTrade_book htrade
    generalize GameplayAggregateStateBase.activeTrades _ = book at hchange
    cases hchange with
    | cleaned =>
      rw [List.length_map]
      omega
    | opened trade event _ _ _ _ _ _ _ =>
      rw [List.length_append, List.length_map, List.length_singleton]
      omega
    | closed trade event _ _ _ =>
      have hkept := List.length_filter_le (fun id => id ≠ trade.tradeId)
        (expiredIds context.nowMs state.activeTrades)
      rw [List.length_append, List.length_map, List.length_singleton]
      omega

/-! ### Ids -/

theorem isAlphanum_of_isDigit {c : Char} (h : c.isDigit = true) : c.isAlphanum = true := by
  show (c.isAlpha || c.isDigit) = true
  rw [h, Bool.or_true]

theorem isAlphanum_of_isHexDigit {c : Char} (h : isHexDigit c = true) : c.isAlphanum = true := by
  have hlower (hlow : 'a' ≤ c) (hhigh : c ≤ 'f') : c.isLower = true := by
    have hfz : 'f' ≤ 'z' := by decide
    have hz : c ≤ 'z' := Char.le_trans hhigh hfz
    show (decide ('a' ≤ c) && decide (c ≤ 'z')) = true
    rw [decide_eq_true hlow, decide_eq_true hz, Bool.true_and]
  have hupper (hlow : 'A' ≤ c) (hhigh : c ≤ 'F') : c.isUpper = true := by
    have hFZ : 'F' ≤ 'Z' := by decide
    have hbounds : 'A' ≤ c ∧ c ≤ 'Z' := ⟨hlow, Char.le_trans hhigh hFZ⟩
    exact decide_eq_true hbounds
  simp only [isHexDigit, Bool.or_eq_true, Bool.and_eq_true, decide_eq_true_eq] at h
  rcases h with (h | ⟨hlow, hhigh⟩) | ⟨hlow, hhigh⟩
  · exact isAlphanum_of_isDigit h
  · show (c.isUpper || c.isLower || c.isDigit) = true
    rw [hlower hlow hhigh, Bool.or_true, Bool.true_or]
  · show (c.isUpper || c.isLower || c.isDigit) = true
    rw [hupper hlow hhigh, Bool.true_or, Bool.true_or]

theorem isOpaqueIdChar_of_isAlphanum {c : Char} (h : c.isAlphanum = true) :
    isOpaqueIdChar c = true := by
  rw [isOpaqueIdChar, h, Bool.true_or, Bool.true_or]

/-- What is left of a UUID without its dashes. -/
theorem compactRequestId_of_uuid {requestId : String} (h : isUuid requestId = true) :
    (compactRequestId requestId).toList.length ≤ 36 ∧
      ∀ c ∈ (compactRequestId requestId).toList, isOpaqueIdChar c = true := by
  simp only [isUuid, Bool.and_eq_true, decide_eq_true_eq, everyIdx_eq_true] at h
  obtain ⟨⟨hlength, hdigits⟩, -⟩ := h
  rw [compactRequestId, String.toList_ofList]
  refine ⟨(List.length_filter_le ..).trans hlength.le, fun c hc => ?_⟩
  obtain ⟨hmem, hne⟩ := List.mem_filter.1 hc
  obtain ⟨i, hi⟩ := List.mem_iff_getElem?.1 hmem
  have hdigit := hdigits i c hi
  split_ifs at hdigit
  · -- only the dashes have a place of their own, and they are gone
    simp_all
  · exact isOpaqueIdChar_of_isAlphanum (isAlphanum_of_isHexDigit hdigit)

/-- The id of an event under a UUID is an opaque id. -/
theorem isOpaqueId_eventId {requestId : String} {index : ℕ} (h : isUuid requestId = true)
    (hindex : index < 100) : IsOpaqueId (eventId requestId index) := by
  obtain ⟨hlength, hchars⟩ := compactRequestId_of_uuid h
  have hdigits : (toString index).toList = Nat.toDigits 10 index := Nat.toList_repr
  have hshort : (Nat.toDigits 10 index).length ≤ 2 :=
    (Nat.length_toDigits_le_iff (by omega) (by omega)).2 (by omega)
  have hid : (eventId requestId index).toList = 'e' :: (['v', 't', '_'] ++
      (compactRequestId requestId).toList ++ ['_'] ++ Nat.toDigits 10 index) := by
    rw [eventId, String.toList_append, String.toList_append, String.toList_append, hdigits]
    rfl
  unfold IsOpaqueId validOpaqueId
  simp only [hid, Bool.and_eq_true, decide_eq_true_eq, List.all_append, List.length_append,
    List.all_eq_true]
  have hmark : ['v', 't', '_'].all isOpaqueIdChar = true := by decide
  have hdash : ['_'].all isOpaqueIdChar = true := by decide
  refine ⟨⟨by simp; omega, by decide⟩,
    ⟨⟨List.all_eq_true.1 hmark, hchars⟩, List.all_eq_true.1 hdash⟩, fun c hc => ?_⟩
  apply isOpaqueIdChar_of_isAlphanum
  exact isAlphanum_of_isDigit (Nat.isDigit_of_mem_toDigits (b := 10) (by omega) le_rfl hc)

/-! ### Along a game -/

/-- The game keeps its id. -/
theorem GameplayStep.gameId {state : ActiveGameplayAggregateState} {next : GameplayAggregateState}
    {context : GameplayCommandContext} {body : GameplayCommandBody}
    {events : List GameplayDomainEvent} (h : GameplayStep state context body next events) :
    next.base.gameId = state.gameId := by
  cases h with
  | turn _ current active _ hc hstep =>
    cases hstep with
    | endTurn turn hphase hpass => rfl
    | roll _ dice rng _ _ hne hphase hdraw hstep => cases hstep <;> rfl
  | property _ current active _ hnone hc hstep => cases hstep <;> rfl
  | jail _ current active _ hphase hc hstep => cases hstep <;> rfl
  | card _ current cardId rng resolution active _ hphase hc hdraw hres hstep => cases hstep <;> rfl
  | bankruptcy current resolution _ _ hphase hc helim hstep => cases hstep <;> rfl
  | trade _ active _ hnone hstep => cases hstep <;> rfl
  | timeout _ current _ _ hactor hnone hlimit hc hstep => cases hstep <;> rfl

/-- The envelope of a published event keeps the schema. -/
theorem envelope_conforms {state : ActiveGameplayAggregateState} {next : GameplayAggregateState}
    {command : GameplayCommand} {context : GameplayCommandContext}
    {events : List GameplayDomainEvent} {requestId : String} {index : ℕ}
    {payload : GameplayEventPayload}
    (h : transitionGameplay (.inProgress state) command context = .ok (next, events))
    (hrequest : isUuid requestId = true) (hindex : index < 100) (hpayload : payload.Conforms) :
    (envelope next requestId context.nowMs index payload).Conforms := by
  obtain ⟨hadm, hstep⟩ := transitionGameplay_step h
  have hgame : IsOpaqueId next.base.gameId := by
    rw [GameplayStep.gameId hstep]
    exact hadm.valid.header.gameId
  have hversion := hstep.version
  have hlt := hadm.version_lt
  have hpos := hadm.valid.header.version.1
  simp only [maxStateVersion] at hlt
  have hstate : IsStateVersion next.base.stateVersion := ⟨by omega, by omega⟩
  exact ⟨isOpaqueId_eventId hrequest hindex, hgame, hstate, ⟨hadm.now_nonneg, hadm.safe.2⟩,
    hpayload⟩

/-- Every event of a command that is accepted in a started game is published under a UUID, as it
stands, and the command has no more events than an acknowledgement has room for. -/
theorem events_published {start : GameplayAggregateState} {state : ActiveGameplayAggregateState}
    {next : GameplayAggregateState} {commands : List AcceptedCommand} {command : GameplayCommand}
    {context : GameplayCommandContext} {events : List GameplayDomainEvent} {requestId : String}
    (hstart : StartedGame start) (hrun : Run Accepts start commands (.inProgress state))
    (h : transitionGameplay (.inProgress state) command context = .ok (next, events))
    (hrequest : isUuid requestId = true) :
    publicEvents events next requestId context.nowMs = .ok (events.zipIdx.map fun entry =>
      envelope next requestId context.nowMs entry.2 (wirePayload entry.1)) ∧
    events.length ≤ maximumEventIds := by
  have hlength := length_events_le (wellFormedBook_of_run hstart hrun) h
  refine ⟨mapM_eq_ok fun entry hentry => ?_, hlength.trans (by decide)⟩
  have hget := List.mem_zipIdx_iff_getElem?.1 hentry
  obtain ⟨hindex, -⟩ := List.getElem?_eq_some_iff.1 hget
  have hevent := transition_publishable h entry.1 (List.mem_of_getElem? hget)
  have hmessage : (envelope next requestId context.nowMs entry.2 (wirePayload entry.1)).Conforms :=
    envelope_conforms h hrequest (by omega) hevent.conforms
  have hpayload : publicPayload next entry.1 = .ok (wirePayload entry.1) := by
    simp only [publicPayload, hevent.named, Except.mapError, bind_eq_ok, require_eq_ok,
      pure_eq_ok]
    exact ⟨entry.1, rfl, (), hevent.conforms, rfl⟩
  simp only [hpayload, bind_eq_ok, require_eq_ok, pure_eq_ok]
  exact ⟨_, rfl, (), hmessage, rfl⟩

/-- An offer of Alice and its event. -/
theorem events_published_offer : ∃ start state command context next events,
    StartedGame start ∧ Run Accepts start [] (.inProgress state) ∧
    transitionGameplay (.inProgress state) command context = .ok (next, events) ∧
    publicEvents events next "00000000-0000-4000-8000-000000000000" context.nowMs =
      .ok [⟨"evt_00000000000040008000000000000000_0", "game", 2, 10,
        .tradeCreated "trade" "alice" "bob" ⟨.moneyOnly, "100", "0", none, none⟩ 3600010⟩] := by
  obtain ⟨state, next, events, hstart, hok, hcheck⟩ := exists_of_acceptedWith (twoPlayerGame [])
    (plays "alice" (.trade (.createTrade "bob" (.moneyOnly 100 0))) 1 10)
    (fun _ next events => decide (events.zipIdx.map (fun entry =>
      envelope next "00000000-0000-4000-8000-000000000000" 10 entry.2 (wirePayload entry.1)) =
      [⟨"evt_00000000000040008000000000000000_0", "game", 2, 10,
        .tradeCreated "trade" "alice" "bob" ⟨.moneyOnly, "100", "0", none, none⟩ 3600010⟩]))
    (by decide +kernel)
  have hstarted := started_of_twoPlayerGame hstart
  have huuid : isUuid "00000000-0000-4000-8000-000000000000" = true := by decide +kernel
  have hpublished := events_published hstarted (.nil _) hok huuid
  refine ⟨_, state, _, _, next, events, hstarted, .nil _, hok, hpublished.1.trans ?_⟩
  exact congrArg Except.ok (of_decide_eq_true hcheck)

end Pootown.Server
