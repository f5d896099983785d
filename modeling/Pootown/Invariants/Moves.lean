import Mathlib.Tactic
import Pootown.Invariants.CashLimits

/-!
# The current player can move

Every phase has a command of its own for the current player, and every check that stands in its way
holds of a valid game that was reached by playing: the phase fits the board, another seat is active,
and no sum of cash is out of range.

* `naturalMove`: the command of a phase;
* `exists_advance`, `exists_landing`, `exists_settled`: the fresh turns a move can ask for;
* `Stuck`: an unaffordable priority fee, and a get-out-of-jail card for a full hand;
* `moves_unless_stuck`: these two are the only ways to have no move, and the server's timers end
  both of them.
-/

namespace Pootown

open Fallible Slots

/-! ### Movement and rent -/

theorem moveBy_isSome {position : ℕ} {spaces : ℤ} (hposition : position < 40)
    (hspaces : -40 ≤ spaces ∧ spaces ≤ 40) :
    ∃ movement, moveBy position spaces = some movement := by
  have hsafe : IsSafeInteger spaces := ⟨by omega, by omega⟩
  have hsum : IsSafeInteger ((position : ℤ) + spaces) := ⟨by omega, by omega⟩
  unfold moveBy
  rw [if_neg (not_not_intro ⟨hposition, hsafe⟩), if_neg (not_not_intro hsum)]
  exact ⟨_, rfl⟩

/-- Two dice show a sum from 2 to 12. -/
theorem ValidDice.total {roll : DiceRoll} (h : ValidDice roll) :
    2 ≤ roll.total ∧ roll.total ≤ 12 := by
  obtain ⟨hfirst, hsecond, htotal, -⟩ := h
  omega

theorem moveToNearest_isSome {position : ℕ} (hposition : position < 40) :
    ∃ movement, moveToNearest position [1, 3] = some movement := by
  have hall : ∀ position < 40, (moveToNearest position [1, 3]).isSome = true := by decide +kernel
  exact Option.isSome_iff_exists.1 (hall position hposition)

theorem applyDoubles_isSome {previous : ℕ} {roll : DiceRoll} (hle : previous ≤ 2)
    (hroll : ValidDice roll) : ∃ doubles, applyDoubles previous roll = some doubles := by
  unfold applyDoubles
  rw [if_neg (by rintro (hlt | hbad); exacts [by omega, hbad hroll])]
  dsimp only
  split_ifs <;> exact ⟨_, rfl⟩

/-- Nobody owns more than the four railroads of the board. -/
theorem countOfType_railroad_le {properties : List PropertyState} (owner : ℕ)
    (hv : isValidPropertyStates properties = true) :
    countOfType .railroad (ownedPropertyPositions properties owner) ≤ 4 := by
  have hrailroads : ∀ position < 40, (boardSpaces[position]?).any
      (fun space => space.propertyType == .railroad) = true → position ∈ [5, 15, 25, 35] := by
    decide
  unfold countOfType
  refine (List.subperm_of_subset ((ownedPropertyPositions_nodup owner hv).filter _)
    (fun position hposition => ?_ : _ ⊆ [5, 15, 25, 35])).length_le
  obtain ⟨-, hrailroad⟩ := List.mem_filter.1 hposition
  obtain ⟨definition, hd, -⟩ := (Option.any_eq_true _ _).1 hrailroad
  exact hrailroads position (lt_of_boardSpace hd) hrailroad

theorem streetRent_isSome {position : ℕ} {definition : BoardSpaceDefinition}
    {property : PropertyState} (monopoly : Bool) (hd : boardSpaces[position]? = some definition)
    (hstreet : definition.propertyType = .street) (hle : property.houses ≤ 4) :
    ∃ rent, streetRent definition property monopoly = some rent := by
  have hrates : ∀ d ∈ boardSpaces, d.propertyType = .street → d.rent.length = 6 := by decide
  have hlength := hrates definition (List.mem_of_getElem? hd) hstreet
  have hrate : ∀ index < 6, ∃ rate, definition.rent[index]? = some rate := fun index hindex =>
    ⟨_, List.getElem?_eq_getElem (by omega)⟩
  unfold streetRent
  split
  · exact hrate 5 (by omega)
  · split
    · exact hrate property.houses (by omega)
    · obtain ⟨base, hbase⟩ := hrate 0 (by omega)
      rw [hbase]
      exact ⟨_, rfl⟩

/-- The rent of an ownable space can be derived from any roll of two dice. -/
theorem calculateRent_isSome {properties : List PropertyState} {position diceTotal : ℕ}
    {property : PropertyState} {definition : BoardSpaceDefinition}
    (hv : isValidPropertyStates properties = true) (hp : properties[position]? = some property)
    (hd : boardSpaces[position]? = some definition) (hownable : isOwnableSpace definition = true)
    (htotal : 2 ≤ diceTotal ∧ diceTotal ≤ 12) :
    ∃ rent, calculateRent properties position diceTotal = some rent := by
  have hentry := validPropertyState_of_getElem? hv hp hd
  simp only [calculateRent, hv, hp, hd, hentry.position_eq, hownable, Bool.true_eq_false, if_false,
    ne_eq, not_true_eq_false, or_self, Option.map_eq_some_iff]
  suffices hrate : ∃ rate, _ = some rate by
    obtain ⟨rate, hrate⟩ := hrate
    exact ⟨_, rate, hrate, rfl⟩
  cases howner : property.ownerSeatIndex with
  | none => exact ⟨0, rfl⟩
  | some owner =>
    cases hmortgaged : property.mortgaged with
    | true => exact ⟨0, rfl⟩
    | false =>
      have hcount := countOfType_railroad_le owner hv
      cases htype : definition.propertyType with
      | street => exact streetRent_isSome _ hd htype hentry.houses_le
      | railroad => exact ⟨_, List.getElem?_eq_getElem (Nat.lt_succ_of_le hcount)⟩
      | utility =>
        simp only [Bool.false_eq_true, if_false]
        rw [if_neg (by omega)]
        exact ⟨_, rfl⟩
      | _ => simp [isOwnableSpace, htype] at hownable

/-! ### Cards -/

section Cards

variable {deck : CardDeck} {definition : CardDefinition} {card : CardPlayerState}

theorem resolveMovement_isOk {movement : MovementResult}
    (hroom : card.cash + 200 ≤ maxMatchCash) :
    ∃ resolution, resolveMovement deck definition card (some movement) = .ok resolution := by
  simp only [resolveMovement, bind_eq_ok, requireSome_eq_ok, Option.some.injEq, exists_eq_left',
    pure_eq_ok]
  split
  · exact ⟨_, _, checkedAddMatchCash_eq_some.2 ⟨rfl, hroom⟩, rfl⟩
  · exact ⟨_, _, rfl, rfl⟩

theorem resolveCredit_isOk {amount : ℤ} (hle : amount ≤ 200)
    (hroom : card.cash + 200 ≤ maxMatchCash) :
    ∃ resolution, resolveCredit deck definition card amount = .ok resolution := by
  simp only [resolveCredit, bind_eq_ok, requireSome_eq_ok, pure_eq_ok]
  exact ⟨_, _, checkedAddMatchCash_eq_some.2 ⟨rfl, by omega⟩, rfl⟩

/-- Every card can be resolved, but for another get-out-of-jail card in a full hand. -/
theorem resolveCard_isOk {cardId playerCount : ℕ} (hcard : ValidCardState card)
    (hroom : card.cash + 200 ≤ maxMatchCash) (hcount : 2 ≤ playerCount ∧ playerCount ≤ 4)
    (hid : 1 ≤ cardId ∧ cardId ≤ 5)
    (hhand : deck = .chance → cardId = 5 → card.getOutOfJailCards ≠ 255) :
    ∃ resolution, resolveCard deck cardId card playerCount = .ok resolution := by
  have hposition : card.position < 40 := hcard.2.1
  obtain ⟨definition, hfind⟩ : ∃ definition,
      (cardsOf deck).find? (fun candidate => candidate.id = cardId) = some definition := by
    have hall : ∀ deck, ∀ cardId ≤ 5, 1 ≤ cardId → ((cardsOf deck).find? fun candidate =>
        candidate.id = cardId).isSome = true := by
      intro deck
      cases deck <;> decide
    exact Option.isSome_iff_exists.1 (hall deck cardId hid.2 hid.1)
  have hmem := List.mem_of_find?_eq_some hfind
  obtain ⟨hcollect, hmoney, -⟩ := mem_cardsOf hmem
  have hsame : definition.id = cardId := by simpa using List.find?_some hfind
  simp only [resolveCard, hfind, bind_eq_ok, require_eq_ok, requireSome_eq_ok, exists_const,
    Option.some.injEq, exists_eq_left', exists_and_left]
  refine ⟨hcard, hcount, ?_⟩
  cases heffect : definition.effect with
  | money =>
    dsimp only
    split
    · exact resolveCredit_isOk (by have := hmoney heffect; omega) hroom
    · exact ⟨_, rfl⟩
  | move =>
    cases deck with
    | chance =>
      have hsteps : ∀ c ∈ chanceCards, c.effect = .move → c.amount = -3 := by decide
      obtain ⟨movement, hmovement⟩ : ∃ movement,
          moveBy card.position definition.amount = some movement :=
        moveBy_isSome hposition (by have := hsteps definition hmem heffect; omega)
      simp only [hmovement]
      exact resolveMovement_isOk hroom
    | communityChest => exact resolveMovement_isOk hroom
  | moveToNearest =>
    obtain ⟨movement, hmovement⟩ := moveToNearest_isSome hposition
    simp only [hmovement]
    exact resolveMovement_isOk hroom
  | getOutOfJailFree =>
    have hall : ∀ deck, ∀ c ∈ cardsOf deck, c.effect = .getOutOfJailFree →
        deck = .chance ∧ c.id = 5 := by
      intro deck
      cases deck <;> decide
    obtain ⟨hchance, hfive⟩ := hall deck definition hmem heffect
    simp only [bind_eq_ok, require_eq_ok, exists_const, exists_and_left]
    exact ⟨hhand hchance (hsame ▸ hfive), _, rfl⟩
  | collectFromPlayers =>
    refine resolveCredit_isOk ?_ hroom
    rw [hcollect heffect]
    omega
  | repairFree => exact ⟨_, rfl⟩

end Cards

/-! ### Fresh turns -/

section Turns

variable {state : ActiveGameplayAggregateState} {current : GameplayPlayerState} {nowMs : ℤ}

theorem exists_clockedTurn {phase : TurnPhase} (seat : ℕ) (htime : ClockableTime nowMs)
    (hphase : phase = .awaitingRoll ∨ phase = .awaitingBankruptcy ∨ phase = .awaitingEndTurn) :
    ∃ turn, createClockedGameplayTurn phase seat nowMs = some turn :=
  ⟨_, createClockedGameplayTurn_eq_some.2 ⟨htime, hphase, rfl⟩⟩

theorem settledPhase_clocked (doubles : Bool) : settledPhase doubles = .awaitingRoll ∨
    settledPhase doubles = .awaitingBankruptcy ∨ settledPhase doubles = .awaitingEndTurn := by
  cases doubles
  · exact .inr (.inr rfl)
  · exact .inl rfl

/-- The turn can be passed on to another active seat. -/
theorem exists_advance (hv : ValidActive state) (hp : Playable state) (hc : IsCurrent state current)
    (htime : ClockableTime nowMs) : ∃ turn, advanceGameplayTurn state nowMs = some turn := by
  obtain ⟨i, p, hi, hother, hactive⟩ := exists_other_active hc.1 hc.active hp.two_active
  obtain ⟨next, hnext, hne⟩ : ∃ next, nextActiveSeat (fun player => player.status)
      state.players state.turn.currentSeatIndex = some next ∧
      next ≠ state.turn.currentSeatIndex :=
    exists_nextActiveSeat hv.seat_lt (hv.table.seat_lt hother) hi hother hactive
  obtain ⟨turn, hturn⟩ := exists_clockedTurn next htime (.inl rfl)
  refine ⟨(turn, next), ?_⟩
  simp only [advanceGameplayTurn, Option.bind_eq_bind, hnext, Option.bind_some, if_neg hne, hturn,
    Option.pure_def]

/-- Every landing on the board has a turn. -/
theorem exists_landing (hv : ValidActive state) {position : ℕ} (seat : ℕ)
    (hposition : position < 40) (htime : ClockableTime nowMs) (doubles : Bool) :
    ∃ turn, createGameplayLandingTurn state position seat nowMs doubles = some turn := by
  obtain ⟨definition, hd⟩ := exists_boardSpace hposition
  obtain ⟨property, hproperty⟩ := exists_property hv.table.properties_valid hposition
  obtain ⟨clock, hclock⟩ := exists_clockedTurn seat htime (settledPhase_clocked doubles)
  obtain ⟨phase, hphase⟩ : ∃ phase, landingPhase state.properties definition position seat
      clock.phase = some phase := by
    unfold landingPhase
    cases definition.propertyType <;> simp [hproperty]
  refine ⟨{ clock with phase := phase }, ?_⟩
  simp only [createGameplayLandingTurn, Option.bind_eq_bind, hd, Option.bind_some, hclock, hphase,
    Option.pure_def]

/-- A landing that is settled has a turn to go on with. -/
theorem exists_settled (hv : ValidActive state) (hroll : state.turn.phase ≠ .awaitingRoll)
    (hbankruptcy : state.turn.phase ≠ .awaitingBankruptcy) (htime : ClockableTime nowMs) :
    ∃ turn, phaseAfterResolvedAction state nowMs = some turn := by
  obtain ⟨dice, hdice⟩ := Option.ne_none_iff_exists'.1 (hv.turn.dice_of_phase hroll hbankruptcy)
  unfold phaseAfterResolvedAction
  rw [hdice]
  exact exists_clockedTurn _ htime (settledPhase_clocked _)

/-! ### The move of every phase -/

/-- The end of a turn is accepted. -/
theorem transitionEndTurn_isOk (hv : ValidActive state) (hp : Playable state)
    (hc : IsCurrent state current) (hphase : state.turn.phase = .awaitingEndTurn)
    (htime : ClockableTime nowMs) : ∃ result, transitionEndTurn state nowMs = .ok result := by
  have hdice := hv.turn.dice_of_phase (by simp [hphase]) (by simp [hphase])
  have hsolvent : state.bankruptcyRequiredSeatIndex = none := by
    obtain ⟨hnone, -⟩ | ⟨-, hpending⟩ := hv.turn.bankruptcy
    · exact hnone
    · simp [hphase] at hpending
  obtain ⟨turn, hturn⟩ := exists_advance hv hp hc htime
  simp only [transitionEndTurn, bind_eq_ok, require_eq_ok, requireSome_eq_ok, exists_const,
    pure_eq_ok]
  exact ⟨_, hsolvent, hphase, hdice, turn, hturn, rfl⟩

theorem resolveJailRoll_isOk {jail : JailPlayerState} {dice : DiceRoll}
    (hjail : ValidJailState jail) (hin : jail.inJail = true) (hdice : ValidDice dice) :
    ∃ action, resolveJailRoll jail dice = .ok action := by
  have htotal := ValidDice.total hdice
  obtain ⟨movement, hmovement⟩ : ∃ movement, moveBy jail.position dice.total = some movement :=
    moveBy_isSome hjail.2.1 ⟨by omega, by omega⟩
  simp only [resolveJailRoll, bind_eq_ok, require_eq_ok, exists_const, exists_and_left]
  refine ⟨hjail, hin, hdice, ?_⟩
  split
  · exact ⟨_, rfl⟩
  · split
    · exact ⟨_, rfl⟩
    · simp only [bind_eq_ok, requireSome_eq_ok, pure_eq_ok]
      exact ⟨_, movement, hmovement, rfl⟩

/-- A roll in jail is accepted, whatever it shows. -/
theorem transitionJailedRoll_isOk (hv : ValidActive state) (hp : Playable state)
    (hc : IsCurrent state current) (hin : current.inJail = true) {dice : DiceRoll}
    (hdice : ValidDice dice) (htime : ClockableTime nowMs) (rng : RandomCheckpoint) :
    ∃ result, transitionJailedRoll state current dice rng nowMs = .ok result := by
  have hr := hc.rules hv
  have hjail : ValidJailState current.toJail :=
    ⟨hr.cash, hr.position_lt, hr.jailTurns_le, hr.consecutiveDoubles_le, hr.cards_le, hr.jail⟩
  obtain ⟨action, haction⟩ := resolveJailRoll_isOk hjail hin hdice
  simp only [transitionJailedRoll, haction]
  obtain ⟨hout, -⟩ | ⟨hout, -⟩ | ⟨hout, _, method, movement, hmovement, hmove, hmethod, -⟩ :=
    resolveJailRoll_eq_ok haction
  · obtain ⟨turn, hturn⟩ := exists_advance hv hp hc htime
    simp only [hout, hturn, bind_eq_ok, requireSome_eq_ok, pure_eq_ok]
    exact ⟨_, turn, rfl, rfl⟩
  · obtain ⟨turn, hturn⟩ := exists_clockedTurn current.seatIndex htime (.inr (.inl rfl))
    simp only [hout, hturn, bind_eq_ok, requireSome_eq_ok, pure_eq_ok]
    exact ⟨_, turn, rfl, rfl⟩
  · obtain ⟨turn, hturn⟩ := exists_landing hv current.seatIndex (moveBy_eq_some hmove).2 htime false
    simp only [hout, hmovement, hmethod, bind_eq_ok, requireSome_eq_ok, pure_eq_ok,
      Option.some.injEq, exists_eq_left', hturn]
    exact ⟨_, rfl⟩

/-- A roll outside jail is accepted, whatever it shows. -/
theorem transitionFreeRoll_isOk (hv : ValidActive state) (hp : Playable state)
    (hb : Budgeted state.toGameplayAggregateStateBase) (hc : IsCurrent state current)
    {dice : DiceRoll} (hdice : ValidDice dice) (doubles : DoublesResult)
    (htime : ClockableTime nowMs) (rng : RandomCheckpoint) :
    ∃ result, transitionFreeRoll state current dice doubles rng nowMs = .ok result := by
  obtain ⟨turn, hturn⟩ := exists_advance hv hp hc htime
  unfold transitionFreeRoll
  dsimp only
  split
  · simp only [hturn, bind_eq_ok, requireSome_eq_ok, pure_eq_ok]
    exact ⟨_, turn, rfl, rfl⟩
  · have htotal := ValidDice.total hdice
    obtain ⟨movement, hmovement⟩ : ∃ movement,
        moveBy current.position dice.total = some movement :=
      moveBy_isSome (hc.rules hv).position_lt ⟨by omega, by omega⟩
    obtain ⟨cash, hcash⟩ : ∃ cash, (if movement.passedGo then
        checkedAddMatchCash current.cash GameplayPolicy.passGoSalary
        else some current.cash) = some cash := by
      split
      · have hroom := hb.room hc.1
        exact ⟨_, checkedAddMatchCash_eq_some.2 ⟨rfl, by
          simp only [GameplayPolicy.passGoSalary]; omega⟩⟩
      · exact ⟨_, rfl⟩
    simp only [hmovement, hcash, bind_eq_ok, requireSome_eq_ok, Option.some.injEq, exists_eq_left']
    split
    · simp only [hturn, bind_eq_ok, requireSome_eq_ok, pure_eq_ok]
      exact ⟨_, turn, rfl, rfl⟩
    · obtain ⟨landing, hlanding⟩ := exists_landing hv current.seatIndex
        (moveBy_eq_some hmovement).2 htime dice.isDoubles
      simp only [hlanding, bind_eq_ok, requireSome_eq_ok, pure_eq_ok]
      exact ⟨_, landing, rfl, rfl⟩

theorem transitionRoll_isOk {context : GameplayCommandContext} (hv : ValidActive state)
    (hp : Playable state) (hb : Budgeted state.toGameplayAggregateStateBase)
    (hc : IsCurrent state current) (hphase : state.turn.phase = .awaitingRoll)
    (htime : ClockableTime context.nowMs)
    (hdraw : ∃ drawn, drawGameplayDice state context.randomSource = .ok drawn) :
    ∃ result, transitionRoll state current context = .ok result := by
  obtain ⟨⟨dice, rng⟩, hdraw⟩ := hdraw
  have hdice := (drawGameplayDice_eq_ok hdraw).1
  obtain ⟨doubles, hdoubles⟩ := applyDoubles_isSome (hc.rules hv).consecutiveDoubles_le hdice
  simp only [transitionRoll, hdraw, hdoubles, bind_eq_ok, require_eq_ok, requireSome_eq_ok,
    exists_const, exists_eq_left', Option.some.injEq, Except.ok.injEq, exists_and_left]
  refine ⟨hphase, ?_⟩
  split
  · exact transitionJailedRoll_isOk hv hp hc ‹_› hdice htime rng
  · exact transitionFreeRoll_isOk hv hp hb hc hdice doubles htime rng

theorem transitionDeclineProperty_isOk {position : ℕ} (hv : ValidActive state)
    (hc : IsCurrent state current) (hphase : state.turn.phase = .awaitingPropertyDecision position)
    (htime : ClockableTime nowMs) :
    ∃ result, transitionDeclineProperty state current position nowMs = .ok result := by
  have hlanded := hc.phase hv
  rw [hphase] at hlanded
  obtain ⟨-, property, hproperty, definition, hd, hownable, hfree⟩ := hlanded
  obtain ⟨turn, hturn⟩ := exists_settled hv (by simp [hphase]) (by simp [hphase]) htime
  simp only [transitionDeclineProperty, checkPropertyDecision, bind_eq_ok, require_eq_ok,
    requireSome_eq_ok, exists_const, pure_eq_ok]
  exact ⟨_, (turn, definition.price), ⟨hphase, definition, hd, property, hproperty,
    ⟨hfree, hownable⟩, turn, hturn, rfl⟩, rfl⟩

theorem requireBankruptcy_isOk (htime : ClockableTime nowMs) :
    ∃ result, requireBankruptcy state current nowMs = .ok result := by
  obtain ⟨turn, hturn⟩ := exists_clockedTurn current.seatIndex htime (.inr (.inl rfl))
  simp only [requireBankruptcy, hturn, bind_eq_ok, requireSome_eq_ok, pure_eq_ok]
  exact ⟨_, turn, rfl, rfl⟩

/-- Rent is paid, or bankrupts: its owner sits, active, and has room for it. -/
theorem transitionPayRent_isOk {position : ℕ} (hv : ValidActive state)
    (hb : Budgeted state.toGameplayAggregateStateBase) (hc : IsCurrent state current)
    (hphase : state.turn.phase = .awaitingRentPayment position) (htime : ClockableTime nowMs) :
    ∃ result, transitionPayRent state current position nowMs = .ok result := by
  have hlanded := hc.phase hv
  rw [hphase] at hlanded
  obtain ⟨-, property, hproperty, definition, hd, hownable, howned, -, -⟩ := hlanded
  obtain ⟨ownerSeat, hownerSeat⟩ := Option.ne_none_iff_exists'.1 howned
  obtain ⟨owner, howner, hactive⟩ := hv.table.owner position property ownerSeat hproperty hownerSeat
  obtain ⟨dice, hdice⟩ := Option.ne_none_iff_exists'.1
    (hv.turn.dice_of_phase (by simp [hphase]) (by simp [hphase]))
  obtain ⟨amount, hamount⟩ := calculateRent_isSome hv.table.properties_valid hproperty hd hownable
    (ValidDice.total (hv.turn.dice_valid dice hdice))
  obtain ⟨turn, hturn⟩ := exists_settled hv (by simp [hphase]) (by simp [hphase]) htime
  have hfound : (state.properties[position]?).bind (fun property =>
      property.ownerSeatIndex.bind (slotAt state.players)) = some owner := by
    rw [hproperty, Option.bind_some, hownerSeat, Option.bind_some, howner]
  simp only [transitionPayRent, hfound, hdice, hamount, hturn, bind_eq_ok, require_eq_ok,
    requireSome_eq_ok, exists_const, Option.some.injEq, exists_eq_left', exists_and_left]
  refine ⟨hphase, hactive, ?_⟩
  cases hcash : checkedSubtractMatchCash current.cash amount with
  | none => exact requireBankruptcy_isOk htime
  | some payerCash =>
    have hle := (checkedSubtractMatchCash_eq_some.1 hcash).2
    have hroom := hb.add_le howner hc.1
    have hownerCash : checkedAddMatchCash owner.cash amount = some (owner.cash + amount) :=
      checkedAddMatchCash_eq_some.2 ⟨rfl, by omega⟩
    simp only [hownerCash, bind_eq_ok, requireSome_eq_ok, pure_eq_ok]
    exact ⟨_, _, rfl, rfl⟩

/-- Both taxes are paid by a player who can afford them, and the MEV tax bankrupts the others. -/
theorem transitionPayTax_isOk {taxKind : TaxKind} (hv : ValidActive state)
    (hc : IsCurrent state current) (hphase : state.turn.phase = .awaitingTaxPayment taxKind)
    (hcash : taxKind = .priorityFee → 75 ≤ current.cash) (htime : ClockableTime nowMs) :
    ∃ result, transitionPayTax state current taxKind nowMs = .ok result := by
  have hlanded := hc.phase hv
  rw [hphase] at hlanded
  have hposition : current.position = taxKind.position := by
    simp only [PhaseCoupled] at hlanded
    split_ifs at hlanded with hmev hfee
    · cases hlanded
      exact hmev
    · cases hlanded
      exact hfee
  obtain ⟨turn, hturn⟩ := exists_settled hv (by simp [hphase]) (by simp [hphase]) htime
  simp only [transitionPayTax, hturn, bind_eq_ok, require_eq_ok, exists_const, exists_and_left]
  refine ⟨hphase, hposition, ?_⟩
  cases hpaid : checkedSubtractMatchCash current.cash taxKind.amount with
  | none =>
    simp only [bind_eq_ok, require_eq_ok, exists_const, exists_and_left]
    refine ⟨?_, requireBankruptcy_isOk htime⟩
    rintro rfl
    have hless := checkedSubtractMatchCash_eq_none.1 hpaid
    have henough := hcash rfl
    simp only [TaxKind.amount, GameplayPolicy.priorityFeeTaxAmount] at hless
    omega
  | some cash =>
    simp only [bind_eq_ok, requireSome_eq_ok, Option.some.injEq, exists_eq_left', pure_eq_ok]
    exact ⟨_, rfl⟩

/-- A drawn card number is one of the five. -/
theorem drawCardIdFrom_mem {randomSource : RandomSource} {remaining attempt cardId bytes : ℕ}
    {cursor cursor' : randomSource.Cursor}
    (h : drawCardIdFrom randomSource remaining attempt cursor = some (cardId, bytes, cursor')) :
    1 ≤ cardId ∧ cardId ≤ 5 := by
  induction remaining generalizing attempt cursor with
  | zero => cases h
  | succ remaining ih =>
    unfold drawCardIdFrom at h
    split at h
    · split_ifs at h
      · cases h
        simp only [cardCount]
        omega
      · exact ih h
    · cases h

theorem drawGameplayCard_mem {randomSource : RandomSource} {cardId : ℕ} {rng : RandomCheckpoint}
    (h : drawGameplayCard state randomSource = .ok (cardId, rng)) : 1 ≤ cardId ∧ cardId ≤ 5 := by
  simp only [drawGameplayCard, bind_eq_ok, requireSome_eq_ok, require_eq_ok, pure_eq_ok,
    Prod.exists, exists_const, Prod.mk.injEq] at h
  obtain ⟨cursor, -, id, bytes, cursor', hdraw, rng, -, -, rfl, rfl⟩ := h
  exact drawCardIdFrom_mem hdraw

/-- The continuation of a card has a turn. -/
theorem exists_continuation (hv : ValidActive state) {position : ℕ} (hposition : position < 40)
    (htime : ClockableTime nowMs) (moved : Bool) :
    ∃ turn, continuationTurn state position nowMs moved = some turn := by
  unfold continuationTurn
  cases moved
  · exact exists_clockedTurn _ htime (settledPhase_clocked _)
  · exact exists_landing hv _ hposition htime _

theorem length_occupants (hv : ValidActive state) (hp : Playable state) :
    2 ≤ (occupants state.players).length ∧ (occupants state.players).length ≤ 4 := by
  have hactive := hp.two_active
  have hcount := length_activeTerminalPlayers state.players
  have hle : (activeTerminalPlayers state.players).length ≤ (occupants state.players).length := by
    rw [activeTerminalPlayers, List.length_map]
    exact List.length_filter_le ..
  have hslots : (occupants state.players).length ≤ state.players.length :=
    List.length_filterMap_le ..
  rw [hv.table.length_players] at hslots
  exact ⟨by omega, hslots⟩

/-- A drawn card is resolved: it bankrupts the player, moves them, or settles the landing. -/
theorem transitionGameplayCard_isOk {context : GameplayCommandContext}
    {command : GameplayCardCommand} (hv : ValidActive state) (hp : Playable state)
    (hb : Budgeted state.toGameplayAggregateStateBase) (hc : IsCurrent state current)
    (hversion : state.stateVersion < maxStateVersion)
    (hactor : cardActorAuthorized command current context = true)
    (hphase : state.turn.phase = .awaitingCardDraw (commandDeck command))
    (hstart : state.turn.startedAtMs ≤ context.nowMs) (htime : ClockableTime context.nowMs)
    (hdraw : ∃ drawn, drawGameplayCard state context.randomSource = .ok drawn ∧
      (commandDeck command = .chance → drawn.1 = 5 → current.getOutOfJailCards ≠ 255)) :
    ∃ result, transitionGameplayCard state command state.stateVersion context = .ok result := by
  obtain ⟨⟨cardId, rng⟩, hdraw, hhand⟩ := hdraw
  have hr := hc.rules hv
  have hcheck : checkCommand state true state.stateVersion context.nowMs = .ok () :=
    checkCommand_eq_ok.2 ⟨rfl, hv, htime.1, hstart, rfl, hversion⟩
  have hroom := hb.room hc.1
  have hcard : ValidCardState current.toCard := ⟨hr.cash, hr.position_lt, hr.cards_le⟩
  obtain ⟨resolution, hresolution⟩ := resolveCard_isOk hcard
    (show current.cash + 200 ≤ maxMatchCash by omega) (length_occupants hv hp)
    (drawGameplayCard_mem hdraw) hhand
  have hposition := (resolveCard_eq_ok hresolution).1.position_lt
  simp only [transitionGameplayCard, hcheck, activeGameplayPlayer_eq_some.2 hc, hdraw, hresolution,
    bind_eq_ok, require_eq_ok, requireSome_eq_ok, exists_const, Option.some.injEq, exists_eq_left',
    Except.ok.injEq, exists_and_left, true_and]
  refine ⟨hactor, hphase, ?_⟩
  split
  · obtain ⟨turn, hturn⟩ := exists_clockedTurn current.seatIndex htime (.inr (.inl rfl))
    simp only [hturn, bind_eq_ok, requireSome_eq_ok, pure_eq_ok]
    exact ⟨_, turn, rfl, rfl⟩
  · obtain ⟨turn, hturn⟩ := exists_continuation hv hposition htime resolution.movement.isSome
    simp only [hturn, bind_eq_ok, requireSome_eq_ok, pure_eq_ok]
    exact ⟨_, turn, rfl, rfl⟩

/-- An elimination that ends the game leaves a last player standing, who can be ranked. -/
theorem exists_lastPlayer {resolution : BankruptcyResolution} {seat : ℕ} (hv : ValidActive state)
    (hp : Playable state)
    (helim : Eliminated state state.turn.currentSeatIndex state.players current resolution)
    (hok : resolveBankruptcy (bankruptcyPlayers state.players) state.properties state.inventory
      state.bankCash seat = .ok resolution)
    (hend : resolution.endConditionMet = true) (hnow : IsSafeInteger nowMs ∧ 0 ≤ nowMs) :
    ∃ terminal, deriveBankruptcyTerminalOutcome resolution nowMs = .ok terminal ∧
      ∃ winner, terminalWinner (updateSlot state.turn.currentSeatIndex
        GameplayPlayerState.eliminate state.players) terminal = some winner ∧
      ∃ ranking, eventRanking (updateSlot state.turn.currentSeatIndex
        GameplayPlayerState.eliminate state.players) terminal.ranking = some ranking := by
  have hcount := activeCount_eliminate helim.slot helim.active
  have htwo := hp.two_active
  have hle := helim.end_iff.1 hend
  have hone : (activeSeatIndexes resolution.players).length = 1 := by
    have hlength := length_activeSeatIndexes
      (updateSlot state.turn.currentSeatIndex GameplayPlayerState.eliminate state.players)
    rw [← helim.players_eq] at hlength
    omega
  obtain ⟨-, -, -, -, -, -, -, -, -, -, -, -, -, hwinner⟩ := resolveBankruptcy_eq_ok hok
  rw [if_pos hone] at hwinner
  obtain ⟨terminal, events, hterminal, hevents⟩ := @exists_terminal _ _ _ _ _ nowMs
    .lastPlayerStanding state (helim.table hv.table) (hp.purse_eliminate hv (.inl rfl)) (by omega)
    (fun _ => by omega) hnow
  obtain ⟨winner, ranking, hfirst, hranking, -⟩ := terminalEvents_eq_some.1 hevents
  refine ⟨terminal, ?_, winner, hfirst, ranking, hranking⟩
  simp only [deriveBankruptcyTerminalOutcome, bind_eq_ok, require_eq_ok, exists_const]
  refine ⟨⟨hend, ?_⟩, ⟨?_, ?_⟩, ?_⟩
  · rw [hwinner]
    intro hnone
    rw [List.head?_eq_none_iff] at hnone
    rw [hnone, List.length_nil] at hone
    omega
  · rwa [activeSeatIndexes, List.length_map] at hone
  · rw [hwinner, activeSeatIndexes, List.head?_map]
  · rw [helim.players_eq]
    exact hterminal

/-- A pending bankruptcy can be declared: the seat can be liquidated, and either the turn passes on
or the last player standing is ranked. -/
theorem transitionGameplayBankruptcy_isOk {context : GameplayCommandContext}
    (hv : ValidActive state) (hp : Playable state)
    (hb : Budgeted state.toGameplayAggregateStateBase) (hc : IsCurrent state current)
    (hversion : state.stateVersion < maxStateVersion)
    (hactor : context.actor = .player current.playerId)
    (hphase : state.turn.phase = .awaitingBankruptcy)
    (hstart : state.turn.startedAtMs ≤ context.nowMs) (htime : ClockableTime context.nowMs) :
    ∃ result, transitionGameplayBankruptcy state state.stateVersion context = .ok result := by
  have hcheck : checkCommand state true state.stateVersion context.nowMs = .ok () :=
    checkCommand_eq_ok.2 ⟨rfl, hv, htime.1, hstart, rfl, hversion⟩
  have hseat := hc.seatIndex_eq hv
  have hpending : state.bankruptcyRequiredSeatIndex = some current.seatIndex := by
    obtain ⟨-, hno⟩ | ⟨hpending, -⟩ := hv.turn.bankruptcy
    · exact absurd hphase hno
    · rw [hpending, hseat]
  obtain ⟨resolution, hok⟩ := hb.bankruptcy hc.1 hc.active
  obtain ⟨player, helim⟩ := eliminated_of_resolve hok
  have hmerge : mergePlayers state.players resolution.players = some (updateSlot
      state.turn.currentSeatIndex GameplayPlayerState.eliminate state.players) := by
    rw [helim.players_eq]
    refine mergePlayers_bankruptcyPlayers _ _ fun i p _ => ?_
    split_ifs <;> exact ⟨rfl, rfl, rfl⟩
  rw [← hseat] at hok
  simp only [transitionGameplayBankruptcy, hcheck, activeGameplayPlayer_eq_some.2 hc, hok, hmerge,
    bind_eq_ok, require_eq_ok, requireSome_eq_ok, exists_const, Option.some.injEq, exists_eq_left',
    exists_and_left, true_and]
  refine ⟨hactor, ⟨hphase, hpending⟩, ?_⟩
  split
  · obtain ⟨turn, hturn⟩ := exists_advance hv hp hc htime
    simp only [hturn, bind_eq_ok, requireSome_eq_ok, pure_eq_ok]
    exact ⟨_, turn, rfl, rfl⟩
  next hend =>
    have hlast : resolution.endConditionMet = true := by simpa using hend
    obtain ⟨terminal, hterminal, winner, hwinner, ranking, hranking⟩ :=
      exists_lastPlayer hv hp helim hok hlast ⟨htime.1, htime.2.1⟩
    simp only [hterminal, hwinner, hranking, bind_eq_ok, requireSome_eq_ok, Option.some.injEq,
      exists_eq_left', pure_eq_ok]
    exact ⟨_, rfl⟩

end Turns

/-! ### The natural move -/

/-- The command of a phase for the current player. -/
def naturalMove : TurnPhase → GameplayCommandBody
  | .awaitingRoll => .turn .rollDice
  | .awaitingPropertyDecision position => .property (.declineProperty position)
  | .awaitingRentPayment position => .property (.payRent position)
  | .awaitingCardDraw .chance => .card .drawChanceCard
  | .awaitingCardDraw .communityChest => .card .drawCommunityChestCard
  | .awaitingTaxPayment .mev => .property .payMevTax
  | .awaitingTaxPayment .priorityFee => .property .payPriorityFeeTax
  | .awaitingBankruptcy => .declareBankruptcy
  | .awaitingEndTurn => .turn .endTurn

/-- The random source delivers what the phase draws. -/
def Drawable (state : ActiveGameplayAggregateState) (randomSource : RandomSource) : Prop :=
  (state.turn.phase = .awaitingRoll →
    ∃ drawn, drawGameplayDice state randomSource = .ok drawn) ∧
  ∀ deck, state.turn.phase = .awaitingCardDraw deck →
    ∃ drawn, drawGameplayCard state randomSource = .ok drawn

/-- The two ways to have no move: a priority fee beyond the cash, and the get-out-of-jail card of
the chance deck for a full hand. -/
def Stuck (state : ActiveGameplayAggregateState) (current : GameplayPlayerState)
    (randomSource : RandomSource) : Prop :=
  (state.turn.phase = .awaitingTaxPayment .priorityFee ∧ current.cash < 75) ∨
  (state.turn.phase = .awaitingCardDraw .chance ∧ current.getOutOfJailCards = 255 ∧
    ∃ rng, drawGameplayCard state randomSource = .ok (5, rng))

/-- What a player needs to be heard: a version to move on to, and a clock that has room. -/
structure Heard (state : ActiveGameplayAggregateState) (current : GameplayPlayerState)
    (context : GameplayCommandContext) : Prop where
  isCurrent : IsCurrent state current
  actor : context.actor = .player current.playerId
  version : state.stateVersion < maxStateVersion
  started_le : state.turn.startedAtMs ≤ context.nowMs
  next : IsSafeInteger (context.nowMs + 90000)

section Moves

variable {state : ActiveGameplayAggregateState} {current : GameplayPlayerState}
  {context : GameplayCommandContext} (hv : ValidActive state) (hp : Playable state)
  (hb : Budgeted state.toGameplayAggregateStateBase) (hheard : Heard state current context)
include hv hheard

theorem Heard.time : ClockableTime context.nowMs := by
  have hnonneg := hv.turn.turn_valid.1.2.2.1.trans hheard.started_le
  have hnext := hheard.next
  exact ⟨⟨by omega, by omega⟩, hnonneg, hnext⟩

theorem Heard.admitted : Admitted state state.stateVersion context.nowMs :=
  ⟨hv, (hheard.time hv).1, hheard.started_le, rfl, hheard.version⟩

theorem Heard.checked {validCommand : Bool} (hcommand : validCommand = true) :
    checkCommand state validCommand state.stateVersion context.nowMs = .ok () :=
  checkCommand_eq_ok.2 ⟨hcommand, hheard.admitted hv⟩

theorem Heard.validContext : validContext context = true := by
  have htime := hheard.time hv
  have hid := (hv.table.player _ _ hheard.isCurrent.1).slot.2.1
  simp only [Pootown.validContext, hheard.actor, hid, Bool.and_true, decide_eq_true_eq]
  exact ⟨htime.1, htime.2.1⟩

/-- A command whose transition is accepted is accepted. -/
theorem Heard.accepted {body : GameplayCommandBody}
    (h : ∃ result, routeGameplay state ⟨state.stateVersion, body⟩ context = .ok result) :
    Accepted state body context := by
  obtain ⟨⟨state', events⟩, hresult⟩ := h
  exact ⟨state', events, (transitionGameplay_of_valid hv _ (hheard.validContext hv)).trans hresult⟩

/-- Past the common checks, a roll and the end of a turn are their own transitions. -/
theorem Heard.turn_eq :
    transitionGameplayTurn state .rollDice state.stateVersion context
      = transitionRoll state current context ∧
    transitionGameplayTurn state .endTurn state.stateVersion context
      = transitionEndTurn state context.nowMs := by
  have hchecked : checkCommand state (decide (0 ≤ context.nowMs)) state.stateVersion context.nowMs
      = .ok () := hheard.checked hv (decide_eq_true (hheard.time hv).2.1)
  have hcurrent := activeGameplayPlayer_eq_some.2 hheard.isCurrent
  constructor
  all_goals
    simp [transitionGameplayTurn, hchecked, hcurrent, playerActorAuthorized, hheard.actor, require,
      requireSome, bind, Except.bind]

/-- Past the common checks, so are the answers to a landing. -/
theorem Heard.property_eq (hphase : state.turn.phase ≠ .awaitingBankruptcy) :
    (∀ position < 40,
      transitionGameplayProperty state (.declineProperty position) state.stateVersion context
        = transitionDeclineProperty state current position context.nowMs ∧
      transitionGameplayProperty state (.payRent position) state.stateVersion context
        = transitionPayRent state current position context.nowMs) ∧
    transitionGameplayProperty state .payMevTax state.stateVersion context
      = transitionPayTax state current .mev context.nowMs ∧
    transitionGameplayProperty state .payPriorityFeeTax state.stateVersion context
      = transitionPayTax state current .priorityFee context.nowMs := by
  have hchecked := hheard.checked hv rfl
  have hcurrent := activeGameplayPlayer_eq_some.2 hheard.isCurrent
  have hsolvent : state.bankruptcyRequiredSeatIndex = none := by
    obtain ⟨hnone, -⟩ | ⟨-, hpending⟩ := hv.turn.bankruptcy
    · exact hnone
    · exact absurd hpending hphase
  refine ⟨fun position hlt => ⟨?_, ?_⟩, ?_, ?_⟩
  all_goals
    simp [transitionGameplayProperty, validPropertyCommand, GameplayPropertyCommand.position,
      GameplayPolicy.boardSize, *, hheard.actor, require, requireSome, bind, Except.bind]

end Moves

theorem keepsPlaying_isOk {result : GameplayTransitionResult} (h : ∃ next, result = .ok next) :
    ∃ next, keepsPlaying result = .ok next := by
  obtain ⟨next, rfl⟩ := h
  exact ⟨_, rfl⟩

/-- Whoever is not stuck can make the natural move of the phase. -/
theorem accepts_naturalMove {state : ActiveGameplayAggregateState} {current : GameplayPlayerState}
    {context : GameplayCommandContext} (hv : ValidActive state) (hp : Playable state)
    (hb : Budgeted state.toGameplayAggregateStateBase) (hheard : Heard state current context)
    (hdraw : Drawable state context.randomSource)
    (hfree : ¬ Stuck state current context.randomSource) :
    Accepted state (naturalMove state.turn.phase) context := by
  have htime := hheard.time hv
  have hc := hheard.isCurrent
  have hposition : ∀ position ∈ state.turn.phase.propertyPosition, position < 40 :=
    hv.turn.turn_valid.2.2.2
  obtain ⟨hroll, hend⟩ := hheard.turn_eq hv
  refine hheard.accepted hv ?_
  cases hphase : state.turn.phase with
  | awaitingRoll =>
    refine keepsPlaying_isOk ?_
    rw [hroll]
    exact transitionRoll_isOk hv hp hb hc hphase htime (hdraw.1 hphase)
  | awaitingEndTurn =>
    refine keepsPlaying_isOk ?_
    rw [hend]
    exact transitionEndTurn_isOk hv hp hc hphase htime
  | awaitingPropertyDecision position =>
    have hlt := hposition position (by rw [hphase]; rfl)
    refine keepsPlaying_isOk ?_
    rw [((hheard.property_eq hv (by simp [hphase])).1 position hlt).1]
    exact transitionDeclineProperty_isOk hv hc hphase htime
  | awaitingRentPayment position =>
    have hlt := hposition position (by rw [hphase]; rfl)
    refine keepsPlaying_isOk ?_
    rw [((hheard.property_eq hv (by simp [hphase])).1 position hlt).2]
    exact transitionPayRent_isOk hv hb hc hphase htime
  | awaitingTaxPayment taxKind =>
    obtain ⟨-, hmev, hfee⟩ := hheard.property_eq hv (by simp [hphase])
    cases taxKind with
    | mev =>
      refine keepsPlaying_isOk ?_
      rw [hmev]
      exact transitionPayTax_isOk hv hc hphase (by simp) htime
    | priorityFee =>
      refine keepsPlaying_isOk ?_
      rw [hfee]
      refine transitionPayTax_isOk hv hc hphase (fun _ => ?_) htime
      by_contra hless
      exact hfree (.inl ⟨hphase, by omega⟩)
  | awaitingCardDraw deck =>
    obtain ⟨drawn, hdrawn⟩ := hdraw.2 deck hphase
    have hhand : deck = .chance → drawn.1 = 5 → current.getOutOfJailCards ≠ 255 := by
      rintro rfl hfive hfull
      obtain ⟨cardId, rng⟩ := drawn
      obtain rfl : cardId = 5 := hfive
      exact hfree (.inr ⟨hphase, hfull, rng, hdrawn⟩)
    cases deck with
    | chance =>
      exact keepsPlaying_isOk (transitionGameplayCard_isOk hv hp hb hc hheard.version
        (by simp [cardActorAuthorized, hheard.actor]) hphase hheard.started_le htime
        ⟨drawn, hdrawn, hhand⟩)
    | communityChest =>
      exact keepsPlaying_isOk (transitionGameplayCard_isOk hv hp hb hc hheard.version
        (by simp [cardActorAuthorized, hheard.actor]) hphase hheard.started_le htime
        ⟨drawn, hdrawn, hhand⟩)
  | awaitingBankruptcy =>
    exact transitionGameplayBankruptcy_isOk hv hp hb hc hheard.version hheard.actor hphase
      hheard.started_le htime

/-- The fifth chance card is refused to a full hand. -/
theorem resolveCard_fullHand {card : CardPlayerState} {playerCount : ℕ}
    {resolution : CardResolution} (h : resolveCard .chance 5 card playerCount = .ok resolution) :
    card.getOutOfJailCards ≠ 255 := by
  have hfind : (cardsOf .chance).find? (fun candidate => candidate.id = 5) =
      some ⟨5, .getOutOfJailFree, 0⟩ := rfl
  simp only [resolveCard, hfind, bind_eq_ok, require_eq_ok, requireSome_eq_ok, exists_const,
    Option.some.injEq, exists_eq_left'] at h
  exact h.2.2.1

/-- Whoever is stuck can trade, and nothing else. -/
theorem stuck_only_trades {state : ActiveGameplayAggregateState} {current : GameplayPlayerState}
    {context : GameplayCommandContext} {body : GameplayCommandBody}
    (hheard : Heard state current context) (hstuck : Stuck state current context.randomSource)
    (h : Accepted state body context) : ∃ command, body = .trade command := by
  obtain ⟨state', events, hok⟩ := h
  obtain ⟨-, hstep⟩ := transitionGameplay_step hok
  have hphase : state.turn.phase = .awaitingTaxPayment .priorityFee ∨
      state.turn.phase = .awaitingCardDraw .chance := by
    obtain ⟨htax, -⟩ | ⟨hcard, -⟩ := hstuck
    · exact .inl htax
    · exact .inr hcard
  cases hstep with
  | trade command active _ hnone hstep => exact ⟨command, rfl⟩
  | turn command _ active _ hc hstep =>
    cases hstep with
    | endTurn turn hend => simp [hend] at hphase
    | roll _ dice rng _ _ hne hroll => simp [hroll] at hphase
  | jail command _ active _ hjail => simp [hjail] at hphase
  | bankruptcy _ resolution _ _ hpending => simp [hpending] at hphase
  | timeout command _ _ _ hactor =>
    rw [hheard.actor] at hactor
    cases hactor
  | property command player active _ hnone hc hstep =>
    obtain rfl := hheard.isCurrent.unique hc
    cases hstep with
    | decline position price dice hdecision => simp [hdecision] at hphase
    | buy position property definition dice hdecision => simp [hdecision] at hphase
    | bankruptcy hdue =>
      obtain ⟨position, hrent⟩ | hmev := hdue
      · simp [hrent] at hphase
      · simp [hmev] at hphase
    | rent position ownerSeat owner amount dice hrent => simp [hrent] at hphase
    | tax taxKind dice htax hdice htime hpaid =>
      obtain ⟨hfee, hless⟩ | ⟨hcard, -⟩ := hstuck
      · rw [hfee] at htax
        cases htax
        simp only [TaxKind.amount, GameplayPolicy.priorityFeeTaxAmount] at hpaid
        omega
      · simp [hcard] at htax
    | building action position property result hbuild =>
      obtain hroll | hend := hbuild
      · simp [hroll] at hphase
      · simp [hend] at hphase
  | card command player cardId rng resolution active _ hcard hc hdraw hresolution hstep =>
    obtain rfl := hheard.isCurrent.unique hc
    obtain ⟨hfee, -⟩ | ⟨hchance, hfull, rng', hfive⟩ := hstuck
    · simp [hfee] at hcard
    · rw [hchance] at hcard
      injection hcard with hdeck
      rw [hfive] at hdraw
      cases hdraw
      rw [← hdeck] at hresolution
      exact absurd hfull (resolveCard_fullHand hresolution)

/-- Whoever is stuck is so until the deadline: then the server's timers move the game on. -/
theorem stuck_until_deadline {state : ActiveGameplayAggregateState} {current : GameplayPlayerState}
    {context timer : GameplayCommandContext} (hv : ValidActive state) (hp : Playable state)
    (hheard : Heard state current context) (hstuck : Stuck state current context.randomSource)
    (hactor : timer.actor = .internal) (hdue : state.turn.deadlineAtMs ≤ timer.nowMs)
    (hnext : IsSafeInteger (timer.nowMs + 90000)) :
    Accepted state (.timeout .handleTurnTimeout) timer ∨
      Accepted state (.timeout .enforceGameTimeLimit) timer := by
  have hclock := hv.turn.turn_valid.1
  have hpolicy : 0 ≤ GameplayPolicy.turnTimeoutMs := by decide
  have hstart : state.turn.startedAtMs ≤ timer.nowMs := by omega
  have hnow : IsSafeInteger timer.nowMs := ⟨by omega, by omega⟩
  have hsolvent : state.bankruptcyRequiredSeatIndex = none := by
    obtain ⟨hnone, -⟩ | ⟨-, hpending⟩ := hv.turn.bankruptcy
    · exact hnone
    · obtain ⟨hfee, -⟩ | ⟨hcard, -⟩ := hstuck
      · simp [hfee] at hpending
      · simp [hcard] at hpending
  by_cases hend : ∃ gameEndAtMs ∈ state.gameEndAtMs, gameEndAtMs ≤ timer.nowMs
  · right
    rw [accepted_timer_iff hv hp hactor hnow hstart fun _ => hnext]
    exact ⟨hheard.version, hsolvent, by simp, hend⟩
  · left
    rw [accepted_timer_iff hv hp hactor hnow hstart fun _ => hnext]
    refine ⟨hheard.version, hsolvent, fun _ gameEndAtMs hmem => ?_, hdue⟩
    by_contra hle
    exact hend ⟨gameEndAtMs, hmem, not_lt.1 hle⟩

/-- In every valid state of a game that was reached by playing, the current player can make the
natural move of the phase, unless they are stuck.  Then they can trade at most, and from the
deadline on the server's timers move the game on. -/
theorem moves_unless_stuck (state : ActiveGameplayAggregateState) (current : GameplayPlayerState)
    (context : GameplayCommandContext) (hreach : ReachableGame (.inProgress state))
    (hvalid : isValidActiveGameplayAggregateState state = true)
    (hheard : Heard state current context) (hdraw : Drawable state context.randomSource) :
    (¬ Stuck state current context.randomSource →
      Accepted state (naturalMove state.turn.phase) context) ∧
    (Stuck state current context.randomSource →
      (∀ body, Accepted state body context → ∃ command, body = .trade command) ∧
      ∀ timer : GameplayCommandContext, timer.actor = .internal →
        state.turn.deadlineAtMs ≤ timer.nowMs → IsSafeInteger (timer.nowMs + 90000) →
        Accepted state (.timeout .handleTurnTimeout) timer ∨
          Accepted state (.timeout .enforceGameTimeLimit) timer) := by
  have hv := isValidActive_iff.1 hvalid
  have hp := playable_of_reachable hreach
  have hb : Budgeted state.toGameplayAggregateStateBase := (budgeted_of_reachable hreach).1
  refine ⟨accepts_naturalMove hv hp hb hheard hdraw, fun hstuck => ⟨fun body haccepted => ?_, ?_⟩⟩
  · exact stuck_only_trades hheard hstuck haccepted
  · intro timer hactor hdue hnext
    exact stuck_until_deadline hv hp hheard hstuck hactor hdue hnext

/-- Alice gives her money to Bob, and lands on a fee that she cannot pay. -/
def unpaidFee : Option GameplayAggregateState :=
  twoPlayerGame [plays "alice" (.trade (.createTrade "bob" (.moneyOnly 1500 1))) 1 10,
    plays "bob" (.trade (.acceptTrade "trade")) 2 20, rolls 6 6 3 30,
    plays "alice" (.property (.declineProperty 12)) 4 40, rolls 5 6 5 50,
    plays "alice" (.property (.declineProperty 23)) 6 60, plays "alice" (.turn .endTurn) 7 70,
    rolls 1 2 8 80, plays "bob" (.property (.declineProperty 3)) 9 90,
    plays "bob" (.turn .endTurn) 10 100, rolls 6 6 11 110,
    plays "alice" (.property (.declineProperty 35)) 12 120, rolls 1 2 13 130]

/-- So Alice is stuck. -/
theorem moves_unless_stuck_unpaidFee : ∃ state current context,
    ReachableGame (.inProgress state) ∧ Stuck state current context.randomSource ∧
    (∀ body, Accepted state body context → ∃ command, body = .trade command) := by
  obtain ⟨state, hgame, hcheck⟩ := exists_of_inProgressWith unpaidFee (fun state =>
    isValidActiveGameplayAggregateState state && decide (state.stateVersion = 14) &&
      decide (state.turn.phase = .awaitingTaxPayment .priorityFee) &&
      decide (state.turn.startedAtMs ≤ 140) &&
      (activeGameplayPlayer state).any fun current : GameplayPlayerState =>
        decide (current.playerId = "alice" ∧ current.cash < 75)) (by decide +kernel)
  simp only [Bool.and_eq_true, decide_eq_true_eq, Option.any_eq_true] at hcheck
  obtain ⟨⟨⟨⟨hvalid, hversion⟩, hphase⟩, hstarted⟩, current, hcurrent, halice, hless⟩ := hcheck
  let context := (plays "alice" (.turn .endTurn) 14 140).2
  have hreach := reachable_of_twoPlayerGame hgame
  have hheard : Heard state current context := {
    isCurrent := activeGameplayPlayer_eq_some.1 hcurrent
    actor := by rw [halice]; rfl
    version := by rw [hversion]; decide
    started_le := hstarted
    next := by decide }
  have hdraw : Drawable state context.randomSource := by
    constructor
    · intro hroll
      simp [hphase] at hroll
    · intro deck hcard
      simp [hphase] at hcard
  have hstuck : Stuck state current context.randomSource := .inl ⟨hphase, hless⟩
  have hmoves := moves_unless_stuck state current context hreach hvalid hheard hdraw
  exact ⟨state, current, context, hreach, hstuck, (hmoves.2 hstuck).1⟩

end Pootown
