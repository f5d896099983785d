import Mathlib.Tactic
import Pootown.Invariants.Validity
import Pootown.Transition.Play

/-!
# Trades and validity

Trades run beside the turn, so a trade can take away what a pending landing relies on.  The accepted
trades that leave a valid aggregate are exactly the undisturbing ones: the proposer is still in the
game, and the space whose rent is due does not go to the player who owes it.
-/

namespace Pootown

open Fallible Slots

/-! ### The property table after a settlement -/

/-- The owner of `position` once `trade` is settled. -/
def newOwner (trade : PendingTrade) (position : ℕ) (owner : Option ℕ) : Option ℕ :=
  if (propertyTerms trade.terms).1 = some position then some trade.receiverSeatIndex
  else if (propertyTerms trade.terms).2 = some position then some trade.proposerSeatIndex
  else owner

theorem exchangeProperties_eq_map {properties : List PropertyState} (trade : PendingTrade) :
    exchangeProperties properties trade = properties.map fun property =>
      { property with
        ownerSeatIndex := newOwner trade property.position property.ownerSeatIndex } := by
  unfold exchangeProperties newOwner
  refine List.map_congr_left fun property _ => ?_
  split_ifs <;> rfl

theorem getElem?_exchangeProperties {properties : List PropertyState}
    (hv : isValidPropertyStates properties = true) (trade : PendingTrade) (i : ℕ) :
    (exchangeProperties properties trade)[i]? = (properties[i]?).map fun property =>
      { property with ownerSeatIndex := newOwner trade i property.ownerSeatIndex } := by
  rw [exchangeProperties_eq_map, List.getElem?_map]
  cases hp : properties[i]? with
  | none => rfl
  | some property => rw [Option.map_some, Option.map_some, position_of_getElem? hv hp]

section Settlement

variable {state : ActiveGameplayAggregateState} {tradeId : String} {nowMs expected : ℤ}
  {trade : PendingTrade} {proposer receiver : GameplayPlayerState}
  (hs : Settleable state tradeId nowMs trade proposer receiver) (hv : ValidActive state)
include hs hv

omit hv in
/-- A space that changes hands was owned, and goes to one of the two parties. -/
theorem Settleable.newOwner_cases {i : ℕ} {property : PropertyState}
    (hp : state.properties[i]? = some property) :
    (newOwner trade i property.ownerSeatIndex = property.ownerSeatIndex) ∨
    (property.ownerSeatIndex ≠ none ∧ property.mortgaged = false ∧
      (((propertyTerms trade.terms).1 = some i ∧
          newOwner trade i property.ownerSeatIndex = some trade.receiverSeatIndex) ∨
        ((propertyTerms trade.terms).2 = some i ∧
          newOwner trade i property.ownerSeatIndex = some trade.proposerSeatIndex))) := by
  unfold newOwner
  split_ifs with hoffered hrequested
  · obtain ⟨property', hp', howner, hclear⟩ := hs.offered_owned i hoffered
    rw [hp] at hp'
    cases hp'
    exact .inr ⟨by simp [howner], hclear, .inl ⟨hoffered, rfl⟩⟩
  · obtain ⟨property', hp', howner, hclear⟩ := hs.requested_owned i hrequested
    rw [hp] at hp'
    cases hp'
    exact .inr ⟨by simp [howner], hclear, .inr ⟨hrequested, rfl⟩⟩
  · exact .inl rfl

theorem Settleable.stock :
    isValidBuildingInventory (exchangeProperties state.properties trade) state.inventory
      = true := by
  obtain ⟨hprops, hhouses, hhotels⟩ := isValidBuildingInventory_iff.1 hv.table.stock
  have hseats : trade.proposerSeatIndex < 4 ∧ trade.receiverSeatIndex < 4 :=
    ⟨hv.table.seat_lt hs.proposer_slot, hv.table.seat_lt hs.receiver_slot⟩
  refine isValidBuildingInventory_iff.2 ⟨isValidPropertyStates_iff.2 ⟨?_, fun i p d hp hd => ?_⟩,
    ?_, ?_⟩
  · rw [exchangeProperties_eq_map, List.length_map, length_properties hprops]
  · rw [getElem?_exchangeProperties hprops] at hp
    obtain ⟨property, hproperty, rfl⟩ := Option.map_eq_some_iff.1 hp
    have hvp := validPropertyState_of_getElem? hprops hproperty hd
    obtain hsame | ⟨hsome, -, hnew⟩ := hs.newOwner_cases hproperty
    · rw [hsame]
      exact hvp
    · obtain ⟨seat, hlt, hseat⟩ : ∃ seat < 4,
          newOwner trade i property.ownerSeatIndex = some seat := by
        obtain ⟨-, h⟩ | ⟨-, h⟩ := hnew
        · exact ⟨_, hseats.2, h⟩
        · exact ⟨_, hseats.1, h⟩
      rw [hseat]
      exact { hvp with
        owner_le := fun owner ho => by cases ho; omega
        unowned_clean := fun hcon => nomatch hcon
        ownable_of_owned := fun hcon => absurd (hvp.ownable_of_owned hcon) hsome }
  · rw [← hhouses, exchangeProperties_eq_map, housesOnBoard, housesOnBoard, List.map_map]
    rfl
  · rw [← hhotels, exchangeProperties_eq_map, hotelsOnBoard_eq_sum, hotelsOnBoard_eq_sum,
      List.map_map]
    rfl

/-- With the proposer still in the game the table after the settlement is valid. -/
theorem Settleable.table (hproposer : proposer.status = .active)
    (hreceiver : receiver.status = .active) (trades : List PendingTrade) :
    ValidTable (afterSettlement state trades trade proposer receiver).players
      (exchangeProperties state.properties trade) state.inventory state.bankCash
      state.startedAtMs := by
  refine hv.table.rewrite hv.table.bank (hs.stock hv) (fun _ _ _ => ⟨rfl, rfl, rfl⟩)
    (fun i p hp => ?_) fun i property owner hi ho => ?_
  · unfold settledCash
    split_ifs with hip hir
    · subst hip
      rw [hs.proposer_slot] at hp
      cases hp
      have h₁ := hs.offered_le
      have h₂ := (cashTerms_nonneg hs.terms).2
      exact cash_rules (hv.table.player _ _ hs.proposer_slot).rules hproposer
        ⟨by omega, hs.proposer_max⟩
    · subst hir
      rw [hs.receiver_slot] at hp
      cases hp
      have h₁ := hs.requested_le
      have h₂ := (cashTerms_nonneg hs.terms).1
      exact cash_rules (hv.table.player _ _ hs.receiver_slot).rules hreceiver
        ⟨by omega, hs.receiver_max⟩
    · exact (hv.table.player i p hp).rules
  · rw [getElem?_exchangeProperties hv.table.properties_valid] at hi
    obtain ⟨original, horiginal, rfl⟩ := Option.map_eq_some_iff.1 hi
    obtain hsame | ⟨-, -, ⟨-, hnew⟩ | ⟨-, hnew⟩⟩ := hs.newOwner_cases horiginal
    · exact hv.table.owner i original owner horiginal (hsame ▸ ho)
    · rw [hnew] at ho
      cases ho
      exact ⟨receiver, hs.receiver_slot, hreceiver⟩
    · rw [hnew] at ho
      cases ho
      exact ⟨proposer, hs.proposer_slot, hproposer⟩

/-- A valid aggregate after the settlement has the proposer still in the game: an eliminated
proposer has nothing to give and may take nothing. -/
theorem Settleable.proposer_active {trades : List PendingTrade}
    (h : ValidActive (afterSettlement state trades trade proposer receiver)) :
    proposer.status = .active := by
  cases hstatus : proposer.status with
  | active => rfl
  | eliminated =>
    exfalso
    have hslot : slotAt (afterSettlement state trades trade proposer receiver).players
        trade.proposerSeatIndex = some { proposer with
          cash := settledCash trade proposer receiver trade.proposerSeatIndex proposer.cash } := by
      simp only [afterSettlement, slotAt_mapSlots, hs.proposer_slot, Option.map_some]
    have hbefore := ((hv.table.player _ _ hs.proposer_slot).rules.eliminated hstatus).1
    have hafter := ((h.table.player _ _ hslot).rules.eliminated hstatus).1
    simp only [settledCash, if_true] at hafter
    have hcash := cashTerms_nonneg hs.terms
    have hgive := hs.offered_le
    have howns : ∀ (i : ℕ) (property : PropertyState), (afterSettlement state trades trade proposer receiver).properties[i]?
        = some property → property.ownerSeatIndex ≠ some trade.proposerSeatIndex := by
      intro i property hp ho
      obtain ⟨p, hpslot, hactive⟩ := h.table.owner i property _ hp ho
      rw [hslot] at hpslot
      cases hpslot
      simp [hstatus] at hactive
    have hgets : ∀ i, (propertyTerms trade.terms).2 = some i →
        (propertyTerms trade.terms).1 ≠ some i → False := by
      intro i hi hne
      obtain ⟨property, hp, -, -⟩ := hs.requested_owned i hi
      refine howns i { property with ownerSeatIndex := some trade.proposerSeatIndex } ?_ rfl
      simp only [afterSettlement, getElem?_exchangeProperties hv.table.properties_valid, hp,
        Option.map_some, newOwner, if_neg hne, if_pos hi]
    have hgives : (propertyTerms trade.terms).1 = none := by
      cases hoffered : (propertyTerms trade.terms).1 with
      | none => rfl
      | some i =>
        obtain ⟨property, hp, howner, -⟩ := hs.offered_owned i hoffered
        obtain ⟨p, hpslot, hactive⟩ := hv.table.owner i property _ hp howner
        rw [hs.proposer_slot] at hpslot
        cases hpslot
        rw [hstatus] at hactive
        cases hactive
    -- nothing to give, so the trade can only hand over requested cash or a requested space
    have hterms := hs.terms
    cases hshape : trade.terms with
    | moneyOnly offeredCash requestedCash =>
      rw [hshape] at hterms hafter hgive hcash
      simp only [validTerms, decide_eq_true_eq] at hterms
      simp only [cashTerms] at hafter hgive hcash
      omega
    | propertyOnly offered requested =>
      rw [hshape] at hterms hgives
      simp only [validTerms, decide_eq_true_eq, propertyTerms] at hterms hgives
      obtain ⟨i, hi⟩ := Option.ne_none_iff_exists'.1 (hterms.2.2.1.resolve_left fun h => h hgives)
      exact hgets i (by rw [hshape]; exact hi) (by rw [hshape]; simp [propertyTerms, hgives])
    | moneyForProperty offeredCash requested =>
      rw [hshape] at hterms hgive
      simp only [validTerms, decide_eq_true_eq] at hterms
      simp only [cashTerms] at hgive
      omega
    | propertyForMoney offered requestedCash =>
      rw [hshape] at hgives
      cases hgives

end Settlement

/-! ### The trades that keep the aggregate valid -/

/-- The settlement does not hand the space whose rent is due to the player who owes it. -/
def RentUndisturbed (state : ActiveGameplayAggregateState) (trade : PendingTrade) : Prop :=
  ∀ position, state.turn.phase = .awaitingRentPayment position →
    ((propertyTerms trade.terms).1 = some position →
      trade.receiverSeatIndex ≠ state.turn.currentSeatIndex) ∧
    ((propertyTerms trade.terms).2 = some position →
      trade.proposerSeatIndex ≠ state.turn.currentSeatIndex)

/-- The trade commands that leave a valid aggregate when accepted: all but the acceptance of a trade
whose proposer is out, or that hands over the space whose rent is due. -/
def Undisturbing (state : ActiveGameplayAggregateState) : GameplayTradeCommand → Prop
  | .acceptTrade tradeId => ∀ trade,
      state.activeTrades.find? (fun candidate => candidate.tradeId = tradeId) = some trade →
      (∃ proposer, slotAt state.players trade.proposerSeatIndex = some proposer ∧
        proposer.status = .active) ∧ RentUndisturbed state trade
  | _ => True

section Coupling

variable {state : ActiveGameplayAggregateState} {tradeId : String} {nowMs expected : ℤ}
  {trade : PendingTrade} {proposer receiver current : GameplayPlayerState}
  (hs : Settleable state tradeId nowMs trade proposer receiver) (hv : ValidActive state)
include hs hv

/-- The phase fits the current player after the settlement exactly when rent is undisturbed. -/
theorem Settleable.coupled_iff {cash : ℤ} (hc : IsCurrent state current) :
    PhaseCoupled (exchangeProperties state.properties trade) { current with cash := cash }
      state.turn.phase ↔ RentUndisturbed state trade := by
  have hbefore := hc.phase hv
  have hseat := hc.seatIndex_eq hv
  have hget := getElem?_exchangeProperties hv.table.properties_valid trade
  cases hphase : state.turn.phase with
  | awaitingRentPayment position =>
    rw [hphase] at hbefore
    obtain ⟨hpos, property, hp, definition, hd, hown, hsome, hother, hclear⟩ := hbefore
    rw [Option.mem_def] at hp
    have hafter := hget position
    rw [hp, Option.map_some] at hafter
    constructor
    · rintro ⟨-, property', hp', -, -, -, -, hne, -⟩ _ hphase'
      rw [hphase] at hphase'
      cases hphase'
      rw [Option.mem_def, hafter] at hp'
      cases hp'
      rw [hseat] at hne
      constructor
      · intro hoffered hcon
        exact hne (by simp [newOwner, hoffered, hcon])
      · intro hrequested hcon
        refine hne ?_
        have hoffered : (propertyTerms trade.terms).1 ≠ some position := by
          intro hoffered
          obtain ⟨p₁, hp₁, ho₁, -⟩ := hs.offered_owned position hoffered
          obtain ⟨p₂, hp₂, ho₂, -⟩ := hs.requested_owned position hrequested
          rw [hp₁] at hp₂
          cases hp₂
          rw [ho₁, Option.some.injEq] at ho₂
          exact hs.seats_ne ho₂
        simp [newOwner, hoffered, hrequested, hcon]
    · intro hrent
      obtain ⟨hoff, hreq⟩ := hrent position hphase
      refine ⟨hpos, _, hafter, definition, hd, hown, ?_⟩
      obtain hsame | ⟨-, -, ⟨hoffered, hnew⟩ | ⟨hrequested, hnew⟩⟩ := hs.newOwner_cases hp
      · rw [hsame]
        exact ⟨hsome, hother, hclear⟩
      · rw [hnew]
        exact ⟨by simp, by rw [hseat]; simpa using hoff hoffered, hclear⟩
      · rw [hnew]
        exact ⟨by simp, by rw [hseat]; simpa using hreq hrequested, hclear⟩
  | awaitingPropertyDecision position =>
    rw [hphase] at hbefore
    obtain ⟨hpos, property, hp, definition, hd, hown, hnone⟩ := hbefore
    refine iff_of_true ⟨hpos, _, by rw [hget position, hp]; rfl, definition, hd, hown, ?_⟩
      fun _ hcon => nomatch hphase.symm.trans hcon
    obtain hsame | ⟨hsome, -⟩ := hs.newOwner_cases hp
    · exact hsame.trans hnone
    · exact absurd hnone hsome
  | awaitingCardDraw deck =>
    rw [hphase] at hbefore
    refine iff_of_true ⟨?_, hbefore.2⟩ fun _ hcon => nomatch hphase.symm.trans hcon
    rw [hget current.position, Option.map_map]
    exact hbefore.1
  | awaitingTaxPayment taxKind =>
    rw [hphase] at hbefore
    exact iff_of_true hbefore fun _ hcon => nomatch hphase.symm.trans hcon
  | _ => exact iff_of_true trivial fun _ hcon => nomatch hphase.symm.trans hcon

end Coupling

section Steps

variable {state state' : ActiveGameplayAggregateState} {expected nowMs : ℤ}
  {events : List GameplayDomainEvent}

/-- Another book of valid trades leaves a valid aggregate. -/
theorem withBook_valid {trades : List PendingTrade} (hadm : Admitted state expected nowMs)
    (htrades : ∀ trade ∈ trades, ValidPendingTrade trade) : ValidActive (withBook state trades) where
  header := hadm.header rfl rfl rfl rfl rfl hadm.valid.header.rng
  table := hadm.valid.table
  trades := htrades
  turn := hadm.valid.turn

theorem afterSettlement_valid_iff {tradeId : String} {trades : List PendingTrade}
    {trade : PendingTrade} {proposer receiver : GameplayPlayerState}
    (hadm : Admitted state expected nowMs)
    (hs : Settleable state tradeId nowMs trade proposer receiver)
    (hreceiver : receiver.status = .active) (htrades : ∀ trade ∈ trades, trade ∈ state.activeTrades) :
    ValidActive (afterSettlement state trades trade proposer receiver) ↔
      proposer.status = .active ∧ RentUndisturbed state trade := by
  have hv := hadm.valid
  obtain ⟨current, hc, -⟩ := hv.exists_current
  obtain ⟨cash, hslot⟩ : ∃ cash, slotAt (afterSettlement state trades trade proposer
      receiver).players state.turn.currentSeatIndex = some { current with cash := cash } := by
    refine ⟨settledCash trade proposer receiver state.turn.currentSeatIndex current.cash, ?_⟩
    simp only [afterSettlement, slotAt_mapSlots, hc.1, Option.map_some]
  constructor
  · intro h
    have hcurrent : IsCurrent (afterSettlement state trades trade proposer receiver)
        { current with cash := cash } := ⟨hslot, hc.active⟩
    have hphase := hcurrent.phase h
    exact ⟨hs.proposer_active hv h, (hs.coupled_iff hv hc).1 hphase⟩
  · rintro ⟨hproposer, hrent⟩
    exact {
      header := hadm.header rfl rfl rfl rfl rfl hv.header.rng
      table := hs.table hv hproposer hreceiver trades
      trades := fun trade htrade => hv.trades trade (htrades trade htrade)
      turn := { hv.turn with
        current := ⟨_, hslot, hc.active, (hs.coupled_iff hv hc).2 hrent⟩ } }

/-- Which accepted trade commands leave a valid aggregate. -/
theorem TradeStep.valid_iff {command : GameplayTradeCommand}
    (h : TradeStep state nowMs command state' events) (hadm : Admitted state expected nowMs) :
    ValidActive state' ↔ Undisturbing state command := by
  have hkeeps : ∀ {trades : List PendingTrade}, (∀ trade ∈ trades, trade ∈ state.activeTrades) →
      ∀ trade ∈ trades, ValidPendingTrade trade :=
    fun hsub trade htrade => hadm.valid.trades trade (hsub trade htrade)
  cases h with
  | cleanup trades expired hsub _ => exact iff_of_true (withBook_valid hadm (hkeeps hsub)) trivial
  | created receiverId proposerId terms trades trade expired hsub hvalid =>
    refine iff_of_true (withBook_valid hadm fun t ht => ?_) trivial
    obtain ht | ht := List.mem_append.1 ht
    · exact hkeeps hsub t ht
    · rw [List.mem_singleton.1 ht]
      exact hvalid
  | accepted tradeId trades trade proposer receiver expired hsub hreceiver hs =>
    rw [afterSettlement_valid_iff hadm hs hreceiver hsub]
    constructor
    · rintro ⟨hproposer, hrent⟩ trade' hfound
      rw [hs.found] at hfound
      cases hfound
      exact ⟨⟨proposer, hs.proposer_slot, hproposer⟩, hrent⟩
    · intro h
      obtain ⟨⟨proposer', hslot, hactive⟩, hrent⟩ := h trade hs.found
      rw [hs.proposer_slot] at hslot
      cases hslot
      exact ⟨hactive, hrent⟩
  | rejected tradeId rejecterId trades trade expired hsub =>
    exact iff_of_true (withBook_valid hadm (hkeeps hsub)) trivial
  | cancelled tradeId cancellerId trades trade expired hsub =>
    exact iff_of_true (withBook_valid hadm (hkeeps hsub)) trivial

end Steps

/-- An accepted trade command leaves a valid aggregate exactly when it is undisturbing. -/
theorem trade_keeps_valid_iff (state : ActiveGameplayAggregateState)
    (command : GameplayTradeCommand) (expectedStateVersion : ℤ)
    (context : GameplayCommandContext) (state' : GameplayAggregateState)
    (events : List GameplayDomainEvent)
    (h : transitionGameplay (.inProgress state) ⟨expectedStateVersion, .trade command⟩ context
      = .ok (state', events)) :
    isValidGameplayAggregateState state' = true ↔ Undisturbing state command := by
  obtain ⟨hadm, hstep⟩ := transitionGameplay_step h
  cases hstep with
  | trade _ active _ _ htrade =>
    rw [isValidGameplayAggregateState_iff]
    exact htrade.valid_iff hadm

/-- Bob owes Alice rent for space 3, and she offers him that very space for 100. -/
def rentDispute : Option GameplayAggregateState :=
  twoPlayerGame [
    rolls 1 2 1 10,
    plays "alice" (.property (.buyProperty 3)) 2 20,
    plays "alice" (.turn .endTurn) 3 30,
    rolls 1 2 4 40,
    plays "alice" (.trade (.createTrade "bob" (.propertyForMoney 3 100))) 5 50]

/-- Rejecting the offer keeps the dispute valid. -/
theorem trade_keeps_valid_iff_rejected : ∃ state state' events,
    rentDispute = some (.inProgress state) ∧
    transitionGameplay (.inProgress state) ⟨6, .trade (.rejectTrade "trade")⟩
      (plays "bob" (.trade (.rejectTrade "trade")) 6 60).2 = .ok (state', events) ∧
    (isValidGameplayAggregateState state' = true ↔
      Undisturbing state (.rejectTrade "trade")) := by
  obtain ⟨state, state', events, hstart, hok, -⟩ := exists_of_acceptedWith rentDispute
    (plays "bob" (.trade (.rejectTrade "trade")) 6 60) (fun _ _ _ => true) (by decide +kernel)
  exact ⟨state, state', events, hstart, hok, trade_keeps_valid_iff _ _ _ _ _ _ hok⟩

/-- Accepting it makes Bob owe rent to himself: the state that results is not valid. -/
theorem not_trade_keeps_valid : ¬ ∀ (state : ActiveGameplayAggregateState)
    (command : GameplayTradeCommand) (expectedStateVersion : ℤ)
    (context : GameplayCommandContext) (state' : GameplayAggregateState)
    (events : List GameplayDomainEvent), isValidActiveGameplayAggregateState state = true →
    transitionGameplay (.inProgress state) ⟨expectedStateVersion, .trade command⟩ context
      = .ok (state', events) → isValidGameplayAggregateState state' = true := by
  intro h
  obtain ⟨state, state', events, -, hok, hcheck⟩ := exists_of_acceptedWith rentDispute
    (plays "bob" (.trade (.acceptTrade "trade")) 6 60)
    (fun state state' _ => isValidActiveGameplayAggregateState state &&
      !isValidGameplayAggregateState state') (by decide +kernel)
  simp only [Bool.and_eq_true, Bool.not_eq_true'] at hcheck
  rw [h state _ _ _ state' events hcheck.1 hok] at hcheck
  cases hcheck.2

end Pootown
