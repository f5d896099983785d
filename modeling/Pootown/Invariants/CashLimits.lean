import Mathlib.Tactic
import Pootown.Invariants.Opening
import Pootown.Invariants.Timers
import Pootown.Invariants.TradeBook
import Pootown.Invariants.Trades

/-!
# Cash stays far from the limit

A command adds at most 28000 to the cash of a game, and the versions bound the commands.  So no sum
of amounts comes near the largest amount, and no check on such a sum ever fails.

* `cashCeiling`; `Budgeted`, which every reachable aggregate is, valid or not: `budgeted_of_reachable`;
* `Budgeted.netWorth`, `Budgeted.bankruptcy`: what can be computed from it;
* `CashAnswer`: no rejection names a sum of cash out of range, and `transitionGameplay_cash`;
* `cash_never_overflows`.
-/

namespace Pootown

open Fallible Runs Slots

/-! ### The ceiling -/

/-- The most cash a game can hold at its last version. -/
def cashCeiling : ℤ := 1006000 + 28000 * maxStateVersion

theorem cashCeiling_room : 2 * cashCeiling + 48000 ≤ maxMatchCash := by decide

/-- What every reachable aggregate has: a table that can be liquidated, and cash that its version
accounts for. -/
structure Budgeted (state : GameplayAggregateStateBase) : Prop where
  liquidatable : isValidBankruptcyState (bankruptcyPlayers state.players) state.properties
    state.inventory state.bankCash = true
  pool : 0 ≤ state.freeParkingPool
  version : state.stateVersion ≤ maxStateVersion
  total_le : totalCash state ≤ 1006000 + 28000 * state.stateVersion

namespace Budgeted

variable {state : GameplayAggregateStateBase} (h : Budgeted state)
include h

theorem rules {i : ℕ} {p : GameplayPlayerState} (hslot : slotAt state.players i = some p) :
    ValidBankruptcyPlayer p.toBankruptcyPlayerState i := by
  obtain ⟨-, -, -, hplayers, -⟩ := isValidBankruptcyState_iff.1 h.liquidatable
  exact hplayers i _ (by rw [slotAt_bankruptcyPlayers, hslot]; rfl)

theorem bank : IsMatchCash state.bankCash :=
  (isValidBankruptcyState_iff.1 h.liquidatable).2.1

theorem properties : isValidPropertyStates state.properties = true :=
  (isValidBuildingInventory_iff.1 (isValidBankruptcyState_iff.1 h.liquidatable).2.2.1).1

theorem seat_lt {i : ℕ} {p : GameplayPlayerState} (hslot : slotAt state.players i = some p) :
    i < 4 := by
  have hlen := (isValidBankruptcyState_iff.1 h.liquidatable).1
  rw [bankruptcyPlayers, length_mapSlots] at hlen
  exact hlen ▸ lt_length_of_slotAt hslot

/-- A purse and the bank together are below the ceiling. -/
theorem purse_le {i : ℕ} {p : GameplayPlayerState} (hslot : slotAt state.players i = some p) :
    state.bankCash + p.cash ≤ cashCeiling := by
  have hle : p.cash ≤ total (fun player => player.cash) state.players :=
    le_total (fun j q hq => (h.rules hq).cash.1) hslot
  have hpool := h.pool
  have hversion := h.version
  have htotal := h.total_le
  simp only [totalCash, cashCeiling] at htotal ⊢
  omega

theorem bank_le : state.bankCash ≤ cashCeiling := by
  have hle : 0 ≤ total (fun player => player.cash) state.players :=
    total_nonneg fun j q hq => (h.rules hq).cash.1
  have hpool := h.pool
  have hversion := h.version
  have htotal := h.total_le
  simp only [totalCash, cashCeiling] at htotal ⊢
  omega

/-- A purse has room for what a command can add to it. -/
theorem room {i : ℕ} {p : GameplayPlayerState} (hslot : slotAt state.players i = some p) :
    p.cash + 48000 ≤ maxMatchCash := by
  have hpurse := h.purse_le hslot
  have hbank := h.bank.1
  have hroom := cashCeiling_room
  have hceiling : 0 ≤ cashCeiling := by decide
  omega

/-- Two purses fit into one. -/
theorem add_le {i j : ℕ} {p q : GameplayPlayerState} (hi : slotAt state.players i = some p)
    (hj : slotAt state.players j = some q) : p.cash + q.cash ≤ maxMatchCash := by
  have hp := h.purse_le hi
  have hq := h.purse_le hj
  have hbank := h.bank.1
  have hroom := cashCeiling_room
  omega

/-- Every active player has a net worth, and it is in range. -/
theorem netWorth {i : ℕ} {p : GameplayPlayerState} (hslot : slotAt state.players i = some p)
    (hactive : p.status = .active) :
    ∃ netWorth, calculatePlayerNetWorth p.toTerminal state.properties = some netWorth ∧
      netWorth ≤ maxMatchCash := by
  have hr := h.rules hslot
  have hlt := h.seat_lt hslot
  have hseat : p.toTerminal.seatIndex = i := hr.seatIndex_eq
  have hvalid : ValidTerminalPlayer p.toTerminal :=
    ⟨hseat ▸ hlt, hr.cash, fun hout => (hr.eliminated hout).1⟩
  obtain ⟨netWorth, hnet⟩ :=
    calculatePlayerNetWorth_isSome hvalid h.properties hactive (h.room hslot)
  exact ⟨netWorth, hnet, (calculatePlayerNetWorth_eq_some hnet).2.2⟩

/-- Every active seat can be liquidated. -/
theorem bankruptcy {i : ℕ} {p : GameplayPlayerState} (hslot : slotAt state.players i = some p)
    (hactive : p.status = .active) :
    ∃ resolution, resolveBankruptcy (bankruptcyPlayers state.players) state.properties
      state.inventory state.bankCash i = .ok resolution := by
  have hpurse := h.purse_le hslot
  have hroom := cashCeiling_room
  have hceiling : 0 ≤ cashCeiling := by decide
  refine resolveBankruptcy_isOk h.liquidatable (h.seat_lt hslot)
    (by rw [slotAt_bankruptcyPlayers, hslot]; rfl) hactive ?_
  show state.bankCash + 28000 + p.cash ≤ maxMatchCash
  omega

/-- Nobody's liquidation runs out of range, or finds the state invalid. -/
theorem resolveBankruptcy_rejects {seat : ℕ} (hseat : seat < 4) :
    RejectsOnly (fun code => code = .playerNotActive) (resolveBankruptcy
      (bankruptcyPlayers state.players) state.properties state.inventory state.bankCash seat) := by
  intro code hrejected
  by_cases hactive : ∃ p, slotAt state.players seat = some p ∧ p.status = .active
  · obtain ⟨p, hslot, hp⟩ := hactive
    obtain ⟨resolution, hok⟩ := h.bankruptcy hslot hp
    rw [hok] at hrejected
    cases hrejected
  · refine (RejectsOnly.bind (.require_of ⟨h.liquidatable, hseat⟩) fun _ =>
      .bind_of (.requireSome rfl) fun p hslot => .bind_of (.require rfl) fun _ hp => ?_ :
        RejectsOnly (fun code => code = BankruptcyRuleErrorCode.playerNotActive) _) code hrejected
    rw [requireSome_eq_ok, slotAt_bankruptcyPlayers] at hslot
    obtain ⟨player, hplayer, rfl⟩ := Option.map_eq_some_iff.1 hslot
    exact absurd ⟨player, hplayer, require_eq_ok.1 hp⟩ hactive

end Budgeted

/-! ### Every reachable aggregate -/

theorem budgeted_of_started {lobby : InProgressGameState} {active : ActiveGameplayAggregateState}
    (h : initializeGameplayAggregate lobby = some active) :
    Budgeted active.toGameplayAggregateStateBase := by
  have hready := initializeGameplayAggregate_ready h
  have htotal := (playable_of_started h).cash_le
  unfold initializeGameplayAggregate at h
  split_ifs at h
  cases h
  refine ⟨?_, ?_, hready.version.2, htotal⟩
  · simp only [GameplayAggregateStateBase.inventory, hready.houses, hready.hotels, hready.bank]
    exact hready.liquidatable
  · simp only [hready.pool, le_refl]

/-- A trade of a well-formed book keeps the table in order, even where it breaks the turn. -/
theorem TradeStep.liquidatable {state active : ActiveGameplayAggregateState} {nowMs : ℤ}
    {command : GameplayTradeCommand} {events : List GameplayDomainEvent}
    (h : TradeStep state nowMs command active events) (hv : ValidActive state)
    (hbook : WellFormedBook state.toGameplayAggregateStateBase) :
    isValidBankruptcyState (bankruptcyPlayers active.players) active.properties active.inventory
      active.bankCash = true := by
  cases h with
  | accepted tradeId trades trade proposer receiver expired hsub hreceiver hset =>
    obtain ⟨player, hslot, hactive⟩ :=
      hbook.proposer trade (List.mem_of_find?_eq_some hset.found)
    rw [hset.proposer_slot] at hslot
    cases hslot
    exact (hset.table hv hactive hreceiver trades).toBankruptcy
  | cleanup | created | rejected | cancelled => exact hv.table.toBankruptcy

theorem TradeStep.pool {state active : ActiveGameplayAggregateState} {nowMs : ℤ}
    {command : GameplayTradeCommand} {events : List GameplayDomainEvent}
    (h : TradeStep state nowMs command active events) :
    active.freeParkingPool = state.freeParkingPool := by
  cases h <;> rfl

/-- The step lemma. -/
theorem GameplayStep.budgeted {state : ActiveGameplayAggregateState}
    {state' : GameplayAggregateState} {body : GameplayCommandBody}
    {context : GameplayCommandContext} {events : List GameplayDomainEvent} {expected : ℤ}
    (h : GameplayStep state context body state' events)
    (hadm : Admitted state expected context.nowMs)
    (hbudget : Budgeted state.toGameplayAggregateStateBase)
    (hbook : WellFormedBook state.toGameplayAggregateStateBase) : Budgeted state'.base := by
  have hversion := h.version
  have hcash := h.cash_le hadm.valid
  have hlt := hadm.version_lt
  have htotal := hbudget.total_le
  have hkept : isValidBankruptcyState (bankruptcyPlayers state'.base.players) state'.base.properties
      state'.base.inventory state'.base.bankCash = true ∧ 0 ≤ state'.base.freeParkingPool := by
    by_cases hbody : ∃ command, body = .trade command
    · obtain ⟨command, rfl⟩ := hbody
      cases h with
      | trade _ active _ hnone hstep =>
        exact ⟨hstep.liquidatable hadm.valid hbook, by
          rw [GameplayAggregateState.base, hstep.pool]; exact hbudget.pool⟩
    · have hvalid := h.valid hadm fun command hcommand => hbody ⟨command, hcommand⟩
      cases state' with
      | inProgress active => exact ⟨hvalid.table.toBankruptcy, hvalid.header.freeParking.1⟩
      | finished finished => exact ⟨hvalid.table.toBankruptcy, hvalid.header.freeParking.1⟩
  exact ⟨hkept.1, hkept.2, by omega, by omega⟩

theorem budgeted_of_reachable {s : GameplayAggregateState} (h : ReachableGame s) :
    Budgeted s.base ∧ WellFormedBook s.base := by
  refine h.invariant (I := fun s => Budgeted s.base ∧ WellFormedBook s.base)
    (fun s hstart => ?_) fun s accepted s' hI haccepts => ?_
  · refine ⟨?_, wellFormedBook_of_started hstart⟩
    obtain ⟨lobby, active, hinit, rfl⟩ := hstart
    exact budgeted_of_started hinit
  · refine ⟨?_, wellFormedBook_step hI.2 haccepts⟩
    obtain ⟨state, rfl, hok⟩ := accepts_inProgress haccepts
    obtain ⟨hadm, hstep⟩ := transitionGameplay_step hok
    exact hstep.budgeted hadm hI.1 hI.2

/-! ### Answers -/

/-- The messages, beside the code of their own, that say a sum of cash is out of range. -/
def overflowMessages : List String :=
  ["GO salary cannot be applied",
    "card resolution failed: ARITHMETIC_OVERFLOW",
    "bankruptcy resolution failed: ARITHMETIC_OVERFLOW",
    "bankruptcy resolution failed: INVALID_BANKRUPTCY_STATE",
    "terminal outcome failed: ARITHMETIC_OVERFLOW",
    "timeout terminal outcome failed: ARITHMETIC_OVERFLOW",
    "turn timeout failed: BANKRUPTCY_FAILED"]

abbrev NamesOverflow (error : GameCoreError) : Prop :=
  error.code = .arithmeticOverflow ∨ error.message ∈ overflowMessages

/-- The card is a get-out-of-jail card, and the hand is full of them. -/
def OneTooMany (deck : CardDeck) (cardId getOutOfJailCards : ℕ) : Prop :=
  getOutOfJailCards = 255 ∧
    ∃ definition ∈ cardsOf deck, definition.id = cardId ∧ definition.effect = .getOutOfJailFree

/-- The rejection names no overflow, but for a get-out-of-jail card that has been drawn to a full
hand. -/
def CashAnswer (randomSource : RandomSource) (rejection : GameplayRejection) : Prop :=
  NamesOverflow rejection.error →
    rejection.error.message = "card resolution failed: ARITHMETIC_OVERFLOW" ∧
    ∃ state current deck cardId rng, rejection.state = .inProgress state ∧ IsCurrent state current ∧
      state.turn.phase = .awaitingCardDraw deck ∧
      drawGameplayCard state randomSource = .ok (cardId, rng) ∧
      OneTooMany deck cardId current.getOutOfJailCards

theorem CashAnswer.reject {randomSource : RandomSource} {state : ActiveGameplayAggregateState}
    {code : GameCoreErrorCode} {message : String} {retryable : Bool}
    (h : ¬ NamesOverflow ⟨code, message, retryable⟩) :
    CashAnswer randomSource (reject state code message retryable) := fun hnames => absurd hnames h

section Answers

variable {state : ActiveGameplayAggregateState} {current : GameplayPlayerState} {nowMs : ℤ}
  {context : GameplayCommandContext} {randomSource : RandomSource}

theorem checkCommand_cash (validCommand : Bool) (expected nowMs : ℤ) :
    RejectsOnly (CashAnswer randomSource) (checkCommand state validCommand expected nowMs) :=
  .bind (.require (.reject (by decide))) fun _ =>
    .bind (.require (.reject (by decide))) fun _ =>
    .bind (.require (.reject (by decide))) fun _ => .require (.reject (by decide))

theorem drawGameplayDice_cash (source : RandomSource) :
    RejectsOnly (CashAnswer randomSource) (drawGameplayDice state source) :=
  .bind (.requireSome (.reject (by decide))) fun _ =>
    .bind (.requireSome (.reject (by decide))) fun _ =>
    .bind (.requireSome (.reject (by decide))) fun _ =>
    .bind (.require (.reject (by decide))) fun _ => .pure _

theorem transitionEndTurn_cash : RejectsOnly (CashAnswer randomSource)
  (transitionEndTurn state nowMs) :=
  .bind (.require (.reject (by decide))) fun _ => .bind (.require (.reject (by decide))) fun _ =>
    .bind (.require (.reject (by decide))) fun _ =>
    .bind (.requireSome (.reject (by decide))) fun _ => .pure _

theorem transitionJailedRoll_cash (dice : DiceRoll) (rng : RandomCheckpoint) :
    RejectsOnly (CashAnswer randomSource) (transitionJailedRoll state current dice rng nowMs) := by
  unfold transitionJailedRoll
  dsimp only
  split
  next code _ => exact .error (.reject (by cases code <;> decide))
  next jail _ =>
    split
    · exact .bind (.requireSome (.reject (by decide))) fun _ => .pure _
    · exact .bind (.requireSome (.reject (by decide))) fun _ => .pure _
    · exact .bind (.requireSome (.reject (by decide))) fun _ =>
        .bind (.requireSome (.reject (by decide))) fun _ =>
        .bind (.requireSome (.reject (by decide))) fun _ => .pure _

/-- The salary finds room in the purse. -/
theorem transitionFreeRoll_cash (hroom : current.cash + 200 ≤ maxMatchCash) (dice : DiceRoll)
    (doubles : DoublesResult) (rng : RandomCheckpoint) :
    RejectsOnly (CashAnswer randomSource)
      (transitionFreeRoll state current dice doubles rng nowMs) := by
  have hsalary : ∀ passedGo : Bool, ∃ cash,
      (if passedGo then checkedAddMatchCash current.cash GameplayPolicy.passGoSalary
        else some current.cash) = some cash := by
    rintro (_ | _)
    · exact ⟨_, rfl⟩
    · exact ⟨_, checkedAddMatchCash_eq_some.2 ⟨rfl, hroom⟩⟩
  unfold transitionFreeRoll
  dsimp only
  split
  · exact .bind (.requireSome (.reject (by decide))) fun _ => .pure _
  · refine .bind (.requireSome (.reject (by decide))) fun movement =>
      .bind (.requireSome_of (hsalary _).choose_spec) fun _ => ?_
    split
    · exact .bind (.requireSome (.reject (by decide))) fun _ => .pure _
    · exact .bind (.requireSome (.reject (by decide))) fun _ => .pure _

theorem transitionGameplayTurn_cash (hb : Budgeted state.toGameplayAggregateStateBase)
    (command : GameplayTurnCommand) (expected : ℤ) :
    RejectsOnly (CashAnswer randomSource)
      (transitionGameplayTurn state command expected context) := by
  refine .bind (checkCommand_cash _ _ _) fun _ =>
    .bind_of (.requireSome (.reject (by decide))) fun current hcurrent =>
    .bind (.require (.reject (by decide))) fun _ => ?_
  have hc := activeGameplayPlayer_eq_some.1 (requireSome_eq_ok.1 hcurrent)
  have hroom := hb.room hc.1
  have hroll : RejectsOnly (CashAnswer randomSource) (transitionRoll state current context) := by
    refine .bind (.require (.reject (by decide))) fun _ =>
      .bind (drawGameplayDice_cash _) fun _ => .bind (.requireSome (.reject (by decide))) fun _ => ?_
    exact .ite (transitionJailedRoll_cash _ _) (transitionFreeRoll_cash (by omega) _ _ _)
  cases command with
  | endTurn => exact transitionEndTurn_cash
  | rollDice => exact hroll
  | resolveRandomDice => exact hroll

/-! #### Properties -/

theorem requireBankruptcy_cash : RejectsOnly (CashAnswer randomSource)
  (requireBankruptcy state current nowMs) :=
  .bind (.requireSome (.reject (by decide))) fun _ => .pure _

theorem checkPropertyDecision_cash (position : ℕ) :
    RejectsOnly (CashAnswer randomSource) (checkPropertyDecision state position nowMs) :=
  .bind (.require (.reject (by decide))) fun _ =>
    .bind (.requireSome (.reject (by decide))) fun _ =>
    .bind (.requireSome (.reject (by decide))) fun _ =>
    .bind (.require (.reject (by decide))) fun _ =>
    .bind (.requireSome (.reject (by decide))) fun _ => .pure _

/-- A rent that its payer can pay finds room in the owner's purse. -/
theorem transitionPayRent_cash (hb : Budgeted state.toGameplayAggregateStateBase)
    (hc : IsCurrent state current) (position : ℕ) :
    RejectsOnly (CashAnswer randomSource) (transitionPayRent state current position nowMs) := by
  refine .bind (.require (.reject (by decide))) fun _ =>
    .bind (.requireSome (.reject (by decide))) fun _ =>
    .bind_of (.requireSome (.reject (by decide))) fun owner howner =>
    .bind (.require (.reject (by decide))) fun _ =>
    .bind (.requireSome (.reject (by decide))) fun amount =>
    .bind (.requireSome (.reject (by decide))) fun _ => ?_
  split
  · exact requireBankruptcy_cash
  next cash hpay =>
    obtain ⟨property, -, hproperty⟩ := Option.bind_eq_some_iff.1 (requireSome_eq_ok.1 howner)
    obtain ⟨seat, -, hslot⟩ := Option.bind_eq_some_iff.1 hproperty
    have howes := (checkedSubtractMatchCash_eq_some.1 hpay).2
    have hboth := hb.add_le hslot hc.1
    exact .bind (.requireSome_of (checkedAddMatchCash_eq_some.2 ⟨rfl, by omega⟩)) fun _ => .pure _

theorem transitionPayTax_cash (taxKind : TaxKind) :
    RejectsOnly (CashAnswer randomSource) (transitionPayTax state current taxKind nowMs) := by
  refine .bind (.require (.reject (by decide))) fun _ =>
    .bind (.require (.reject (by decide))) fun _ => ?_
  split
  · exact .bind (.require (.reject (by decide))) fun _ => requireBankruptcy_cash
  · exact .bind (.requireSome (.reject (by decide))) fun _ => .pure _

theorem validateBase_rejects (properties : List PropertyState) (inventory : BuildingInventory)
    (position ownerSeatIndex : ℕ) : RejectsOnly (fun code => code ≠ .arithmeticOverflow)
      (validateBase properties inventory position ownerSeatIndex) :=
  .bind (.require (by decide)) fun _ => .bind (.require (by decide)) fun _ =>
    .bind (.requireSome (by decide)) fun _ => .bind (.requireSome (by decide)) fun _ =>
    .bind (.require (by decide)) fun _ => .bind (.require (by decide)) fun _ => .pure _

/-- The price of a sold building finds room in the purse, and a bought one only takes from it. -/
theorem BuildingAction.apply_rejects (action : BuildingAction) (properties : List PropertyState)
    (inventory : BuildingInventory) (position ownerSeatIndex : ℕ) {cash : ℤ}
    (hroom : cash + 100 ≤ maxMatchCash) : RejectsOnly (fun code => code ≠ .arithmeticOverflow)
      (action.apply properties inventory position ownerSeatIndex cash) := by
  have hprice : ∀ {property : PropertyState} {houseCost : ℤ},
      validateBase properties inventory position ownerSeatIndex = .ok (property, houseCost) →
      checkedAddMatchCash cash (houseCost / 2) = some (cash + houseCost / 2) := by
    intro property houseCost hbase
    obtain ⟨-, -, -, definition, hd, -, rfl⟩ := validateBase_eq_ok hbase
    have hcost := (boardSpace_bounds hd).2.1
    exact checkedAddMatchCash_eq_some.2 ⟨rfl, by omega⟩
  have hbase := validateBase_rejects properties inventory position ownerSeatIndex
  rcases action with (_ | _) | (_ | _)
  · exact .bind hbase fun _ => .bind (.require (by decide)) fun _ =>
      .bind (.require (by decide)) fun _ => .bind (.require (by decide)) fun _ =>
      .bind (.require (by decide)) fun _ => .bind (.require (by decide)) fun _ =>
      .bind (.require (by decide)) fun _ => .bind (.requireSome (by decide)) fun _ => .pure _
  · exact .bind hbase fun _ => .bind (.require (by decide)) fun _ =>
      .bind (.require (by decide)) fun _ => .bind (.require (by decide)) fun _ =>
      .bind (.require (by decide)) fun _ => .bind (.require (by decide)) fun _ =>
      .bind (.requireSome (by decide)) fun _ => .pure _
  · exact .bind_of hbase fun _ hok => .bind (.require (by decide)) fun _ =>
      .bind (.require (by decide)) fun _ => .bind (.requireSome_of (hprice hok)) fun _ => .pure _
  · exact .bind_of hbase fun _ hok => .bind (.require (by decide)) fun _ =>
      .bind (.require (by decide)) fun _ => .bind (.requireSome_of (hprice hok)) fun _ => .pure _

theorem transitionBuilding_cash (hroom : current.cash + 100 ≤ maxMatchCash)
    (action : BuildingAction) (position : ℕ) :
    RejectsOnly (CashAnswer randomSource)
      (transitionBuilding state current action position nowMs) := by
  refine .bind (.requireSome (.reject (by decide))) fun _ => ?_
  split
  next code hcode =>
    have hne := action.apply_rejects _ _ _ _ hroom code hcode
    revert hne
    cases code <;> intro hne <;> first | exact absurd rfl hne | exact .error (.reject (by decide))
  · exact .bind (.requireSome (.reject (by decide))) fun _ => .pure _

theorem transitionGameplayProperty_cash (hb : Budgeted state.toGameplayAggregateStateBase)
    (command : GameplayPropertyCommand) (expected : ℤ) :
    RejectsOnly (CashAnswer randomSource)
      (transitionGameplayProperty state command expected context) := by
  refine .bind (checkCommand_cash _ _ _) fun _ =>
    .bind_of (.requireSome (.reject (by decide))) fun current hcurrent =>
    .bind (.require (.reject (by decide))) fun _ => .bind (.require (.reject (by decide))) fun _ => ?_
  have hc := activeGameplayPlayer_eq_some.1 (requireSome_eq_ok.1 hcurrent)
  have hroom := hb.room hc.1
  have hbuilding : ∀ action position, RejectsOnly (CashAnswer randomSource)
      (transitionBuilding state current action position context.nowMs) :=
    transitionBuilding_cash (by omega)
  cases command with
  | declineProperty position => exact .bind (checkPropertyDecision_cash _) fun _ => .pure _
  | buyProperty position =>
    exact .bind (checkPropertyDecision_cash _) fun _ =>
      .bind (.requireSome (.reject (by decide))) fun _ => .pure _
  | payRent position => exact transitionPayRent_cash hb hc position
  | payMevTax => exact transitionPayTax_cash _
  | payPriorityFeeTax => exact transitionPayTax_cash _
  | buildHouse position => exact hbuilding _ _
  | buildHotel position => exact hbuilding _ _
  | sellBuilding position buildingType => exact hbuilding _ _

/-! #### Jail and cards -/

theorem transitionGameplayJail_cash (command : GameplayJailCommand) (expected : ℤ) :
    RejectsOnly (CashAnswer randomSource)
      (transitionGameplayJail state command expected context) := by
  refine .bind (checkCommand_cash _ _ _) fun _ =>
    .bind (.requireSome (.reject (by decide))) fun _ =>
    .bind (.require (.reject (by decide))) fun _ => .bind (.require (.reject (by decide))) fun _ => ?_
  dsimp only
  split
  next code _ => exact .error (.reject (by cases code <;> decide))
  · exact .ite (.bind (.requireSome (.reject (by decide))) fun _ => .pure _)
      (.bind (.require (.reject (by decide))) fun _ =>
        .bind (.requireSome (.reject (by decide))) fun _ =>
        .bind (.requireSome (.reject (by decide))) fun _ => .pure _)

theorem drawGameplayCard_cash (source : RandomSource) :
    RejectsOnly (CashAnswer randomSource) (drawGameplayCard state source) :=
  .bind (.requireSome (.reject (by decide))) fun _ =>
    .bind (.requireSome (.reject (by decide))) fun _ =>
    .bind (.requireSome (.reject (by decide))) fun _ =>
    .bind (.require (.reject (by decide))) fun _ => .pure _

/-- A card finds room in the purse; only a full hand of jail cards takes no more of them. -/
theorem resolveCard_rejects {card : CardPlayerState} (hroom : card.cash + 200 ≤ maxMatchCash)
    (deck : CardDeck) (cardId playerCount : ℕ) :
    RejectsOnly (fun code => code = .arithmeticOverflow →
      OneTooMany deck cardId card.getOutOfJailCards)
      (resolveCard deck cardId card playerCount) := by
  refine .bind (.require fun h => nomatch h) fun _ => .bind_of (.require fun h => nomatch h)
    fun _ hcount => .bind_of (.requireSome fun h => nomatch h) fun definition hfind => ?_
  have hfour := (require_eq_ok.1 hcount).2
  have hfound := requireSome_eq_ok.1 hfind
  have hmem := List.mem_of_find?_eq_some hfound
  obtain ⟨hcollect, hmoney, -⟩ := mem_cardsOf hmem
  have hcredit : ∀ {amount : ℤ}, amount ≤ 200 → RejectsOnly
      (fun code => code = .arithmeticOverflow → OneTooMany deck cardId card.getOutOfJailCards)
      (resolveCredit deck definition card amount) := fun hle =>
    .bind (.requireSome_of (checkedAddMatchCash_eq_some.2 ⟨rfl, by omega⟩)) fun _ => .pure _
  have hmovement : ∀ movement, RejectsOnly
      (fun code => code = .arithmeticOverflow → OneTooMany deck cardId card.getOutOfJailCards)
      (resolveMovement deck definition card movement) := by
    refine fun movement => .bind (.requireSome fun h => nomatch h) fun result => ?_
    split
    · exact .bind (.requireSome_of (checkedAddMatchCash_eq_some.2 ⟨rfl, hroom⟩)) fun _ => .pure _
    · exact .bind (.requireSome_of rfl) fun _ => .pure _
  cases heffect : definition.effect with
  | money =>
    have hle := hmoney heffect
    exact .ite (hcredit (by omega)) (.pure _)
  | move => exact hmovement _
  | moveToNearest => exact hmovement _
  | getOutOfJailFree =>
    by_cases hfull : card.getOutOfJailCards = 255
    · have hid : definition.id = cardId := by simpa using List.find?_some hfound
      exact fun _ _ _ => ⟨hfull, definition, hmem, hid, heffect⟩
    · exact .bind (.require_of hfull) fun _ => .pure _
  | collectFromPlayers =>
    have hfifty := hcollect heffect
    refine hcredit ?_
    rw [hfifty]
    omega
  | repairFree => exact .pure _

theorem transitionGameplayCard_cash (hb : Budgeted state.toGameplayAggregateStateBase)
    (command : GameplayCardCommand) (expected : ℤ) :
    RejectsOnly (CashAnswer context.randomSource)
      (transitionGameplayCard state command expected context) := by
  refine .bind (checkCommand_cash _ _ _) fun _ =>
    .bind_of (.requireSome (.reject (by decide))) fun current hcurrent =>
    .bind (.require (.reject (by decide))) fun _ =>
    .bind_of (.require (.reject (by decide))) fun _ hphase =>
    .bind_of (drawGameplayCard_cash _) fun drawn hdraw => ?_
  have hc := activeGameplayPlayer_eq_some.1 (requireSome_eq_ok.1 hcurrent)
  have hroom := hb.room hc.1
  dsimp only
  split
  next code hcode =>
    have hfull := resolveCard_rejects (show current.toCard.cash + 200 ≤ maxMatchCash by
      show current.cash + 200 ≤ maxMatchCash; omega) _ _ _ code hcode
    cases code with
    | arithmeticOverflow =>
      exact .error fun _ => ⟨rfl, state, current, _, _, _, rfl, hc, require_eq_ok.1 hphase, hdraw,
        hfull rfl⟩
    | _ => exact .error (.reject (by decide))
  · exact .ite (.bind (.requireSome (.reject (by decide))) fun _ => .pure _)
      (.bind (.requireSome (.reject (by decide))) fun _ => .pure _)

/-! #### Trades -/

theorem checkTradeResult_cash {result : TradeMutationResult}
    (h : RejectsOnly (fun code => code ≠ .arithmeticOverflow) result) :
    RejectsOnly (CashAnswer randomSource) (checkTradeResult state result) := by
  cases result with
  | ok mutation => exact .ok _
  | error code =>
    have hne := h code rfl
    revert hne
    cases code <;> intro hne <;> first | exact absurd rfl hne | exact .error (.reject (by decide))

theorem tradeActor_cash : RejectsOnly (CashAnswer randomSource) (tradeActor state context) := by
  unfold tradeActor
  split
  · exact .error (.reject (by decide))
  · exact .requireSome (.reject (by decide))

theorem transitionSettleTrade_cash {tradeId : String} {mutate : ℕ → TradeMutationResult}
    {event : GameplayPlayerState → String × String → PendingTrade → GameplayDomainEvent}
    (h : ∀ seat, RejectsOnly (fun code => code ≠ .arithmeticOverflow) (mutate seat)) :
    RejectsOnly (CashAnswer randomSource)
      (transitionSettleTrade state tradeId mutate event context) :=
  .bind tradeActor_cash fun _ => .bind (checkTradeResult_cash (h _)) fun _ =>
    .bind (.requireSome (.reject (by decide))) fun _ =>
    .bind (.requireSome (.reject (by decide))) fun _ =>
    .bind (.requireSome (.reject (by decide))) fun _ => .pure _

theorem createTrade_rejects (trades : List PendingTrade) (players : List (Option TradePlayerState))
    (properties : List PropertyState) (tradeId : String) (proposer receiver : ℕ)
    (terms : TradeTerms) : RejectsOnly (fun code => code ≠ .arithmeticOverflow)
      (createTrade trades players properties tradeId proposer receiver terms nowMs) :=
  .bind (.require (by decide)) fun _ => .bind (.require (by decide)) fun _ =>
    .bind (.requireSome (by decide)) fun _ => .bind (.requireSome (by decide)) fun _ =>
    .bind (.requireSome (by decide)) fun _ => .bind (.require (by decide)) fun _ =>
    .bind (.require (by decide)) fun _ => .bind (.require (by decide)) fun _ =>
    .bind (requireProperty_rejects (by decide) (by decide) _ _ _) fun _ =>
    .bind (requireProperty_rejects (by decide) (by decide) _ _ _) fun _ =>
    .bind (.require (by decide)) fun _ => .pure _

theorem removeTrade_rejects (trades : List PendingTrade) (players : List (Option TradePlayerState))
    (properties : List PropertyState) (tradeId : String) (seat : ℕ) (actorRole : TradeActorRole) :
    RejectsOnly (fun code => code ≠ .arithmeticOverflow)
      (removeTrade trades players properties tradeId seat nowMs actorRole) :=
  .bind (.require (by decide)) fun _ => .bind (.require (by decide)) fun _ =>
    .bind (.requireSome (by decide)) fun _ => .bind (.requireSome (by decide)) fun _ =>
    .bind (.require (by decide)) fun _ => .bind (.require (by decide)) fun _ => .pure _

/-- What each party can pay, the other's purse can hold. -/
theorem acceptTrade_cash (hb : Budgeted state.toGameplayAggregateStateBase)
    {trades : List PendingTrade} (hvalid : ∀ trade ∈ trades, ValidPendingTrade trade)
    (tradeId : String) (seat : ℕ) : RejectsOnly (fun code => code ≠ .arithmeticOverflow)
      (acceptTrade trades (tradePlayers state.players) state.properties tradeId seat nowMs) := by
  refine .bind (.require (by decide)) fun _ => .bind (.require (by decide)) fun _ =>
    .bind_of (.requireSome (by decide)) fun trade hfind => .bind (.require (by decide)) fun _ =>
    .bind (.require (by decide)) fun _ => .bind_of (.requireSome (by decide)) fun p hp =>
    .bind_of (.requireSome (by decide)) fun r hr => ?_
  obtain ⟨-, -, -, -, hterms, -⟩ :=
    hvalid trade (List.mem_of_find?_eq_some (requireSome_eq_ok.1 hfind))
  rw [requireSome_eq_ok, slotAt_tradePlayers] at hp hr
  obtain ⟨proposer, hproposer, rfl⟩ := Option.map_eq_some_iff.1 hp
  obtain ⟨receiver, hreceiver, rfl⟩ := Option.map_eq_some_iff.1 hr
  have hboth : proposer.toTrade.cash + receiver.toTrade.cash ≤ maxMatchCash :=
    hb.add_le hproposer hreceiver
  have hamounts := cashTerms_nonneg hterms
  generalize cashTerms trade.terms = amounts at hamounts ⊢
  obtain ⟨offered, requested⟩ := amounts
  dsimp only at hamounts
  refine .bind_of (.requireSome (by decide)) fun proposerAfterDebit hpay =>
    .bind_of (.requireSome (by decide)) fun receiverAfterDebit hpay' => ?_
  obtain ⟨rfl, hle⟩ := checkedSubtractMatchCash_eq_some.1 (requireSome_eq_ok.1 hpay)
  obtain ⟨rfl, hle'⟩ := checkedSubtractMatchCash_eq_some.1 (requireSome_eq_ok.1 hpay')
  exact .bind (.requireSome_of (checkedAddMatchCash_eq_some.2 ⟨rfl, by omega⟩)) fun _ =>
    .bind (.requireSome_of (checkedAddMatchCash_eq_some.2 ⟨rfl, by omega⟩)) fun _ =>
    .bind (requireProperty_rejects (by decide) (by decide) _ _ _) fun _ =>
    .bind (requireProperty_rejects (by decide) (by decide) _ _ _) fun _ => .pure _

theorem acceptCleanedTrade_cash (hb : Budgeted state.toGameplayAggregateStateBase)
    (hv : ValidActive state) (tradeId : String) (seat : ℕ) :
    RejectsOnly (fun code => code ≠ .arithmeticOverflow)
      (acceptCleanedTrade state tradeId seat nowMs) := by
  unfold acceptCleanedTrade
  dsimp only
  split
  · exact acceptTrade_cash hb hv.trades _ _
  next cleaned hclean =>
    split_ifs at hclean
    obtain ⟨-, htrades, -⟩ := cleanupExpiredTrades_eq_some hclean
    refine (acceptTrade_cash hb (fun trade ht => ?_) _ _).map _
    rw [htrades] at ht
    exact hv.trades trade (List.mem_of_mem_filter ht)

theorem transitionGameplayTrade_cash (hb : Budgeted state.toGameplayAggregateStateBase)
    (command : GameplayTradeCommand) (expected : ℤ) :
    RejectsOnly (CashAnswer randomSource)
      (transitionGameplayTrade state command expected context) := by
  refine .bind_of (checkCommand_cash _ _ _) fun _ hcheck =>
    .bind (.require (.reject (by decide))) fun _ => ?_
  have hv := (checkCommand_eq_ok.1 hcheck).2.valid
  cases command with
  | cleanupExpiredTrades =>
    exact .bind (.require (.reject (by decide))) fun _ =>
      .bind (.requireSome (.reject (by decide))) fun _ =>
      .bind (.require (.reject (by decide))) fun _ => .pure _
  | createTrade receiverId terms =>
    exact .bind tradeActor_cash fun _ => .bind (.requireSome (.reject (by decide))) fun _ =>
      .bind (.requireSome (.reject (by decide))) fun _ =>
      .bind (checkTradeResult_cash (createTrade_rejects _ _ _ _ _ _ _)) fun _ =>
      .bind (.requireSome (.reject (by decide))) fun _ =>
      .bind (.requireSome (.reject (by decide))) fun _ => .pure _
  | acceptTrade tradeId =>
    exact transitionSettleTrade_cash fun _ => acceptCleanedTrade_cash hb hv _ _
  | rejectTrade tradeId =>
    exact transitionSettleTrade_cash fun _ => removeTrade_rejects _ _ _ _ _ .receiver
  | cancelTrade tradeId =>
    exact transitionSettleTrade_cash fun _ => removeTrade_rejects _ _ _ _ _ .proposer

/-! #### Bankruptcies and timers -/

theorem deriveRankedTerminalOutcome_rejects {players : List (Option TerminalPlayerState)}
    {properties : List PropertyState} {ranked : List RankedSeat}
    (h : netWorths properties (activePlayersOf players) = some ranked)
    (reason : TerminalEndReason) (endedAtMs : ℤ) :
    RejectsOnly (fun code => code ≠ .arithmeticOverflow)
      (deriveRankedTerminalOutcome players properties reason endedAtMs) :=
  .bind (.require (by decide)) fun _ => .bind (.require (by decide)) fun _ =>
    .bind (.require (by decide)) fun _ => .bind (.requireSome_of h) fun _ => .pure _

/-- The active players of a table with room can be ranked. -/
theorem terminal_rejects {players : List (Option GameplayPlayerState)}
    {properties : List PropertyState} {inventory : BuildingInventory} {bankCash startedAtMs : ℤ}
    (ht : ValidTable players properties inventory bankCash startedAtMs)
    (hpurse : ∀ i p, slotAt players i = some p → p.cash + 48000 ≤ maxMatchCash)
    (reason : TerminalEndReason) (endedAtMs : ℤ) :
    RejectsOnly (fun code => code ≠ .arithmeticOverflow) (deriveRankedTerminalOutcome
      (terminalPlayers (bankruptcyPlayers players)) properties reason endedAtMs) := by
  obtain ⟨ranked, hranked⟩ := ht.exists_netWorths hpurse
  rw [← activePlayersOf_terminalPlayers] at hranked
  exact deriveRankedTerminalOutcome_rejects hranked _ _

theorem transitionGameplayBankruptcy_cash (hp : Playable state)
    (hb : Budgeted state.toGameplayAggregateStateBase) (expected : ℤ) :
    RejectsOnly (CashAnswer randomSource)
      (transitionGameplayBankruptcy state expected context) := by
  refine .bind_of (checkCommand_cash _ _ _) fun _ hcheck =>
    .bind_of (.requireSome (.reject (by decide))) fun current hcurrent =>
    .bind (.require (.reject (by decide))) fun _ => .bind (.require (.reject (by decide))) fun _ => ?_
  have hv := (checkCommand_eq_ok.1 hcheck).2.valid
  have hc := activeGameplayPlayer_eq_some.1 (requireSome_eq_ok.1 hcurrent)
  rw [hc.seatIndex_eq hv]
  obtain ⟨resolution, hok⟩ := hb.bankruptcy hc.1 hc.active
  obtain ⟨player, helim⟩ := eliminated_of_resolve hok
  rw [hok]
  refine .bind (.requireSome (.reject (by decide))) fun players =>
    .ite (.bind (.requireSome (.reject (by decide))) fun _ => .pure _) ?_
  split
  next code hcode =>
    have hne : RejectsOnly (fun code => code ≠ TerminalRuleErrorCode.arithmeticOverflow)
        (deriveBankruptcyTerminalOutcome resolution context.nowMs) := by
      refine .bind (.require (by decide)) fun _ => .bind (.require (by decide)) fun _ => ?_
      rw [helim.players_eq]
      exact terminal_rejects (helim.table hv.table) (hp.purse_eliminate hv (.inl rfl)) _ _
    have hcode := hne code hcode
    revert hcode
    cases code <;> intro hne <;> first | exact absurd rfl hne | exact .error (.reject (by decide))
  · exact .bind (.requireSome (.reject (by decide))) fun _ =>
      .bind (.requireSome (.reject (by decide))) fun _ => .pure _

theorem transitionEnforceGameTimeLimit_cash (hp : Playable state) (hv : ValidActive state) :
    RejectsOnly (CashAnswer randomSource) (transitionEnforceGameTimeLimit state nowMs) := by
  unfold transitionEnforceGameTimeLimit
  split
  next code hcode =>
    have hne : RejectsOnly (fun code => code ≠ TerminalRuleErrorCode.arithmeticOverflow)
        (deriveTimeLimitTerminalOutcome (terminalPlayers (bankruptcyPlayers state.players))
          state.properties state.gameEndAtMs nowMs) := by
      refine .bind (.requireSome (by decide)) fun _ => .bind (.require (by decide)) fun _ =>
        .bind (.require (by decide)) fun _ => .bind (.require (by decide)) fun _ => ?_
      refine terminal_rejects hv.table (fun i p hslot => ?_) _ _
      have hroom := hp.room hv hslot
      have hbank := hv.table.bank.1
      omega
    have hcode := hne code hcode
    revert hcode
    cases code <;> intro hne <;> first | exact absurd rfl hne | exact .error (.reject (by decide))
  · exact .bind (.requireSome (.reject (by decide))) fun _ => .pure _

theorem transitionTimeoutWarning_cash (seconds : TimeoutWarningSeconds) :
    RejectsOnly (CashAnswer randomSource)
      (transitionTimeoutWarning state current seconds nowMs) := by
  unfold transitionTimeoutWarning
  split
  next code _ => exact .error (.reject (by cases code <;> decide))
  · exact .ok _

theorem transitionTimeoutForfeit_cash (hp : Playable state) (hv : ValidActive state)
    (hc : IsCurrent state current) {bankruptcy : BankruptcyResolution}
    (helim : Eliminated state state.turn.currentSeatIndex (afterMissedTurn state 3)
      { current with missedTurns := 3 } bankruptcy) (turn : Option TimeoutTurnState) :
    RejectsOnly (CashAnswer randomSource)
      (transitionTimeoutForfeit state current bankruptcy turn nowMs) := by
  refine .bind (.requireSome (.reject (by decide))) fun players =>
    .ite (.bind (.requireSome (.reject (by decide))) fun _ =>
      .bind (.requireSome (.reject (by decide))) fun _ => .pure _) ?_
  split
  next code hcode =>
    have hne : RejectsOnly (fun code => code ≠ TerminalRuleErrorCode.arithmeticOverflow)
        (deriveTimeoutForfeitTerminalOutcome bankruptcy nowMs) := by
      refine .bind (.require (by decide)) fun _ => ?_
      rw [helim.players_eq]
      exact terminal_rejects (helim.table (afterMissedTurn_table hv hc le_rfl))
        (hp.purse_eliminate hv (.inr rfl)) _ _
    have hcode := hne code hcode
    revert hcode
    cases code <;> intro hne <;> first | exact absurd rfl hne | exact .error (.reject (by decide))
  · exact .bind (.requireSome (.reject (by decide))) fun _ => .pure _

/-- The rules of timeouts can liquidate the current seat at its third missed turn. -/
theorem exists_timedOut (hp : Playable state) (hv : ValidActive state)
    (hc : IsCurrent state current) : ∃ bankruptcy,
      resolveBankruptcy (updateSlot state.toTimeout.turn.currentSeatIndex
        (fun player => { player with missedTurns := 3 }) state.toTimeout.players)
        state.toTimeout.properties state.toTimeout.inventory state.toTimeout.bankCash
        state.toTimeout.turn.currentSeatIndex = .ok bankruptcy ∧
      Eliminated state state.turn.currentSeatIndex (afterMissedTurn state 3)
        { current with missedTurns := 3 } bankruptcy := by
  obtain ⟨bankruptcy, hok, helim⟩ := exists_forfeit hv hp hc
  rw [← toTimeout_players_missed] at hok
  exact ⟨bankruptcy, hok, helim⟩

theorem resolveTurnTimeout_rejects (hp : Playable state) (hv : ValidActive state)
    (hc : IsCurrent state current) : RejectsOnly (fun code => code ≠ .bankruptcyFailed)
      (resolveTurnTimeout state.toTimeout nowMs) := by
  refine .bind (.require (by decide)) fun _ => .bind (.require (by decide)) fun _ =>
    .bind_of (.requireSome (by decide)) fun timedOut hslot => .bind (.require (by decide)) fun _ => ?_
  rw [requireSome_eq_ok, ActiveGameplayAggregateState.toTimeout, slotAt_bankruptcyPlayers,
    hc.1] at hslot
  cases hslot
  split_ifs with hthree
  · obtain ⟨bankruptcy, hok, -⟩ := exists_timedOut hp hv hc
    rw [show current.missedTurns + 1 = 3 from hthree]
    dsimp only
    rw [hok]
    exact .ite (.pure _) (.bind (.requireSome (by decide)) fun _ =>
      .bind (.require (by decide)) fun _ => .pure _)
  · exact .bind (.requireSome (by decide)) fun _ => .bind (.require (by decide)) fun _ =>
      .bind (.require (by decide)) fun _ => .pure _

theorem transitionTurnTimeout_cash (hp : Playable state) (hv : ValidActive state)
    (hc : IsCurrent state current) :
    RejectsOnly (CashAnswer randomSource) (transitionTurnTimeout state current nowMs) := by
  unfold transitionTurnTimeout
  split
  next code hcode =>
    have hne := resolveTurnTimeout_rejects hp hv hc code hcode
    revert hne
    cases code <;> intro hne <;> first | exact absurd rfl hne | exact .error (.reject (by decide))
  · exact .bind (.requireSome (.reject (by decide))) fun _ =>
      .bind (.requireSome (.reject (by decide))) fun _ => .pure _
  next hok =>
    obtain ⟨-, -, player, hslot, ⟨_, -, -, -, -, h⟩ | ⟨bankruptcy, turn, htwo, hbank, h, -⟩⟩ :=
      resolveTurnTimeout_eq_ok.1 hok
    · cases h
    · cases h
      rw [ActiveGameplayAggregateState.toTimeout, slotAt_bankruptcyPlayers, hc.1] at hslot
      cases hslot
      have htwo : current.missedTurns = 2 := htwo
      rw [show current.missedTurns + 1 = 3 by omega] at hbank
      obtain ⟨_, hforfeit, helim⟩ := exists_timedOut hp hv hc
      cases hforfeit.symm.trans hbank
      exact transitionTimeoutForfeit_cash hp hv hc helim _

theorem transitionGameplayTimeout_cash (hp : Playable state) (command : GameplayTimeoutCommand)
    (expected : ℤ) :
    RejectsOnly (CashAnswer randomSource)
      (transitionGameplayTimeout state command expected context) := by
  refine .bind_of (checkCommand_cash _ _ _) fun _ hcheck =>
    .bind (.require (.reject (by decide))) fun _ => .bind (.require (.reject (by decide))) fun _ =>
    .bind (.require (.reject (by decide))) fun _ => ?_
  have hv := (checkCommand_eq_ok.1 hcheck).2.valid
  have htimed : ∀ {β : Type} (f : GameplayPlayerState → Except GameplayRejection β),
      (∀ current, IsCurrent state current → RejectsOnly (CashAnswer randomSource) (f current)) →
      RejectsOnly (CashAnswer randomSource) (timedPlayer state >>= f) := fun f hf =>
    .bind_of (.requireSome (.reject (by decide))) fun current hcurrent =>
      hf current (activeGameplayPlayer_eq_some.1 (requireSome_eq_ok.1 hcurrent))
  cases command with
  | enforceGameTimeLimit => exact transitionEnforceGameTimeLimit_cash hp hv
  | warnTurnThirtySeconds => exact htimed _ fun _ _ => transitionTimeoutWarning_cash _
  | warnTurnTenSeconds => exact htimed _ fun _ _ => transitionTimeoutWarning_cash _
  | handleTurnTimeout => exact htimed _ fun _ hc => transitionTurnTimeout_cash hp hv hc

/-- No command on a game within its budget is refused for want of room for cash. -/
theorem transitionGameplay_cash {s : GameplayAggregateState} (h : ReachableGame s)
    (command : GameplayCommand) :
    RejectsOnly (CashAnswer context.randomSource) (transitionGameplay s command context) := by
  cases s with
  | finished finished =>
    intro rejection hrejected
    simp only [transitionGameplay] at hrejected
    split_ifs at hrejected <;> cases hrejected <;> simp [CashAnswer, overflowMessages]
  | inProgress state =>
    have hp := playable_of_reachable h
    have hb : Budgeted state.toGameplayAggregateStateBase := (budgeted_of_reachable h).1
    refine .bind (.require (.reject (by decide))) fun _ =>
      .bind (.require (.reject (by decide))) fun _ => ?_
    unfold routeGameplay
    split
    · exact (transitionGameplayTurn_cash hb _ _).map _
    · exact (transitionGameplayProperty_cash hb _ _).map _
    · exact (transitionGameplayJail_cash _ _).map _
    · exact (transitionGameplayCard_cash hb _ _).map _
    · exact transitionGameplayBankruptcy_cash hp hb _
    · exact (transitionGameplayTrade_cash hb _ _).map _
    · exact transitionGameplayTimeout_cash hp _ _

end Answers

/-- In every reachable state each amount of cash, each rent and the net worth of each active player
are in range, every active seat can be liquidated, and no command is refused for want of room. -/
theorem cash_never_overflows (s : GameplayAggregateState) (h : ReachableGame s) :
    (∀ seat player, slotAt s.base.players seat = some player → IsMatchCash player.cash) ∧
    IsMatchCash s.base.bankCash ∧
    (∀ position diceTotal rent,
      calculateRent s.base.properties position diceTotal = some rent → IsMatchCash rent) ∧
    (∀ seat player, slotAt s.base.players seat = some player → player.status = .active →
      ∃ netWorth, calculatePlayerNetWorth player.toTerminal s.base.properties = some netWorth ∧
        netWorth ≤ maxMatchCash) ∧
    (∀ seat player, slotAt s.base.players seat = some player → player.status = .active →
      ∃ resolution, resolveBankruptcy (bankruptcyPlayers s.base.players) s.base.properties
        s.base.inventory s.base.bankCash seat = .ok resolution ∧
        resolution.bankCash ≤ maxMatchCash ∧ resolution.liquidationValue ≤ maxMatchCash) ∧
    (∀ seat < 4, RejectsOnly (fun code => code = .playerNotActive)
      (resolveBankruptcy (bankruptcyPlayers s.base.players) s.base.properties s.base.inventory
        s.base.bankCash seat)) ∧
    (∀ command context, RejectsOnly (CashAnswer context.randomSource)
      (transitionGameplay s command context)) ∧
    ∀ command context s' events, transitionGameplay s command context = .ok (s', events) →
      IsMatchCash s'.base.bankCash ∧
      ∀ seat player, slotAt s'.base.players seat = some player → IsMatchCash player.cash := by
  have hb := (budgeted_of_reachable h).1
  have hmax : (28000 : ℤ) ≤ maxMatchCash := by decide
  refine ⟨fun seat player hslot => (hb.rules hslot).cash, hb.bank, fun position diceTotal rent hrent =>
    ⟨calculateRent_nonneg hrent, by have := calculateRent_le hrent; omega⟩,
    fun seat player hslot hactive => hb.netWorth hslot hactive,
    fun seat player hslot hactive => ?_, fun seat hseat => hb.resolveBankruptcy_rejects hseat,
    fun command context => transitionGameplay_cash h command,
    fun command context s' events hok => ?_⟩
  · obtain ⟨resolution, hok⟩ := hb.bankruptcy hslot hactive
    obtain ⟨-, -, -, -, -, -, -, -, hbank, -, hvalue, -⟩ := resolveBankruptcy_eq_ok hok
    exact ⟨resolution, hok, hbank, hvalue.trans hmax⟩
  · have hnext := (budgeted_of_reachable (h.snoc (l := ⟨command, context, events⟩) hok)).1
    exact ⟨hnext.bank, fun seat player hslot => (hnext.rules hslot).cash⟩

/-- After alice's first purchase nothing is out of range, and bob can still be liquidated. -/
theorem cash_never_overflows_purchase : ∃ state : ActiveGameplayAggregateState,
    twoPlayerGame [rolls 1 2 1 10, plays "alice" (.property (.buyProperty 3)) 2 20]
      = some (.inProgress state) ∧ IsMatchCash state.bankCash ∧
    (∃ player, slotAt state.players 1 = some player ∧ ∃ resolution,
      resolveBankruptcy (bankruptcyPlayers state.players) state.properties state.inventory
        state.bankCash 1 = .ok resolution ∧ resolution.bankCash ≤ maxMatchCash) ∧
    ∀ command context, RejectsOnly (CashAnswer context.randomSource)
      (transitionGameplay (.inProgress state) command context) := by
  obtain ⟨state, hgame, hcheck⟩ := exists_of_inProgressWith
    (twoPlayerGame [rolls 1 2 1 10, plays "alice" (.property (.buyProperty 3)) 2 20])
    (fun state => (slotAt state.players 1).any fun player => player.status == .active)
    (by decide +kernel)
  obtain ⟨player, hslot, hactive⟩ := (Option.any_eq_true _ _).1 hcheck
  obtain ⟨-, hbank, -, -, hliquid, -, hanswers, -⟩ :=
    cash_never_overflows _ (reachable_of_twoPlayerGame hgame)
  obtain ⟨resolution, hok, hle, -⟩ := hliquid 1 player hslot (eq_of_beq hactive)
  exact ⟨state, hgame, hbank, ⟨player, hslot, resolution, hok, hle⟩, hanswers⟩

end Pootown
