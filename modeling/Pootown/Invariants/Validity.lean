import Mathlib.Tactic
import Pootown.Invariants.Turns
import Pootown.Transition.Play

/-!
# Validity is inductive

Every accepted command but an unlucky trade leaves a valid aggregate.  One lemma per transition;
each rebuilds `ValidActive` or `ValidFinished` field by field from what the step did.
-/

namespace Pootown

open Fallible Slots

section Steps

variable {state state' : ActiveGameplayAggregateState} {current : GameplayPlayerState}
  {expected nowMs : ℤ} {events : List GameplayDomainEvent}

/-- Outside a pending bankruptcy no seat is marked for one. -/
theorem ValidActive.required_none (hv : ValidActive state)
    (hphase : state.turn.phase ≠ .awaitingBankruptcy) :
    state.bankruptcyRequiredSeatIndex = none :=
  hv.turn.bankruptcy.elim And.left fun h => absurd h.2 hphase

theorem ValidActive.seat_lt (hv : ValidActive state) : state.turn.currentSeatIndex < 4 :=
  hv.turn.turn_valid.1.1

theorem slotAt_updated {f : GameplayPlayerState → GameplayPlayerState}
    (hc : IsCurrent state current) :
    slotAt (updateSlot state.turn.currentSeatIndex f state.players) state.turn.currentSeatIndex
      = some (f current) := by
  rw [slotAt_updateSlot_self, hc.1]
  rfl

theorem IsCurrent.active (hc : IsCurrent state current) : current.status = .active := hc.2

theorem not_eliminated {player : GameplayPlayerState} {P : Prop}
    (hactive : player.status = .active) (h : player.status = .eliminated) : P := by
  rw [hactive] at h
  cases h

/-! ### Rolls -/

theorem afterRoll_valid {dice : DiceRoll} {rng : RandomCheckpoint}
    {turn : ActiveGameplayAggregateTurn} {update : GameplayPlayerState → GameplayPlayerState}
    (hadm : Admitted state expected nowMs) (hc : IsCurrent state current)
    (hphase : state.turn.phase = .awaitingRoll) (hrng : ValidRandomCheckpoint rng)
    (hid : SameIdentity current (update current))
    (hstatus : (update current).status = current.status)
    (hrules : ValidBankruptcyPlayer (update current).toBankruptcyPlayerState
      state.turn.currentSeatIndex)
    (hturn : TurnCoupled (updateSlot state.turn.currentSeatIndex update state.players)
      state.properties turn none (some dice) state.startedAtMs) :
    ValidActive (afterRoll state dice rng turn update) where
  header := hadm.header rfl rfl rfl rfl rfl hrng
  table := hadm.valid.table.updateSeat hc.1 hid hstatus hrules
  trades := hadm.valid.trades
  turn := by
    have hnone : (afterRoll state dice rng turn update).bankruptcyRequiredSeatIndex = none :=
      hadm.valid.required_none (by simp [hphase])
    rw [hnone]
    exact hturn

theorem jailed_rules {seat : ℕ} {cash : ℤ}
    (hr : ValidBankruptcyPlayer current.toBankruptcyPlayerState seat)
    (hactive : current.status = .active) (hcash : IsMatchCash cash) :
    ValidBankruptcyPlayer { current.jailed with cash := cash }.toBankruptcyPlayerState seat where
  seatIndex_eq := hr.seatIndex_eq
  cash := hcash
  position_lt := by simp [GameplayPlayerState.jailed]
  jailTurns_le := Nat.zero_le _
  consecutiveDoubles_le := Nat.zero_le _
  missedTurns_le := hr.missedTurns_le
  cards_le := hr.cards_le
  jail := by simp [JailCoupled, GameplayPlayerState.jailed]
  eliminated := not_eliminated hactive

/-- A free player of a valid table with other cash, another position and another streak. -/
theorem moved_rules {seat position streak : ℕ} {cash : ℤ}
    (hr : ValidBankruptcyPlayer current.toBankruptcyPlayerState seat)
    (hactive : current.status = .active) (hfree : current.inJail = false)
    (hcash : IsMatchCash cash) (hposition : position < 40) (hstreak : streak ≤ 2) :
    ValidBankruptcyPlayer { current with
      cash := cash, position := position, consecutiveDoubles := streak }.toBankruptcyPlayerState
      seat where
  seatIndex_eq := hr.seatIndex_eq
  cash := hcash
  position_lt := hposition
  jailTurns_le := hr.jailTurns_le
  consecutiveDoubles_le := hstreak
  missedTurns_le := hr.missedTurns_le
  cards_le := hr.cards_le
  jail := by
    have := hr.jail
    simp only [JailCoupled, hfree, Bool.false_eq_true, if_false] at this ⊢
    exact this
  eliminated := not_eliminated hactive

/-- A player released from jail, wherever they end up. -/
theorem released_rules {seat position cards : ℕ} {cash : ℤ}
    (hr : ValidBankruptcyPlayer current.toBankruptcyPlayerState seat)
    (hactive : current.status = .active) (hcash : IsMatchCash cash) (hposition : position < 40)
    (hcards : cards ≤ 255) :
    ValidBankruptcyPlayer (current.withJail ⟨cash, position, false, 0, 0, cards⟩).toBankruptcyPlayerState
      seat where
  seatIndex_eq := hr.seatIndex_eq
  cash := hcash
  position_lt := hposition
  jailTurns_le := Nat.zero_le _
  consecutiveDoubles_le := Nat.zero_le _
  missedTurns_le := hr.missedTurns_le
  cards_le := hcards
  jail := by simp [JailCoupled, GameplayPlayerState.withJail]
  eliminated := not_eliminated hactive

theorem RollStep.valid {dice : DiceRoll} {rng : RandomCheckpoint}
    (h : RollStep state current nowMs dice rng state' events)
    (hadm : Admitted state expected nowMs) (hc : IsCurrent state current)
    (hphase : state.turn.phase = .awaitingRoll) (hdice : ValidDice dice)
    (hrng : ValidRandomCheckpoint rng) : ValidActive state' := by
  have hv := hadm.valid
  have hr := hc.rules hv
  have hstart := hadm.started
  have hroll : ∀ roll, some dice = some roll → ValidDice roll := by
    rintro _ ⟨⟩
    exact hdice
  cases h with
  | jailRemains turn hin hno hlt hpass =>
    refine afterRoll_valid hadm hc hphase hrng ⟨rfl, rfl, rfl⟩ rfl { hr with
        jailTurns_le := by simp [GameplayPlayerState.withJail]; omega
        jail := ?_
        eliminated := not_eliminated hc.active }
      (hpass.coupled hstart (.updateSlot _ _ fun _ => rfl) hroll)
    have hjail := hr.jail
    simp only [JailCoupled, hin, if_true, GameplayPlayerState.withJail,
      GameplayPlayerState.toJail] at hjail ⊢
    exact ⟨hjail.1, by omega, hjail.2.2⟩
  | jailBankruptcy hin hno hge hcash htime =>
    exact {
      header := hadm.header rfl rfl rfl rfl rfl hrng
      table := hv.table.updateSeat hc.1 ⟨rfl, rfl, rfl⟩ rfl
        (released_rules hr hc.active isMatchCash_zero hr.position_lt hr.cards_le)
      trades := hv.trades
      turn := freshTurn_coupled htime hstart hv.seat_lt (slotAt_updated hc) hc.active trivial
        hroll (fun _ hne => absurd rfl hne) (.inr ⟨rfl, rfl⟩) }
  | jailRelease cash method movement turn hin hpay hmove hturn =>
    have hcash : IsMatchCash cash := by
      obtain ⟨-, -, rfl⟩ | ⟨-, -, -, hle, rfl⟩ := hpay
      · exact hr.cash
      · exact ⟨by omega, by have := hr.cash.2; omega⟩
    exact afterRoll_valid hadm hc hphase hrng ⟨rfl, rfl, rfl⟩ rfl
      (released_rules hr hc.active hcash (moveBy_eq_some hmove).2 hr.cards_le)
      (landing_coupled hturn hv.table.properties_valid hstart hv.seat_lt (slotAt_updated hc)
        hc.active rfl (hc.seatIndex_eq hv) hroll (by simp))
  | threeDoubles turn hin htwo hdoubles hpass =>
    exact afterRoll_valid hadm hc hphase hrng ⟨rfl, rfl, rfl⟩ rfl
      (jailed_rules hr hc.active hr.cash)
      (hpass.coupled hstart (.updateSlot _ _ fun _ => rfl) hroll)
  | goToJail cash movement turn hin hmove hcash hle hpass =>
    have hmatch : IsMatchCash cash := ⟨by have := hr.cash.1; split_ifs at hcash <;> omega, hle⟩
    exact afterRoll_valid hadm hc hphase hrng ⟨rfl, rfl, rfl⟩ rfl
      (jailed_rules hr hc.active hmatch)
      (hpass.coupled hstart (.updateSlot _ _ fun _ => rfl) hroll)
  | moved cash movement doubles turn hin hdoubles hmove hcash hle hturn =>
    have hmatch : IsMatchCash cash := ⟨by have := hr.cash.1; split_ifs at hcash <;> omega, hle⟩
    exact afterRoll_valid hadm hc hphase hrng ⟨rfl, rfl, rfl⟩ rfl
      (moved_rules hr hc.active hin hmatch (moveBy_eq_some hmove).2
        (applyDoubles_eq_some hdoubles).1)
      (landing_coupled hturn hv.table.properties_valid hstart hv.seat_lt (slotAt_updated hc)
        hc.active rfl (hc.seatIndex_eq hv) hroll (by simp))

theorem TurnStep.valid {randomSource : RandomSource} {command : GameplayTurnCommand}
    (h : TurnStep state current nowMs randomSource command state' events)
    (hadm : Admitted state expected nowMs) (hc : IsCurrent state current) :
    ValidActive state' := by
  have hv := hadm.valid
  have hr := hc.rules hv
  cases h with
  | endTurn turn hphase hpass =>
    exact {
      header := hadm.header rfl rfl rfl rfl rfl hv.header.rng
      table := hv.table.updateSeat hc.1 ⟨rfl, rfl, rfl⟩ rfl { hr with
        consecutiveDoubles_le := Nat.zero_le _
        jail := by
          have hjail := hr.jail
          simp only [JailCoupled] at hjail ⊢
          split_ifs at hjail ⊢
          · exact ⟨hjail.1, hjail.2.1, trivial⟩
          · exact hjail
        eliminated := not_eliminated hc.active }
      trades := hv.trades
      turn := by
        have hnone := hv.required_none (by simp [hphase])
        dsimp only
        rw [hnone]
        exact hpass.coupled hadm.started (.updateSlot _ _ fun _ => rfl) (by simp) }
  | roll _ dice rng _ _ hne hphase hdraw hroll =>
    obtain ⟨hdice, hrng⟩ := drawGameplayDice_eq_ok hdraw
    exact hroll.valid hadm hc hphase hdice hrng

/-! ### Property, building and tax -/

/-- An active player of a valid table with other cash. -/
theorem cash_rules {player : GameplayPlayerState} {seat : ℕ} {cash : ℤ}
    (hr : ValidBankruptcyPlayer player.toBankruptcyPlayerState seat)
    (hactive : player.status = .active) (hcash : IsMatchCash cash) :
    ValidBankruptcyPlayer { player with cash := cash }.toBankruptcyPlayerState seat :=
  { hr with cash := hcash, eliminated := not_eliminated hactive }

theorem settled_coupled {players : List (Option GameplayPlayerState)}
    {properties : List PropertyState} {player : GameplayPlayerState} {seat : ℕ}
    {startedAtMs : ℤ} {lastDice : DiceRoll} (hv : ValidActive state)
    (hdice : state.lastDice = some lastDice) (htime : ClockableTime nowMs)
    (hstart : startedAtMs ≤ nowMs) (hseat : seat < 4) (hslot : slotAt players seat = some player)
    (hactive : player.status = .active) :
    TurnCoupled players properties ⟨freshClock seat nowMs, settledPhase lastDice.isDoubles⟩ none
      state.lastDice startedAtMs := by
  refine freshTurn_coupled htime hstart hseat hslot hactive (settledPhase_coupled _ _ _)
    hv.turn.dice_valid (fun _ _ => by simp [hdice]) (.inl ⟨rfl, ?_⟩)
  unfold settledPhase
  split_ifs <;> simp

/-- The table after rent: cash moves between two seats. -/
theorem rent_table {owner : GameplayPlayerState} {ownerSeat : ℕ} {amount : ℤ}
    (hv : ValidActive state) (hc : IsCurrent state current)
    (hslot : slotAt state.players ownerSeat = some owner) (hactive : owner.status = .active)
    (hne : ownerSeat ≠ state.turn.currentSeatIndex) (h0 : 0 ≤ amount)
    (hle : amount ≤ current.cash) (hmax : owner.cash + amount ≤ maxMatchCash) :
    ValidTable (mapSlots (fun index player =>
        if index = state.turn.currentSeatIndex then { player with cash := current.cash - amount }
        else if index = ownerSeat then { player with cash := owner.cash + amount }
        else player) state.players)
      state.properties state.inventory state.bankCash state.startedAtMs := by
  have hcur := (hc.rules hv).cash
  have howner := hv.table.cash hslot
  refine hv.table.rewrite hv.table.bank hv.table.stock (fun i p _ => ?_) (fun i p hp => ?_)
    fun i property seat hi ho => ?_
  · split_ifs <;> exact ⟨rfl, rfl, rfl⟩
  · split_ifs with hi hi'
    · subst hi
      obtain rfl : p = current := hc.unique ⟨hp, by rw [hc.1] at hp; cases hp; exact hc.active⟩
      exact cash_rules (hc.rules hv) hc.active ⟨by omega, by have := hcur.2; omega⟩
    · subst hi'
      rw [hslot] at hp
      cases hp
      exact cash_rules (hv.table.player _ _ hslot).rules hactive
        ⟨by have := howner.1; omega, hmax⟩
    · exact (hv.table.player i p hp).rules
  · obtain ⟨p, hp, hpactive⟩ := hv.table.owner i property seat hi ho
    refine ⟨p, hp, ?_⟩
    split_ifs <;> exact hpactive

/-- Handing an unowned space to an active seat keeps the table valid. -/
theorem purchase_table {players : List (Option GameplayPlayerState)}
    {properties : List PropertyState} {inventory : BuildingInventory} {bankCash startedAtMs : ℤ}
    {position seat : ℕ} {property : PropertyState} {definition : BoardSpaceDefinition}
    {player : GameplayPlayerState}
    (h : ValidTable players properties inventory bankCash startedAtMs)
    (hp : properties[position]? = some property) (hd : boardSpaces[position]? = some definition)
    (hnone : property.ownerSeatIndex = none) (hown : isOwnableSpace definition = true)
    (hslot : slotAt players seat = some player) (hactive : player.status = .active) :
    ValidTable players (replaceProperty properties position fun property =>
      { property with ownerSeatIndex := some seat }) inventory bankCash startedAtMs := by
  have hvp := validPropertyState_of_getElem? h.properties_valid hp hd
  have hclean := hvp.unowned_clean hnone
  refine h.withProperties (isValidBuildingInventory_replaceProperty h.stock hp (fun d hd' => ?_)
    rfl rfl) fun i q owner hq howner => ?_
  · rw [hd] at hd'
    cases hd'
    exact { hvp with
      owner_le := fun o ho => by cases ho; have := h.seat_lt hslot; omega
      unowned_clean := fun hcon => nomatch hcon
      ownable_of_owned := fun hcon => by rw [hown] at hcon; cases hcon }
  · rw [getElem?_replaceProperty h.properties_valid] at hq
    split_ifs at hq with hi
    · obtain ⟨q', -, rfl⟩ := Option.map_eq_some_iff.1 hq
      cases howner
      exact ⟨player, hslot, hactive⟩
    · exact h.owner i q owner hq howner

theorem PropertyStep.valid (h : PropertyStep state current nowMs state' events)
    (hadm : Admitted state expected nowMs) (hc : IsCurrent state current)
    (hnone : state.bankruptcyRequiredSeatIndex = none) : ValidActive state' := by
  have hv := hadm.valid
  have hr := hc.rules hv
  have hstart := hadm.started
  cases h with
  | decline position price lastDice hphase hdice htime =>
    exact {
      header := hadm.header rfl rfl rfl rfl rfl hv.header.rng
      table := hv.table
      trades := hv.trades
      turn := by
        dsimp only [afterSettled]
        rw [hnone]
        exact settled_coupled hv hdice htime hstart hv.seat_lt hc.1 hc.active }
  | buy position property definition lastDice hphase hdice htime hp hd howner hown hle =>
    have hcash : IsMatchCash (current.cash - definition.price) :=
      ⟨by omega, by have := hr.cash.2; omega⟩
    exact {
      header := hadm.header rfl rfl rfl rfl rfl hv.header.rng
      table := purchase_table (hv.table.updateSeat hc.1 ⟨rfl, rfl, rfl⟩ rfl
        (cash_rules hr hc.active hcash)) hp hd howner hown (slotAt_updated hc) hc.active
      trades := hv.trades
      turn := by
        dsimp only [afterSettled]
        rw [hnone]
        exact settled_coupled hv hdice htime hstart hv.seat_lt (slotAt_updated hc) hc.active }
  | bankruptcy hphase htime =>
    exact {
      header := hadm.header rfl rfl rfl rfl rfl hv.header.rng
      table := hv.table
      trades := hv.trades
      turn := freshTurn_coupled htime hstart hv.seat_lt hc.1 hc.active trivial hv.turn.dice_valid
        (fun _ hne => absurd rfl hne) (.inr ⟨rfl, rfl⟩) }
  | rent position ownerSeat owner amount lastDice hphase hdice htime hslot hactive hne hamount hle
      hmax =>
    have h0 := calculateRent_nonneg hamount
    exact {
      header := hadm.header rfl rfl rfl rfl rfl hv.header.rng
      table := rent_table hv hc hslot hactive hne h0 hle hmax
      trades := hv.trades
      turn := by
        dsimp only [afterSettled]
        rw [hnone]
        have hpayer : slotAt (mapSlots (fun index player =>
            if index = state.turn.currentSeatIndex then
              { player with cash := current.cash - amount }
            else if index = ownerSeat then { player with cash := owner.cash + amount }
            else player) state.players) state.turn.currentSeatIndex
            = some { current with cash := current.cash - amount } := by
          rw [slotAt_mapSlots, hc.1, Option.map_some, if_pos rfl]
        exact settled_coupled hv hdice htime hstart hv.seat_lt hpayer hc.active }
  | tax taxKind lastDice hphase hdice htime hle =>
    have h0 : 0 ≤ taxKind.amount := by cases taxKind <;> decide
    exact {
      header := hadm.header rfl rfl rfl rfl rfl hv.header.rng
      table := hv.table.updateSeat hc.1 ⟨rfl, rfl, rfl⟩ rfl
        (cash_rules hr hc.active ⟨by omega, by have := hr.cash.2; omega⟩)
      trades := hv.trades
      turn := by
        dsimp only [afterSettled]
        rw [hnone]
        exact settled_coupled hv hdice htime hstart hv.seat_lt (slotAt_updated hc) hc.active }
  | building action position property result hphase htime hresult =>
    obtain ⟨hchange, hcash, hmatch⟩ := BuildingAction.apply_eq_ok hresult
    have hfree : state.turn.phase ≠ .awaitingBankruptcy := by
      obtain hroll | hend := hphase <;> simp [*]
    exact {
      header := hadm.header rfl rfl rfl rfl rfl hv.header.rng
      table := (hv.table.updateSeat (f := fun player => { player with cash := result.cash })
        hc.1 ⟨rfl, rfl, rfl⟩ rfl (cash_rules hr hc.active (hmatch hr.cash))).build hchange
      trades := hv.trades
      turn := by
        dsimp only
        rw [hnone]
        refine freshTurn_coupled htime hstart hv.seat_lt (slotAt_updated hc) hc.active ?_
          hv.turn.dice_valid hv.turn.dice_of_phase (.inl ⟨rfl, hfree⟩)
        obtain hroll | hend := hphase
        · rw [hroll]; trivial
        · rw [hend]; trivial }

/-! ### Jail and cards -/

theorem JailStep.valid (h : JailStep state current nowMs state' events)
    (hadm : Admitted state expected nowMs) (hc : IsCurrent state current) :
    ValidActive state' := by
  have hv := hadm.valid
  have hr := hc.rules hv
  cases h with
  | bankruptcy hcash htime =>
    exact {
      header := hadm.header rfl rfl rfl rfl rfl hv.header.rng
      table := hv.table
      trades := hv.trades
      turn := freshTurn_coupled htime hadm.started hv.seat_lt hc.1 hc.active trivial (by simp)
        (fun _ hne => absurd rfl hne) (.inr ⟨rfl, rfl⟩) }
  | released cash cards method turn hin hpay hpass =>
    have hbooks : IsMatchCash cash ∧ cards ≤ 255 := by
      have h₁ := hr.cash
      have h₂ := hr.cards_le
      obtain ⟨-, hle, rfl, rfl⟩ | ⟨-, rfl, rfl⟩ := hpay
      · exact ⟨⟨by omega, by have := h₁.2; omega⟩, h₂⟩
      · exact ⟨h₁, by omega⟩
    have hrules := released_rules hr hc.active hbooks.1 hr.position_lt hbooks.2
    exact {
      header := hadm.header rfl rfl rfl rfl rfl hv.header.rng
      table := hv.table.updateSeat hc.1 ⟨rfl, rfl, rfl⟩ rfl (by exact hrules)
      trades := hv.trades
      turn := hpass.coupled hadm.started (.updateSlot _ _ fun _ => rfl) (by simp) }

/-- Nobody draws a card from jail: the jail is not a card space. -/
theorem free_of_cardDraw {seat : ℕ} {deck : CardDeck}
    (hr : ValidBankruptcyPlayer current.toBankruptcyPlayerState seat)
    (hphase : PhaseCoupled state.properties current (.awaitingCardDraw deck)) :
    current.inJail = false := by
  rw [← Bool.not_eq_true]
  intro hin
  have hjail := hr.jail
  simp only [JailCoupled, hin, if_true] at hjail
  have hspace := hphase.2
  rw [hjail.1] at hspace
  cases deck <;> exact absurd hspace (by decide)

theorem card_rules {seat : ℕ} {resolution : CardResolution}
    (hr : ValidBankruptcyPlayer current.toBankruptcyPlayerState seat)
    (hactive : current.status = .active) (hfree : current.inJail = false)
    (heffect : CardEffectOn current.toCard resolution) :
    ValidBankruptcyPlayer (current.withCard resolution.state).toBankruptcyPlayerState seat :=
  { moved_rules hr hactive hfree ⟨heffect.cash_nonneg, heffect.cash_le⟩ heffect.position_lt
      hr.consecutiveDoubles_le with
    cards_le := heffect.cards_le
    eliminated := not_eliminated hactive }

theorem CardStep.valid {deck : CardDeck} {rng : RandomCheckpoint} {resolution : CardResolution}
    (h : CardStep state current nowMs deck rng resolution state' events)
    (hadm : Admitted state expected nowMs) (hc : IsCurrent state current)
    (hphase : state.turn.phase = .awaitingCardDraw deck) (hrng : ValidRandomCheckpoint rng)
    (heffect : CardEffectOn current.toCard resolution) : ValidActive state' := by
  have hv := hadm.valid
  have hr := hc.rules hv
  have hcoupled := hc.phase hv
  rw [hphase] at hcoupled
  have hrules := card_rules hr hc.active (free_of_cardDraw hr hcoupled) heffect
  have hdice : state.lastDice ≠ none :=
    hv.turn.dice_of_phase (by simp [hphase]) (by simp [hphase])
  cases h with
  | bankruptcy _ htime =>
    exact {
      header := hadm.header rfl rfl rfl rfl rfl hrng
      table := hv.table.updateSeat hc.1 ⟨rfl, rfl, rfl⟩ rfl hrules
      trades := hv.trades
      turn := freshTurn_coupled htime hadm.started hv.seat_lt (slotAt_updated hc) hc.active trivial
        hv.turn.dice_valid (fun _ hne => absurd rfl hne) (.inr ⟨rfl, rfl⟩) }
  | continued turn _ hturn =>
    exact {
      header := hadm.header rfl rfl rfl rfl rfl hrng
      table := hv.table.updateSeat hc.1 ⟨rfl, rfl, rfl⟩ rfl hrules
      trades := hv.trades
      turn := by
        dsimp only [afterCard]
        rw [hv.required_none (by simp [hphase])]
        unfold continuationTurn at hturn
        dsimp only at hturn
        split_ifs at hturn with hmoved
        · exact landing_coupled hturn hv.table.properties_valid hadm.started hv.seat_lt
            (slotAt_updated hc) hc.active rfl (hc.seatIndex_eq hv) hv.turn.dice_valid hdice
        · obtain ⟨htime, -, rfl⟩ := createClockedGameplayTurn_eq_some.1 hturn
          refine freshTurn_coupled htime hadm.started hv.seat_lt (slotAt_updated hc) hc.active
            (settledPhase_coupled _ _ _) hv.turn.dice_valid (fun _ _ => hdice) (.inl ⟨rfl, ?_⟩)
          unfold settledPhase
          split_ifs <;> simp }

end Steps

/-! ### Elimination -/

section Elimination

variable {state : ActiveGameplayAggregateState} {current : GameplayPlayerState}
  {expected nowMs : ℤ} {players : List (Option GameplayPlayerState)} {player : GameplayPlayerState}
  {resolution : BankruptcyResolution}

theorem eliminate_rules {seat : ℕ}
    (hr : ValidBankruptcyPlayer player.toBankruptcyPlayerState seat) :
    ValidBankruptcyPlayer player.eliminate.toBankruptcyPlayerState seat where
  seatIndex_eq := hr.seatIndex_eq
  cash := isMatchCash_zero
  position_lt := by simp [GameplayPlayerState.eliminate, BankruptcyPlayerState.eliminate]
  jailTurns_le := Nat.zero_le _
  consecutiveDoubles_le := Nat.zero_le _
  missedTurns_le := hr.missedTurns_le
  cards_le := Nat.zero_le _
  jail := by
    simp [JailCoupled, GameplayPlayerState.eliminate, BankruptcyPlayerState.eliminate]
  eliminated := fun _ => ⟨rfl, rfl, rfl, rfl, rfl, rfl⟩

/-- Eliminating a seat keeps the table valid: its spaces went back to the bank. -/
theorem Eliminated.table {seat : ℕ} {startedAtMs : ℤ}
    (h : Eliminated state seat players player resolution)
    (ht : ValidTable players state.properties state.inventory state.bankCash startedAtMs) :
    ValidTable (updateSlot seat GameplayPlayerState.eliminate players) resolution.properties
      resolution.inventory resolution.bankCash startedAtMs := by
  have hcash := (ht.cash h.slot).1
  have hbank := ht.bank.1
  have hvalue := h.value_nonneg
  refine ht.rewrite ⟨by have := h.bank_eq; omega, h.bank_le⟩ h.stock (fun i p _ => ?_)
    (fun i p hp => ?_) fun i property owner hi ho => ?_
  · split_ifs <;> exact ⟨rfl, rfl, rfl⟩
  · split_ifs with hseat
    · exact eliminate_rules (ht.player i p hp).rules
    · exact (ht.player i p hp).rules
  · rw [h.properties_eq, releaseSeat, List.getElem?_map] at hi
    obtain ⟨original, horiginal, rfl⟩ := Option.map_eq_some_iff.1 hi
    split_ifs at ho with hown
    · cases ho
    · obtain ⟨p, hp, hactive⟩ := ht.owner i original owner horiginal ho
      refine ⟨p, hp, ?_⟩
      rw [if_neg fun hcon : owner = seat => hown (hcon ▸ ho)]
      exact hactive

theorem afterElimination_valid {nextSeat : ℕ} {next : GameplayPlayerState}
    (hadm : Admitted state expected nowMs)
    (h : Eliminated state state.turn.currentSeatIndex players player resolution)
    (ht : ValidTable players state.properties state.inventory state.bankCash state.startedAtMs)
    (htime : ClockableTime nowMs)
    (hslot : slotAt (updateSlot state.turn.currentSeatIndex GameplayPlayerState.eliminate players)
      nextSeat = some next) (hactive : next.status = .active) :
    ValidActive (afterElimination state players resolution
      ⟨freshClock nextSeat nowMs, .awaitingRoll⟩) where
  header := hadm.header rfl rfl rfl rfl rfl hadm.valid.header.rng
  table := h.table ht
  trades := fun trade htrade => hadm.valid.trades trade (List.mem_of_mem_filter htrade)
  turn := freshTurn_coupled htime hadm.started ((h.table ht).seat_lt hslot) hslot hactive trivial
    (by simp [afterElimination]) (fun hne => absurd rfl hne) (.inl ⟨rfl, by simp⟩)

theorem activePlayersOf_terminalPlayers (players : List (Option GameplayPlayerState)) :
    activePlayersOf (terminalPlayers (bankruptcyPlayers players))
      = activeTerminalPlayers players := by
  unfold activePlayersOf terminalPlayers bankruptcyPlayers activeTerminalPlayers
  rw [occupants_mapSlots, occupants_mapSlots, List.map_map, List.filter_map]
  rfl

/-- A finished state whose terminal record was derived from its own table is valid. -/
theorem finishState_valid {properties : List PropertyState} {bankCash : ℤ}
    {inventory : BuildingInventory} {terminal : TerminalOutcome} {reason : TerminalEndReason}
    (hadm : Admitted state expected nowMs)
    (ht : ValidTable players properties inventory bankCash state.startedAtMs)
    (hterm : deriveRankedTerminalOutcome (terminalPlayers (bankruptcyPlayers players)) properties
      reason nowMs = .ok terminal)
    (hlimit : reason = .timeLimit → ∃ gameEndAtMs, state.gameEndAtMs = some gameEndAtMs ∧
      gameEndAtMs ≤ nowMs) :
    ValidFinished (finishState state players properties bankCash inventory terminal) := by
  obtain ⟨-, hne, hone, -⟩ := deriveRankedTerminalOutcome_eq_ok.1 hterm
  obtain ⟨ranked, winner, hranked, hwinner, ⟨p, hp, hseat⟩, rfl⟩ :=
    deriveRankedTerminalOutcome_winner hterm
  rw [activePlayersOf_terminalPlayers] at hne hone hranked hp
  exact {
    header := hadm.header rfl rfl rfl rfl rfl hadm.valid.header.rng
    table := ht
    trades := rfl
    dice := rfl
    terminal := by
      refine ⟨?_, hadm.safe, hadm.started, rfl, hlimit⟩
      obtain ⟨q, hq, rfl⟩ := List.mem_map.1 hp
      obtain ⟨i, hi⟩ := mem_occupants.1 (List.mem_of_mem_filter hq)
      have hqi : q.seatIndex = winner.seatIndex := hseat
      simp only [finishState, GameplayPolicy.maximumPlayers]
      rw [← hqi, ht.seatIndex_eq hi]
      exact ht.seat_lt hi
    players_ne := hne
    lastOne := hone
    ranking := ⟨ranked, hranked, rfl, by rw [hwinner]; rfl⟩ }

end Elimination

/-- The validator of the lifecycle a state is in, as a proposition. -/
def ValidAggregate : GameplayAggregateState → Prop
  | .inProgress state => ValidActive state
  | .finished state => ValidFinished state

theorem isValidGameplayAggregateState_iff {state : GameplayAggregateState} :
    isValidGameplayAggregateState state = true ↔ ValidAggregate state := by
  cases state with
  | inProgress state => exact isValidActive_iff
  | finished state => exact isValidFinished_iff

section Outcomes

variable {state : ActiveGameplayAggregateState} {state' : GameplayAggregateState}
  {current : GameplayPlayerState} {expected nowMs : ℤ} {events : List GameplayDomainEvent}

theorem BankruptcyStep.valid {resolution : BankruptcyResolution}
    (h : BankruptcyStep state current nowMs resolution state' events)
    (hadm : Admitted state expected nowMs)
    (helim : Eliminated state state.turn.currentSeatIndex state.players current resolution) :
    ValidAggregate state' := by
  cases h with
  | continued turn hend hpass =>
    obtain ⟨next, hnext, hne, htime, rfl⟩ := hpass
    obtain ⟨-, player, hslot, hactive⟩ := nextActiveSeat_spec hnext
    have hstays : slotAt (updateSlot state.turn.currentSeatIndex GameplayPlayerState.eliminate
        state.players) next = some player := by
      rw [slotAt_updateSlot_of_ne hne, hslot]
    exact afterElimination_valid hadm helim hadm.valid.table htime hstays hactive
  | finished terminal winner ranking hend hterm hwinner hranking =>
    rw [helim.players_eq] at hterm
    exact finishState_valid hadm (helim.table hadm.valid.table) hterm (by simp)

/-- A warning not yet emitted, and not the first one after the second, keeps the list of warnings
well formed. -/
theorem warnings_append {warnings : List TimeoutWarningSeconds} {seconds : TimeoutWarningSeconds}
    (hlen : warnings.length ≤ 2) (htwo : warnings.length = 2 → warnings = [.thirty, .ten])
    (hnew : seconds ∉ warnings) (hten : seconds = .thirty → .ten ∉ warnings) :
    (warnings ++ [seconds]).length ≤ 2 ∧
      ((warnings ++ [seconds]).length = 2 → warnings ++ [seconds] = [.thirty, .ten]) := by
  match warnings with
  | [] => simp
  | [first] => cases first <;> cases seconds <;> simp_all
  | first :: second :: rest =>
    obtain rfl : rest = [] := by
      cases rest with
      | nil => rfl
      | cons _ _ => simp at hlen
    obtain ⟨rfl, rfl⟩ : first = .thirty ∧ second = .ten := by simpa using htwo rfl
    cases seconds <;> simp at hnew

theorem afterMissedTurn_table {missedTurns : ℕ} (hv : ValidActive state)
    (hc : IsCurrent state current) (hle : missedTurns ≤ 3) :
    ValidTable (afterMissedTurn state missedTurns) state.properties state.inventory
      state.bankCash state.startedAtMs :=
  hv.table.updateSeat hc.1 ⟨rfl, rfl, rfl⟩ rfl
    { hc.rules hv with missedTurns_le := hle, eliminated := not_eliminated hc.active }

theorem TimeoutStep.valid {command : GameplayTimeoutCommand}
    (h : TimeoutStep state current nowMs command state' events)
    (hadm : Admitted state expected nowMs) (hc : IsCurrent state current)
    (hnone : state.bankruptcyRequiredSeatIndex = none) : ValidAggregate state' := by
  have hv := hadm.valid
  cases h with
  | timeLimit gameEndAtMs terminal winner ranking hend hle hterm hwinner hranking =>
    exact finishState_valid hadm hv.table hterm fun _ => ⟨gameEndAtMs, hend, hle⟩
  | warning _ seconds turn _ hwarn =>
    obtain ⟨hturn, -, hnew, hten, -, -, -, rfl⟩ := emitTimeoutWarning_eq_ok.1 hwarn
    have hold := hv.turn.turn_valid
    obtain ⟨hlen, htwo⟩ := warnings_append hold.2.1 hold.2.2.1 hnew hten
    exact {
      header := hadm.header rfl rfl rfl rfl rfl hv.header.rng
      table := hv.table
      trades := hv.trades
      turn := { hv.turn with
        turn_valid := ⟨hold.1, hlen, htwo, hold.2.2.2⟩ } }
  | turnAdvanced turn next hdeadline hlt hpass hslot =>
    exact {
      header := hadm.header rfl rfl rfl rfl rfl hv.header.rng
      table := afterMissedTurn_table hv hc (by omega)
      trades := hv.trades
      turn := by
        dsimp only
        rw [hnone]
        exact hpass.coupled hadm.started (.updateSlot _ _ fun _ => rfl) (by simp) }
  | forfeitContinued bankruptcy nextSeat next hdeadline htwo helim hend hseat htime hslot =>
    refine afterElimination_valid hadm helim (afterMissedTurn_table hv hc le_rfl) htime hslot ?_
    obtain ⟨-, p, hp, hactive⟩ := nextActiveSeat_spec hseat
    rw [helim.players_eq, slotAt_bankruptcyPlayers, hslot] at hp
    cases hp
    exact hactive
  | forfeitFinished bankruptcy terminal winner ranking hdeadline htwo helim hend hterm hwinner
      hranking =>
    rw [helim.players_eq] at hterm
    exact finishState_valid hadm (helim.table (afterMissedTurn_table hv hc le_rfl)) hterm (by simp)

end Outcomes

/-! ### The aggregate -/

/-- Every accepted command but a trade leaves a valid aggregate. -/
theorem GameplayStep.valid {state : ActiveGameplayAggregateState} {state' : GameplayAggregateState}
    {body : GameplayCommandBody} {expected : ℤ} {context : GameplayCommandContext}
    {events : List GameplayDomainEvent} (h : GameplayStep state context body state' events)
    (hadm : Admitted state expected context.nowMs) (hbody : ∀ command, body ≠ .trade command) :
    ValidAggregate state' := by
  cases h with
  | turn command current active _ hc hstep => exact hstep.valid hadm hc
  | property command current active _ hnone hc hstep => exact hstep.valid hadm hc hnone
  | jail command current active _ hphase hc hstep => exact hstep.valid hadm hc
  | card command current cardId rng resolution active _ hphase hc hdraw hres hstep =>
    exact hstep.valid hadm hc hphase (drawGameplayCard_eq_ok hdraw) (resolveCard_eq_ok hres).1
  | bankruptcy current resolution _ _ hphase hc helim hstep => exact hstep.valid hadm helim
  | trade command active _ hnone hstep => exact absurd rfl (hbody command)
  | timeout command current _ _ hactor hnone hlimit hc hstep => exact hstep.valid hadm hc hnone

/-- What validity says about ownership, the stock and the jail. -/
structure SoundTable (state : GameplayAggregateStateBase) : Prop where
  owners_active : ∀ property ∈ state.properties, ∀ owner, property.ownerSeatIndex = some owner →
    ∃ player, slotAt state.players owner = some player ∧ player.status = .active
  houses : housesOnBoard state.properties + state.housesRemaining = 32
  hotels : hotelsOnBoard state.properties + state.hotelsRemaining = 12
  jail : ∀ seat player, slotAt state.players seat = some player →
    JailCoupled player.position player.inJail player.jailTurns player.consecutiveDoubles

/-- What validity says about a game in progress, and about a finished one. -/
def SoundAggregate : GameplayAggregateState → Prop
  | .inProgress state => SoundTable state.toGameplayAggregateStateBase ∧
      ∃ current, IsCurrent state current ∧
        PhaseCoupled state.properties current state.turn.phase
  | .finished state => SoundTable state.toGameplayAggregateStateBase ∧
      ∃ ranked, expectedRanking state.players state.properties = some ranked ∧
        state.terminal.ranking = withRanks ranked ∧
        ranked.head?.map RankedSeat.seatIndex = some state.terminal.winnerSeatIndex

theorem ValidTable.sound {state : GameplayAggregateStateBase}
    (h : ValidTable state.players state.properties state.inventory state.bankCash
      state.startedAtMs) : SoundTable state where
  owners_active := fun property hmem owner howner =>
    h.owner _ property owner (getElem?_of_mem h.properties_valid hmem) howner
  houses := (isValidBuildingInventory_iff.1 h.stock).2.1
  hotels := (isValidBuildingInventory_iff.1 h.stock).2.2
  jail := fun seat player hslot => (h.player seat player hslot).rules.jail

theorem ValidAggregate.sound {state : GameplayAggregateState} (h : ValidAggregate state) :
    SoundAggregate state := by
  cases state with
  | inProgress state => exact ⟨ValidTable.sound h.table, h.exists_current⟩
  | finished state =>
    obtain ⟨ranked, hranked, hrank, hwin⟩ := h.ranking
    exact ⟨ValidTable.sound h.table, sortRanked ranked,
      Option.map_eq_some_iff.2 ⟨ranked, hranked, rfl⟩, hrank, hwin⟩

/-- State validity is inductive over every command but the trades. -/
theorem transitionGameplay_valid (state : ActiveGameplayAggregateState)
    (command : GameplayCommand) (context : GameplayCommandContext)
    (state' : GameplayAggregateState) (events : List GameplayDomainEvent)
    (hbody : ∀ trade, command.body ≠ .trade trade)
    (h : transitionGameplay (.inProgress state) command context = .ok (state', events)) :
    isValidGameplayAggregateState state' = true ∧ SoundAggregate state' := by
  obtain ⟨hadm, hstep⟩ := transitionGameplay_step h
  have hvalid := hstep.valid hadm hbody
  exact ⟨isValidGameplayAggregateState_iff.2 hvalid, hvalid.sound⟩

/-- The first roll of a game. -/
theorem transitionGameplay_valid_firstRoll : ∃ state state' events,
    twoPlayerGame [] = some (.inProgress state) ∧
    transitionGameplay (.inProgress state) (rolls 1 2 1 10).1 (rolls 1 2 1 10).2
      = .ok (state', events) ∧
    isValidGameplayAggregateState state' = true ∧ SoundAggregate state' := by
  obtain ⟨state, state', events, hstart, hok, -⟩ := exists_of_acceptedWith
    (twoPlayerGame []) (rolls 1 2 1 10) (fun _ _ _ => true) (by decide +kernel)
  exact ⟨state, state', events, hstart, hok,
    transitionGameplay_valid state _ _ state' events (by simp [rolls]) hok⟩

end Pootown
