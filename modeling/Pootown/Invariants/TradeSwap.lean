import Mathlib.Tactic
import Pootown.Invariants.CashLedger
import Pootown.Invariants.TradeBook
import Pootown.Invariants.Trades

/-!
# What an accepted trade swaps

The terms of a settled trade, read off the aggregate after it: two seats exchange cash and spaces,
the book loses the trade with what has expired, and the rest stays.

* `Swap`: the aggregate and the events after an acceptance;
* `trade_swaps_exactly`: an accepted trade command is such a swap or changes the book only.

The validators look neither at the ids of the book nor at the standing of a proposer.  Along a game
both are in order; on the other valid aggregates an expired entry under the id of the trade goes
without a word, and a proposer may be out of the game.
-/

namespace Pootown

open Runs Fallible Slots

/-- `trade` between `proposer` and `receiver`, settled at `nowMs`, leads from `state` to
`state'`. -/
structure Swap (state : ActiveGameplayAggregateState) (nowMs : ℤ) (tradeId : String)
    (trade : PendingTrade) (proposer receiver : GameplayPlayerState)
    (state' : ActiveGameplayAggregateState) (events : List GameplayDomainEvent) : Prop where
  found : trade ∈ state.activeTrades
  named : trade.tradeId = tradeId
  unexpired : nowMs < trade.expiresAtMs
  seats_ne : trade.proposerSeatIndex ≠ trade.receiverSeatIndex
  proposer_slot : slotAt state.players trade.proposerSeatIndex = some proposer
  receiver_slot : slotAt state.players trade.receiverSeatIndex = some receiver
  receiver_active : receiver.status = .active
  proposer_cash : slotAt state'.players trade.proposerSeatIndex = some { proposer with
    cash := proposer.cash + ((cashTerms trade.terms).2 - (cashTerms trade.terms).1) }
  receiver_cash : slotAt state'.players trade.receiverSeatIndex = some { receiver with
    cash := receiver.cash + ((cashTerms trade.terms).1 - (cashTerms trade.terms).2) }
  other_players : ∀ seat, seat ≠ trade.proposerSeatIndex → seat ≠ trade.receiverSeatIndex →
    slotAt state'.players seat = slotAt state.players seat
  offered : ∀ position, (propertyTerms trade.terms).1 = some position →
    ∃ property, state.properties[position]? = some property ∧
      property.ownerSeatIndex = some trade.proposerSeatIndex ∧
      state'.properties[position]? =
        some { property with ownerSeatIndex := some trade.receiverSeatIndex }
  requested : ∀ position, (propertyTerms trade.terms).2 = some position →
    ∃ property, state.properties[position]? = some property ∧
      property.ownerSeatIndex = some trade.receiverSeatIndex ∧
      state'.properties[position]? =
        some { property with ownerSeatIndex := some trade.proposerSeatIndex }
  other_properties : ∀ position, (propertyTerms trade.terms).1 ≠ some position →
    (propertyTerms trade.terms).2 ≠ some position →
    state'.properties[position]? = state.properties[position]?
  total : totalCash state'.toGameplayAggregateStateBase =
    totalCash state.toGameplayAggregateStateBase
  only : ∀ other ∈ Pootown.unexpired nowMs state.activeTrades, other.tradeId = tradeId →
    other = trade
  book : state'.activeTrades = dropTrade tradeId (Pootown.unexpired nowMs state.activeTrades)
  events_eq : events =
    ((expiredIds nowMs state.activeTrades).filter (fun id => id ≠ tradeId)).map .tradeExpired ++
      [.tradeAccepted tradeId proposer.playerId receiver.playerId]
  rest : state' = { state with
    stateVersion := state.stateVersion + 1
    players := state'.players
    properties := state'.properties
    activeTrades := state'.activeTrades }

section Accepted

variable {state state' : ActiveGameplayAggregateState} {tradeId : String} {nowMs expected : ℤ}
  {trade : PendingTrade} {proposer receiver : GameplayPlayerState}
  {events : List GameplayDomainEvent} {context : GameplayCommandContext}

/-- The trade rules accept against a book of different ids. -/
theorem acceptTrade_nodup {trades : List PendingTrade} {players : List (Option TradePlayerState)}
    {properties : List PropertyState} {actorSeatIndex : ℕ} {mutation : TradeMutation}
    (h : acceptTrade trades players properties tradeId actorSeatIndex nowMs = .ok mutation) :
    (trades.map PendingTrade.tradeId).Nodup := by
  simp only [acceptTrade, bind_eq_ok, require_eq_ok, exists_const] at h
  obtain ⟨⟨hvalid, -⟩, -⟩ := h
  simp only [validTradeState, Bool.and_eq_true, decide_eq_true_eq] at hvalid
  exact hvalid.1.2

theorem acceptCleanedTrade_nodup {seat : ℕ} {mutation : TradeMutation}
    (h : acceptCleanedTrade state tradeId seat nowMs = .ok mutation) :
    ((unexpired nowMs state.activeTrades).map PendingTrade.tradeId).Nodup := by
  unfold acceptCleanedTrade at h
  dsimp only at h
  split at h
  · exact (acceptTrade_nodup h).sublist (List.filter_sublist.map _)
  next cleaned hclean =>
    obtain ⟨-, hclean⟩ := Option.ite_none_right_eq_some.1 hclean
    obtain ⟨htrades, -⟩ := cleanupExpiredTrades_book hclean
    cases hacc : acceptTrade cleaned.trades (tradePlayers state.players) state.properties
      tradeId seat nowMs with
    | error code => rw [hacc] at h; cases h
    | ok accepted => exact htrades ▸ acceptTrade_nodup hacc

/-- An acceptance settles the trade against the book without its expired entries. -/
theorem transitionAcceptTrade_eq_ok
    (h : transitionGameplayTrade state (.acceptTrade tradeId) expected context
      = .ok (state', events)) :
    Admitted state expected context.nowMs ∧ ∃ trade proposer receiver,
      Settleable state tradeId context.nowMs trade proposer receiver ∧
      receiver.status = .active ∧ trade.tradeId = tradeId ∧
      ((unexpired context.nowMs state.activeTrades).map PendingTrade.tradeId).Nodup ∧
      state' = afterSettlement state
        (dropTrade tradeId (unexpired context.nowMs state.activeTrades)) trade proposer receiver ∧
      events = ((expiredIds context.nowMs state.activeTrades).filter
          (fun id => id ≠ tradeId)).map .tradeExpired ++
        [.tradeAccepted tradeId proposer.playerId receiver.playerId] := by
  simp only [transitionGameplayTrade, bind_eq_ok, require_eq_ok, exists_const,
    checkCommand_eq_ok] at h
  obtain ⟨⟨-, hadm⟩, -, h⟩ := h
  simp only [transitionSettleTrade, bind_eq_ok, requireSome_eq_ok, pure_eq_ok,
    checkTradeResult_eq_ok, Prod.mk.injEq] at h
  obtain ⟨actor, hactor, mutation, hmut, players, hmerge, trade, htrade, ids, hids, rfl, rfl⟩ := h
  obtain ⟨-, hslot, hactive⟩ := tradeActor_eq_ok hadm.valid hactor
  obtain ⟨trade', proposer, receiver, hset, hseat, htrade', -, hprops, hplayers⟩ :=
    acceptCleanedTrade_eq_ok hmut
  obtain ⟨closed, hclosed⟩ := acceptCleanedTrade_closing hadm hmut
  obtain rfl : trade = trade' := Option.some.inj (htrade.symm.trans htrade')
  obtain rfl : trade = closed := Option.some.inj (htrade.symm.trans hclosed.settled)
  obtain rfl : players = _ := Option.some.inj (hmerge.symm.trans hplayers)
  obtain ⟨proposer', receiver', hp', hr', rfl⟩ := participantIds_eq_some hids
  obtain rfl : proposer = proposer' := Option.some.inj (hset.proposer_slot.symm.trans hp')
  obtain rfl : receiver = receiver' := Option.some.inj (hset.receiver_slot.symm.trans hr')
  have hreceiver : receiver = actor := by
    rw [hseat, hslot] at hr'
    exact (Option.some.inj hr').symm
  refine ⟨hadm, trade, proposer, receiver, hset, hreceiver ▸ hactive, hclosed.named,
    acceptCleanedTrade_nodup hmut, ?_, ?_⟩
  · unfold ActiveGameplayAggregateState.withTrade afterSettlement withBook
    rw [hprops, hclosed.trades_eq]
  · rw [hclosed.removed_eq, List.filter_append, hclosed.named]
    simp

/-- A settlement swaps what the terms say. -/
theorem Settleable.swap (hs : Settleable state tradeId nowMs trade proposer receiver)
    (hv : ValidActive state) (hactive : receiver.status = .active)
    (hnamed : trade.tradeId = tradeId)
    (hids : ((Pootown.unexpired nowMs state.activeTrades).map PendingTrade.tradeId).Nodup) :
    Swap state nowMs tradeId trade proposer receiver
      (afterSettlement state (dropTrade tradeId (Pootown.unexpired nowMs state.activeTrades)) trade
        proposer receiver)
      (((expiredIds nowMs state.activeTrades).filter (fun id => id ≠ tradeId)).map .tradeExpired ++
        [.tradeAccepted tradeId proposer.playerId receiver.playerId]) where
  found := List.mem_of_find?_eq_some hs.found
  named := hnamed
  unexpired := hs.unexpired
  seats_ne := hs.seats_ne
  proposer_slot := hs.proposer_slot
  receiver_slot := hs.receiver_slot
  receiver_active := hactive
  proposer_cash := by
    have hcash : proposer.cash + ((cashTerms trade.terms).2 - (cashTerms trade.terms).1) =
        proposer.cash - (cashTerms trade.terms).1 + (cashTerms trade.terms).2 := by ring
    simp only [afterSettlement, slotAt_mapSlots, hs.proposer_slot, Option.map_some, settledCash,
      if_true, hcash]
  receiver_cash := by
    have hcash : receiver.cash + ((cashTerms trade.terms).1 - (cashTerms trade.terms).2) =
        receiver.cash - (cashTerms trade.terms).2 + (cashTerms trade.terms).1 := by ring
    simp only [afterSettlement, slotAt_mapSlots, hs.receiver_slot, Option.map_some, settledCash,
      if_neg (Ne.symm hs.seats_ne), if_true, hcash]
  other_players := fun seat hproposer hreceiver => by
    simp only [afterSettlement, slotAt_mapSlots, settledCash, if_neg hproposer, if_neg hreceiver]
    exact Option.map_id'
  offered := fun position hposition => by
    obtain ⟨property, hp, howner, -⟩ := hs.offered_owned position hposition
    refine ⟨property, hp, howner, ?_⟩
    simp only [afterSettlement, getElem?_exchangeProperties hv.table.properties_valid, hp,
      Option.map_some, newOwner, hposition, if_true]
  requested := fun position hposition => by
    obtain ⟨property, hp, howner, -⟩ := hs.requested_owned position hposition
    have hne : (propertyTerms trade.terms).1 ≠ some position := by
      intro hoffered
      obtain ⟨property', hp', howner', -⟩ := hs.offered_owned position hoffered
      rw [hp, Option.some.injEq] at hp'
      rw [← hp', howner, Option.some.injEq] at howner'
      exact hs.seats_ne howner'.symm
    refine ⟨property, hp, howner, ?_⟩
    simp only [afterSettlement, getElem?_exchangeProperties hv.table.properties_valid, hp,
      Option.map_some, newOwner, hposition, if_neg hne, if_true]
  other_properties := fun position hoffered hrequested => by
    simp only [afterSettlement, getElem?_exchangeProperties hv.table.properties_valid, newOwner,
      if_neg hoffered, if_neg hrequested]
    exact Option.map_id'
  total := by simp only [totalCash, afterSettlement, withBook, hs.cash]
  only := fun other hother hid => List.inj_on_of_nodup_map hids hother
    (List.mem_filter.2 ⟨List.mem_of_find?_eq_some hs.found, by simpa using hs.unexpired⟩)
    (hid.trans hnamed.symm)
  book := rfl
  events_eq := rfl
  rest := rfl

/-- Nothing expires under the id of an unexpired trade, in a book of different ids. -/
theorem Swap.announced (h : Swap state nowMs tradeId trade proposer receiver state' events)
    (hids : (state.activeTrades.map PendingTrade.tradeId).Nodup) :
    events = (expiredIds nowMs state.activeTrades).map .tradeExpired ++
      [.tradeAccepted tradeId proposer.playerId receiver.playerId] := by
  have hall : (expiredIds nowMs state.activeTrades).filter (fun id => id ≠ tradeId) =
      expiredIds nowMs state.activeTrades := by
    refine List.filter_eq_self.2 fun id hid => ?_
    obtain ⟨other, hother, rfl⟩ := List.mem_map.1 hid
    obtain ⟨hmem, hexpired⟩ := List.mem_filter.1 hother
    rw [decide_eq_true_eq] at hexpired ⊢
    rintro hsame
    obtain rfl := List.inj_on_of_nodup_map hids hmem h.found (hsame.trans h.named.symm)
    exact absurd h.unexpired (not_lt.2 hexpired)
  rw [h.events_eq, hall]

theorem Swap.proposer_active
    (h : Swap state nowMs tradeId trade proposer receiver state' events)
    (hparties : ActiveSeat state.players trade.proposerSeatIndex) : proposer.status = .active := by
  obtain ⟨player, hslot, hactive⟩ := hparties
  rw [h.proposer_slot, Option.some.injEq] at hslot
  exact hslot ▸ hactive

end Accepted

/-- The book of a game in progress, at any point of it. -/
theorem wellFormedBook_of_reachable {state : GameplayAggregateState} (h : ReachableGame state) :
    WellFormedBook state.base := by
  obtain ⟨start, commands, hstart, hrun⟩ := h
  exact wellFormedBook_of_run hstart hrun

/-- An accepted trade swaps what its terms say; where the book is well formed, as it is in every
state a game reaches, both parties are in the game and every expired trade is announced.  The other
trade commands change the book only. -/
theorem trade_swaps_exactly (state : ActiveGameplayAggregateState)
    (command : GameplayTradeCommand) (expectedStateVersion : ℤ)
    (context : GameplayCommandContext) (state' : GameplayAggregateState)
    (events : List GameplayDomainEvent)
    (h : transitionGameplay (.inProgress state) ⟨expectedStateVersion, .trade command⟩ context
      = .ok (state', events)) :
    (ReachableGame (.inProgress state) → WellFormedBook state.toGameplayAggregateStateBase) ∧
    ∃ active, state' = .inProgress active ∧
      ((∀ tradeId, command ≠ .acceptTrade tradeId) →
        active = withBook state active.activeTrades) ∧
      ∀ tradeId, command = .acceptTrade tradeId → ∃ trade proposer receiver,
        Swap state context.nowMs tradeId trade proposer receiver active events ∧
        (WellFormedBook state.toGameplayAggregateStateBase → proposer.status = .active ∧
          events = (expiredIds context.nowMs state.activeTrades).map .tradeExpired ++
            [.tradeAccepted tradeId proposer.playerId receiver.playerId]) := by
  refine ⟨wellFormedBook_of_reachable, ?_⟩
  simp only [transitionGameplay, routeGameplay, bind_eq_ok, require_eq_ok, exists_const] at h
  obtain ⟨-, -, h⟩ := h
  obtain ⟨active, htrade, rfl⟩ := keepsPlaying_eq_ok.1 h
  refine ⟨active, rfl, fun hne => ?_, ?_⟩
  · obtain ⟨-, -, hstep⟩ := transitionGameplayTrade_step htrade
    cases hstep with
    | accepted tradeId => exact absurd rfl (hne tradeId)
    | cleanup | created | rejected | cancelled => rfl
  · rintro tradeId rfl
    obtain ⟨hadm, trade, proposer, receiver, hset, hactive, hnamed, hids, rfl, rfl⟩ :=
      transitionAcceptTrade_eq_ok htrade
    have hswap := hset.swap hadm.valid hactive hnamed hids
    exact ⟨trade, proposer, receiver, hswap, fun hbook =>
      ⟨hswap.proposer_active (hbook.proposer trade hswap.found), hswap.announced hbook.ids⟩⟩

/-- Alice has bought space 3 and offers it to Bob for 100. -/
def spaceForSale : Option GameplayAggregateState :=
  twoPlayerGame [
    rolls 1 2 1 10,
    plays "alice" (.property (.buyProperty 3)) 2 20,
    plays "alice" (.trade (.createTrade "bob" (.propertyForMoney 3 100))) 3 30]

/-- Bob takes it. -/
theorem trade_swaps_exactly_sold : ∃ state events active trade proposer receiver,
    spaceForSale = some (.inProgress state) ∧
    Swap state 40 "trade" trade proposer receiver active events ∧
    events = [.tradeAccepted "trade" proposer.playerId receiver.playerId] := by
  obtain ⟨state, state', events, hstart, hok, hcheck⟩ := exists_of_acceptedWith spaceForSale
    (plays "bob" (.trade (.acceptTrade "trade")) 4 40)
    (fun state _ _ => decide (expiredIds 40 state.activeTrades = [])) (by decide +kernel)
  obtain ⟨hbook, active, -, -, hswap⟩ := trade_swaps_exactly _ _ _ _ _ _ hok
  obtain ⟨trade, proposer, receiver, hswap, hordered⟩ := hswap "trade" rfl
  have hevents : events = (expiredIds 40 state.activeTrades).map .tradeExpired ++
      [.tradeAccepted "trade" proposer.playerId receiver.playerId] :=
    (hordered (hbook (reachable_of_twoPlayerGame hstart))).2
  rw [of_decide_eq_true hcheck] at hevents
  exact ⟨state, events, active, trade, proposer, receiver, hstart, hswap, hevents⟩

/-- The first state of the game of two, with other players and another book. -/
def alteredGame (players : List (Option GameplayPlayerState) → List (Option GameplayPlayerState))
    (trades : List PendingTrade) : Option GameplayAggregateState :=
  match twoPlayerGame [] with
  | some (.inProgress state) =>
    some (.inProgress { state with players := players state.players, activeTrades := trades })
  | _ => none

/-- An open trade and an expired one under the same id. -/
def sharedId : Option GameplayAggregateState :=
  alteredGame id [⟨"trade", 0, 1, .moneyOnly 1 0, 1, 3600001⟩,
    ⟨"trade", 0, 1, .moneyOnly 1 0, 0, 3600000⟩]

/-- Bob, out of the game, has offered to take 1. -/
def leftProposer : Option GameplayAggregateState :=
  alteredGame (updateSlot 1 fun player => { player with status := .eliminated, cash := 0 })
    [⟨"trade", 1, 0, .moneyOnly 0 1, 0, 3600000⟩]

/-- On a valid aggregate an expired trade may go without a word, and a proposer may be out of the
game. -/
theorem not_trade_swaps_exactly :
    (¬ ∀ (state : ActiveGameplayAggregateState) (tradeId : String) (expectedStateVersion : ℤ)
      (context : GameplayCommandContext) (state' : GameplayAggregateState)
      (events : List GameplayDomainEvent), isValidActiveGameplayAggregateState state = true →
      transitionGameplay (.inProgress state) ⟨expectedStateVersion, .trade (.acceptTrade tradeId)⟩
        context = .ok (state', events) →
      ∃ ids : String × String, events =
        (expiredIds context.nowMs state.activeTrades).map .tradeExpired ++
          [.tradeAccepted tradeId ids.1 ids.2]) ∧
    ¬ ∀ (state : ActiveGameplayAggregateState) (tradeId : String) (expectedStateVersion : ℤ)
      (context : GameplayCommandContext) (state' : GameplayAggregateState)
      (events : List GameplayDomainEvent), isValidActiveGameplayAggregateState state = true →
      transitionGameplay (.inProgress state) ⟨expectedStateVersion, .trade (.acceptTrade tradeId)⟩
        context = .ok (state', events) →
      ∃ trade ∈ state.activeTrades, trade.tradeId = tradeId ∧
        ActiveSeat state.players trade.proposerSeatIndex ∧
        ActiveSeat state.players trade.receiverSeatIndex := by
  refine ⟨fun h => ?_, fun h => ?_⟩
  · obtain ⟨state, state', events, -, hok, hcheck⟩ := exists_of_acceptedWith sharedId
      (plays "bob" (.trade (.acceptTrade "trade")) 1 3600000)
      (fun state _ events => isValidActiveGameplayAggregateState state &&
        decide ((expiredIds 3600000 state.activeTrades).length = 1) &&
        decide (events.length = 1)) (by decide +kernel)
    simp only [Bool.and_eq_true, decide_eq_true_eq] at hcheck
    obtain ⟨ids, hevents⟩ := h state _ _ _ state' events hcheck.1.1 hok
    have hlength := congrArg List.length hevents
    rw [List.length_append, List.length_map, hcheck.2] at hlength
    have hexpired : (expiredIds (plays "bob" (.trade (.acceptTrade "trade")) 1 3600000).2.nowMs
      state.activeTrades).length = 1 := hcheck.1.2
    rw [hexpired] at hlength
    cases hlength
  · obtain ⟨state, state', events, -, hok, hcheck⟩ := exists_of_acceptedWith leftProposer
      (plays "alice" (.trade (.acceptTrade "trade")) 1 10)
      (fun state _ events => isValidActiveGameplayAggregateState state &&
        state.activeTrades.all fun trade =>
          (slotAt state.players trade.proposerSeatIndex).all fun player =>
            player.status = .eliminated) (by decide +kernel)
    simp only [Bool.and_eq_true, List.all_eq_true] at hcheck
    obtain ⟨trade, hmem, -, ⟨player, hslot, hactive⟩, -⟩ := h state _ _ _ state' events hcheck.1 hok
    have hout := hcheck.2 trade hmem
    rw [hslot, Option.all_some, decide_eq_true_eq, hactive] at hout
    cases hout

end Pootown
