import Mathlib.Tactic
import Pootown.Model.Commands

/-!
# Trade transitions

Trades run beside the turn: they may be opened, accepted, rejected, cancelled and cleaned up in any
phase but a pending bankruptcy, and they leave the turn as it is.

* `transitionGameplayTrade`;
* `TradeStep`: the accepted outcomes, and `transitionGameplayTrade_step`.
-/

namespace Pootown

open Fallible Slots

/-- `{ ...original, cash: resolved.cash }`, none when the seats do not match. -/
def mergeTradePlayers (players : List (Option GameplayPlayerState))
    (resolved : List (Option TradePlayerState)) : Option (List (Option GameplayPlayerState)) :=
  mergeSlots (fun original resolved => { original with cash := resolved.cash }) players resolved

def termsForEvent : TradeTerms → TradeEventTerms
  | .moneyOnly offeredCash requestedCash => ⟨.moneyOnly, offeredCash, requestedCash, none, none⟩
  | .propertyOnly offered requested => ⟨.propertyOnly, 0, 0, offered, requested⟩
  | .moneyForProperty offeredCash requested =>
    ⟨.moneyForProperty, offeredCash, 0, none, some requested⟩
  | .propertyForMoney offered requestedCash =>
    ⟨.propertyForMoney, 0, requestedCash, some offered, none⟩

/-- The player ids of the proposer and the receiver. -/
def participantIds (state : ActiveGameplayAggregateState) (trade : PendingTrade) :
    Option (String × String) := do
  let proposer ← slotAt state.players trade.proposerSeatIndex
  let receiver ← slotAt state.players trade.receiverSeatIndex
  return (proposer.playerId, receiver.playerId)

/-- Name the trade rules' error in the rejection. -/
def checkTradeResult (state : ActiveGameplayAggregateState) :
    TradeMutationResult → Except GameplayRejection TradeMutation
  | .error .arithmeticOverflow => .error (reject state .arithmeticOverflow
      ("trade failed: " ++ TradeRuleErrorCode.arithmeticOverflow.text))
  | .error code => .error (reject state .invalidCommand ("trade failed: " ++ code.text))
  | .ok mutation => .ok mutation

/-- Accept a trade against the book without its expired entries, which are removed as well. -/
def acceptCleanedTrade (state : ActiveGameplayAggregateState) (tradeId : String)
    (actorSeatIndex : ℕ) (nowMs : ℤ) : TradeMutationResult :=
  let target := state.activeTrades.find? fun trade => trade.tradeId = tradeId
  let cleaned :=
    if target.any fun trade => nowMs < trade.expiresAtMs then
      cleanupExpiredTrades state.activeTrades nowMs
    else none
  match cleaned with
  | none => acceptTrade state.activeTrades (tradePlayers state.players) state.properties tradeId
      actorSeatIndex nowMs
  | some cleaned =>
    (acceptTrade cleaned.trades (tradePlayers state.players) state.properties tradeId
      actorSeatIndex nowMs).map fun accepted =>
        { accepted with removedTradeIds := cleaned.removedTradeIds ++ accepted.removedTradeIds }

def transitionCleanupExpiredTrades (state : ActiveGameplayAggregateState)
    (context : GameplayCommandContext) : GameplayTransitionResult := do
  require (context.actor = .internal)
    (reject state .unauthorizedActor "only an internal actor can clean expired trades")
  let cleaned ← requireSome (cleanupExpiredTrades state.activeTrades context.nowMs)
    (reject state .invalidState "trade cleanup state is invalid")
  require (cleaned.removedTradeIds ≠ [])
    (reject state .invalidCommand "no expired trades are ready for cleanup")
  return ({ state with
    stateVersion := state.stateVersion + 1
    activeTrades := cleaned.trades }, cleaned.removedTradeIds.map .tradeExpired)

/-- The active player a trade command comes from. -/
def tradeActor (state : ActiveGameplayAggregateState) (context : GameplayCommandContext) :
    Except GameplayRejection GameplayPlayerState :=
  match context.actor with
  | .internal => .error (reject state .unauthorizedActor "internal actors cannot trade")
  | .player playerId => requireSome
      ((gameplayPlayerById state.players playerId).filter fun actor => actor.status = .active)
      (reject state .unauthorizedActor "trade actor is not active")

/-- The aggregate after a trade mutation. -/
def ActiveGameplayAggregateState.withTrade (state : ActiveGameplayAggregateState)
    (players : List (Option GameplayPlayerState)) (mutation : TradeMutation) :
    ActiveGameplayAggregateState :=
  { state with
    stateVersion := state.stateVersion + 1
    players := players
    properties := mutation.properties
    activeTrades := mutation.trades }

def transitionCreateTrade (state : ActiveGameplayAggregateState) (receiverId : String)
    (terms : TradeTerms) (context : GameplayCommandContext) : GameplayTransitionResult := do
  let actor ← tradeActor state context
  let receiver ← requireSome ((gameplayPlayerById state.players receiverId).filter fun receiver =>
      receiver.status = .active ∧ receiver.seatIndex ≠ actor.seatIndex)
    (reject state .invalidCommand "trade receiver is unavailable")
  let tradeId ← requireSome context.tradeId
    (reject state .invalidCommand "server trade ID is required")
  let result ← checkTradeResult state (createTrade state.activeTrades (tradePlayers state.players)
    state.properties tradeId actor.seatIndex receiver.seatIndex terms context.nowMs)
  let players ← requireSome (mergeTradePlayers state.players result.players)
    (reject state .invalidState "trade player mapping is inconsistent")
  let trade ← requireSome result.trade
    (reject state .invalidState "created trade is unavailable")
  return (state.withTrade players result,
    result.removedTradeIds.map .tradeExpired ++
      [.tradeCreated trade.tradeId actor.playerId receiverId (termsForEvent terms)
        trade.expiresAtMs])

/-- Accept, reject or cancel: one mutation of the book, and the event that names it. -/
def transitionSettleTrade (state : ActiveGameplayAggregateState) (tradeId : String)
    (mutation : ℕ → TradeMutationResult)
    (event : GameplayPlayerState → String × String → PendingTrade → GameplayDomainEvent)
    (context : GameplayCommandContext) : GameplayTransitionResult := do
  let actor ← tradeActor state context
  let result ← checkTradeResult state (mutation actor.seatIndex)
  let players ← requireSome (mergeTradePlayers state.players result.players)
    (reject state .invalidState "trade player mapping is inconsistent")
  let expiredIds := result.removedTradeIds.filter fun removed => removed ≠ tradeId
  let trade ← requireSome result.trade
    (reject state .invalidState "resolved trade is unavailable")
  let ids ← requireSome (participantIds state trade)
    (reject state .invalidState "trade participants are unavailable")
  return (state.withTrade players result,
    expiredIds.map .tradeExpired ++ [event actor ids trade])

def transitionGameplayTrade (state : ActiveGameplayAggregateState)
    (command : GameplayTradeCommand) (expectedStateVersion : ℤ)
    (context : GameplayCommandContext) : GameplayTransitionResult := do
  checkCommand state true expectedStateVersion context.nowMs
  require (state.bankruptcyRequiredSeatIndex = none)
    (reject state .invalidPhase "trades pause while bankruptcy is pending")
  match command with
  | .cleanupExpiredTrades => transitionCleanupExpiredTrades state context
  | .createTrade receiverId terms => transitionCreateTrade state receiverId terms context
  | .acceptTrade tradeId =>
    transitionSettleTrade state tradeId
      (fun seat => acceptCleanedTrade state tradeId seat context.nowMs)
      (fun _ ids trade => .tradeAccepted trade.tradeId ids.1 ids.2) context
  | .rejectTrade tradeId =>
    transitionSettleTrade state tradeId
      (fun seat => rejectTrade state.activeTrades (tradePlayers state.players) state.properties
        tradeId seat context.nowMs)
      (fun actor _ trade => .tradeRejected trade.tradeId actor.playerId) context
  | .cancelTrade tradeId =>
    transitionSettleTrade state tradeId
      (fun seat => cancelTrade state.activeTrades (tradePlayers state.players) state.properties
        tradeId seat context.nowMs)
      (fun actor _ trade => .tradeCancelled trade.tradeId actor.playerId) context

/-! ### Accepted outcomes -/

/-- The cash of the occupant of `index` once `trade` is settled between `proposer` and
`receiver`. -/
def settledCash (trade : PendingTrade) (proposer receiver : GameplayPlayerState) (index : ℕ)
    (cash : ℤ) : ℤ :=
  if index = trade.proposerSeatIndex then
    proposer.cash - (cashTerms trade.terms).1 + (cashTerms trade.terms).2
  else if index = trade.receiverSeatIndex then
    receiver.cash - (cashTerms trade.terms).2 + (cashTerms trade.terms).1
  else cash

/-- The first entry of the book under `tradeId` can be settled. -/
structure Settleable (state : ActiveGameplayAggregateState) (tradeId : String) (nowMs : ℤ)
    (trade : PendingTrade) (proposer receiver : GameplayPlayerState) : Prop where
  found : state.activeTrades.find? (fun candidate => candidate.tradeId = tradeId) = some trade
  unexpired : nowMs < trade.expiresAtMs
  terms : validTerms trade.terms = true
  seats_ne : trade.proposerSeatIndex ≠ trade.receiverSeatIndex
  proposer_slot : slotAt state.players trade.proposerSeatIndex = some proposer
  receiver_slot : slotAt state.players trade.receiverSeatIndex = some receiver
  offered_le : (cashTerms trade.terms).1 ≤ proposer.cash
  requested_le : (cashTerms trade.terms).2 ≤ receiver.cash
  receiver_max : receiver.cash - (cashTerms trade.terms).2 + (cashTerms trade.terms).1
    ≤ maxMatchCash
  proposer_max : proposer.cash - (cashTerms trade.terms).1 + (cashTerms trade.terms).2
    ≤ maxMatchCash
  offered_owned : ∀ p, (propertyTerms trade.terms).1 = some p →
    ∃ property, state.properties[p]? = some property ∧
      property.ownerSeatIndex = some trade.proposerSeatIndex ∧ property.mortgaged = false
  requested_owned : ∀ p, (propertyTerms trade.terms).2 = some p →
    ∃ property, state.properties[p]? = some property ∧
      property.ownerSeatIndex = some trade.receiverSeatIndex ∧ property.mortgaged = false

section Steps

variable (state : ActiveGameplayAggregateState) (nowMs : ℤ)

/-- The state with another book of trades. -/
def withBook (trades : List PendingTrade) : ActiveGameplayAggregateState :=
  { state with stateVersion := state.stateVersion + 1, activeTrades := trades }

/-- The state once `trade` is settled. -/
def afterSettlement (trades : List PendingTrade) (trade : PendingTrade)
    (proposer receiver : GameplayPlayerState) : ActiveGameplayAggregateState :=
  { withBook state trades with
    players := mapSlots (fun index player =>
      { player with cash := settledCash trade proposer receiver index player.cash }) state.players
    properties := exchangeProperties state.properties trade }

/-- The accepted outcomes of a trade command. -/
inductive TradeStep : GameplayTradeCommand → ActiveGameplayAggregateState →
    List GameplayDomainEvent → Prop
  | cleanup (trades : List PendingTrade) (expired : List String) :
      (∀ trade ∈ trades, trade ∈ state.activeTrades) → expired ≠ [] →
      TradeStep .cleanupExpiredTrades (withBook state trades) (expired.map .tradeExpired)
  | created (receiverId proposerId : String) (terms : TradeTerms) (trades : List PendingTrade)
      (trade : PendingTrade) (expired : List String) :
      (∀ trade ∈ trades, trade ∈ state.activeTrades) → ValidPendingTrade trade →
      TradeStep (.createTrade receiverId terms) (withBook state (trades ++ [trade]))
        (expired.map .tradeExpired ++ [.tradeCreated trade.tradeId proposerId receiverId
          (termsForEvent terms) trade.expiresAtMs])
  | accepted (tradeId : String) (trades : List PendingTrade) (trade : PendingTrade)
      (proposer receiver : GameplayPlayerState) (expired : List String) :
      (∀ trade ∈ trades, trade ∈ state.activeTrades) → receiver.status = .active →
      Settleable state tradeId nowMs trade proposer receiver →
      TradeStep (.acceptTrade tradeId) (afterSettlement state trades trade proposer receiver)
        (expired.map .tradeExpired ++
          [.tradeAccepted trade.tradeId proposer.playerId receiver.playerId])
  | rejected (tradeId rejecterId : String) (trades : List PendingTrade) (trade : PendingTrade)
      (expired : List String) : (∀ trade ∈ trades, trade ∈ state.activeTrades) →
      TradeStep (.rejectTrade tradeId) (withBook state trades)
        (expired.map .tradeExpired ++ [.tradeRejected trade.tradeId rejecterId])
  | cancelled (tradeId cancellerId : String) (trades : List PendingTrade) (trade : PendingTrade)
      (expired : List String) : (∀ trade ∈ trades, trade ∈ state.activeTrades) →
      TradeStep (.cancelTrade tradeId) (withBook state trades)
        (expired.map .tradeExpired ++ [.tradeCancelled trade.tradeId cancellerId])

end Steps

/-! ### Inversion -/

section Inversion

variable {state state' : ActiveGameplayAggregateState} {nowMs : ℤ}
  {events : List GameplayDomainEvent} {mutation : TradeMutation}

theorem slotAt_tradePlayers (players : List (Option GameplayPlayerState)) (i : ℕ) :
    slotAt (tradePlayers players) i = (slotAt players i).map GameplayPlayerState.toTrade :=
  slotAt_mapSlots ..

theorem mergeTradePlayers_self (players : List (Option GameplayPlayerState)) :
    mergeTradePlayers players (tradePlayers players) = some players := by
  unfold mergeTradePlayers tradePlayers
  rw [mergeSlots_mapSlots]
  exact congrArg some (mapSlots_id fun _ _ _ => rfl)

theorem checkTradeResult_eq_ok {result : TradeMutationResult} :
    checkTradeResult state result = .ok mutation ↔ result = .ok mutation := by
  cases result with
  | ok mutation' => simp [checkTradeResult]
  | error code => cases code <;> simp [checkTradeResult]

/-- The first match of a list is still the first among the entries that pass a filter it passes. -/
theorem find?_filter_of_find? {α : Type} {p q : α → Bool} {l : List α} {a : α}
    (h : l.find? p = some a) (hq : q a = true) : (l.filter q).find? p = some a := by
  obtain ⟨hp, before, after, rfl, hbefore⟩ := List.find?_eq_some_iff_append.1 h
  rw [List.filter_append, List.filter_cons_of_pos hq]
  refine List.find?_eq_some_iff_append.2 ⟨hp, _, _, rfl, fun b hb => ?_⟩
  exact hbefore b (List.mem_of_mem_filter hb)

/-- What the trade rules accept against a part of the book that starts, under the id, with the
same entry. -/
theorem settleable_of_acceptTrade {book : List PendingTrade} {tradeId : String} {seat : ℕ}
    (hbook : ∀ trade ∈ book, trade ∈ state.activeTrades)
    (hfirst : ∀ trade, book.find? (fun candidate => candidate.tradeId = tradeId) = some trade →
      state.activeTrades.find? (fun candidate => candidate.tradeId = tradeId) = some trade)
    (h : acceptTrade book (tradePlayers state.players) state.properties tradeId seat nowMs
      = .ok mutation) :
    ∃ trade proposer receiver, Settleable state tradeId nowMs trade proposer receiver ∧
      trade.receiverSeatIndex = seat ∧ mutation.trade = some trade ∧
      (∀ trade ∈ mutation.trades, trade ∈ state.activeTrades) ∧
      mutation.properties = exchangeProperties state.properties trade ∧
      mergeTradePlayers state.players mutation.players = some (mapSlots (fun index player =>
        { player with cash := settledCash trade proposer receiver index player.cash })
          state.players) := by
  obtain ⟨trade, _, _, hfind, htrade, hseat, hexp, hterms, hne, hp, hr, hple, hrle,
    hrmax, hpmax, hoff, hreq, htrades, hplayers, hprops⟩ := acceptTrade_eq_ok h
  rw [slotAt_tradePlayers] at hp hr
  obtain ⟨proposer, hproposer, rfl⟩ := Option.map_eq_some_iff.1 hp
  obtain ⟨receiver, hreceiver, rfl⟩ := Option.map_eq_some_iff.1 hr
  refine ⟨trade, proposer, receiver, {
    found := hfirst trade hfind
    unexpired := hexp
    terms := hterms
    seats_ne := hne
    proposer_slot := hproposer
    receiver_slot := hreceiver
    offered_le := hple
    requested_le := hrle
    receiver_max := hrmax
    proposer_max := hpmax
    offered_owned := hoff
    requested_owned := hreq }, hseat, htrade, fun t ht => ?_, hprops, ?_⟩
  · rw [htrades] at ht
    exact hbook t (List.mem_of_mem_filter ht)
  · rw [hplayers, mergeTradePlayers, tradePlayers, mapSlots_mapSlots, mergeSlots_mapSlots]
    refine congrArg some (mapSlots_congr fun i p _ => ?_)
    unfold settledCash
    split_ifs <;> rfl

theorem acceptCleanedTrade_eq_ok {tradeId : String} {seat : ℕ}
    (h : acceptCleanedTrade state tradeId seat nowMs = .ok mutation) :
    ∃ trade proposer receiver, Settleable state tradeId nowMs trade proposer receiver ∧
      trade.receiverSeatIndex = seat ∧ mutation.trade = some trade ∧
      (∀ trade ∈ mutation.trades, trade ∈ state.activeTrades) ∧
      mutation.properties = exchangeProperties state.properties trade ∧
      mergeTradePlayers state.players mutation.players = some (mapSlots (fun index player =>
        { player with cash := settledCash trade proposer receiver index player.cash })
          state.players) := by
  unfold acceptCleanedTrade at h
  dsimp only at h
  split at h
  · exact settleable_of_acceptTrade (fun _ ht => ht) (fun _ ht => ht) h
  next cleaned hclean =>
    rw [ite_eq_iff] at hclean
    obtain ⟨hunexpired, hclean⟩ | ⟨-, hclean⟩ := hclean
    · obtain ⟨target, htarget, hexp⟩ := (Option.any_eq_true _ _).1 hunexpired
      obtain ⟨-, htrades, -⟩ := cleanupExpiredTrades_eq_some hclean
      cases hacc : acceptTrade cleaned.trades (tradePlayers state.players) state.properties
        tradeId seat nowMs with
      | error code => rw [hacc] at h; cases h
      | ok accepted =>
        rw [hacc] at h
        cases h
        have hbook : ∀ t ∈ cleaned.trades, t ∈ state.activeTrades := fun t ht =>
          List.mem_of_mem_filter (htrades ▸ ht)
        obtain ⟨trade, proposer, receiver, hset⟩ := settleable_of_acceptTrade hbook
          (fun t ht => by
            rw [htrades, find?_filter_of_find? htarget hexp] at ht
            cases ht
            exact htarget) hacc
        exact ⟨trade, proposer, receiver, hset⟩
    · cases hclean

theorem gameplayPlayerById_slot {players : List (Option GameplayPlayerState)} {playerId : String}
    {player : GameplayPlayerState} (h : gameplayPlayerById players playerId = some player) :
    player.playerId = playerId ∧ ∃ i, slotAt players i = some player :=
  ⟨by simpa using List.find?_some h, mem_occupants.1 (List.mem_of_find?_eq_some h)⟩

/-- The actor of a trade command is an active player. -/
theorem tradeActor_eq_ok {context : GameplayCommandContext} {actor : GameplayPlayerState}
    (hv : ValidActive state) (h : tradeActor state context = .ok actor) :
    context.actor = .player actor.playerId ∧ slotAt state.players actor.seatIndex = some actor ∧
      actor.status = .active := by
  unfold tradeActor at h
  split at h
  · cases h
  next playerId hactor =>
    simp only [requireSome_eq_ok, Option.filter_eq_some_iff, decide_eq_true_eq] at h
    obtain ⟨hid, hactive⟩ := h
    obtain ⟨hname, i, hslot⟩ := gameplayPlayerById_slot hid
    exact ⟨by rw [hactor, hname], by rw [hv.table.seatIndex_eq hslot, hslot], hactive⟩

theorem participantIds_eq_some {trade : PendingTrade} {ids : String × String}
    (h : participantIds state trade = some ids) :
    ∃ proposer receiver, slotAt state.players trade.proposerSeatIndex = some proposer ∧
      slotAt state.players trade.receiverSeatIndex = some receiver ∧
      ids = (proposer.playerId, receiver.playerId) := by
  simp only [participantIds, Option.bind_eq_bind, Option.bind_eq_some_iff, Option.pure_def,
    Option.some.injEq] at h
  obtain ⟨proposer, hp, receiver, hr, rfl⟩ := h
  exact ⟨proposer, receiver, hp, hr, rfl⟩

/-- A settled command went through one mutation of the book and its merge. -/
theorem transitionSettleTrade_eq_ok {tradeId : String} {mutate : ℕ → TradeMutationResult}
    {event : GameplayPlayerState → String × String → PendingTrade → GameplayDomainEvent}
    {context : GameplayCommandContext} (hv : ValidActive state)
    (h : transitionSettleTrade state tradeId mutate event context = .ok (state', events)) :
    ∃ actor mutation players trade ids expired,
      slotAt state.players actor.seatIndex = some actor ∧ actor.status = .active ∧
      mutate actor.seatIndex = .ok mutation ∧
      mergeTradePlayers state.players mutation.players = some players ∧
      mutation.trade = some trade ∧ participantIds state trade = some ids ∧
      state' = state.withTrade players mutation ∧
      events = List.map .tradeExpired expired ++ [event actor ids trade] := by
  simp only [transitionSettleTrade, bind_eq_ok, requireSome_eq_ok, pure_eq_ok,
    checkTradeResult_eq_ok, Prod.mk.injEq] at h
  obtain ⟨actor, hactor, mutation, hmut, players, hmerge, trade, htrade, ids, hids, rfl, rfl⟩ := h
  obtain ⟨-, hslot, hactive⟩ := tradeActor_eq_ok hv hactor
  exact ⟨actor, mutation, players, trade, ids, _, hslot, hactive, hmut, hmerge, htrade, hids, rfl,
    rfl⟩

/-- A mutation that leaves players and properties as they are changes the book only. -/
theorem withTrade_eq_withBook {players : List (Option GameplayPlayerState)}
    (hplayers : mutation.players = tradePlayers state.players)
    (hmerge : mergeTradePlayers state.players mutation.players = some players)
    (hprops : mutation.properties = state.properties) :
    state.withTrade players mutation = withBook state mutation.trades := by
  rw [hplayers, mergeTradePlayers_self] at hmerge
  cases hmerge
  unfold ActiveGameplayAggregateState.withTrade withBook
  rw [hprops]

/-- An accepted trade command was admitted with no bankruptcy pending, and did one of the listed
things. -/
theorem transitionGameplayTrade_step {command : GameplayTradeCommand} {expected : ℤ}
    {context : GameplayCommandContext}
    (h : transitionGameplayTrade state command expected context = .ok (state', events)) :
    Admitted state expected context.nowMs ∧ state.bankruptcyRequiredSeatIndex = none ∧
      TradeStep state context.nowMs command state' events := by
  simp only [transitionGameplayTrade, bind_eq_ok, require_eq_ok, exists_const,
    checkCommand_eq_ok] at h
  obtain ⟨⟨-, hadm⟩, hnone, h⟩ := h
  refine ⟨hadm, hnone, ?_⟩
  have hv := hadm.valid
  cases command with
  | cleanupExpiredTrades =>
    simp only [transitionCleanupExpiredTrades, bind_eq_ok, require_eq_ok, requireSome_eq_ok,
      pure_eq_ok, exists_const, Prod.mk.injEq] at h
    obtain ⟨-, cleaned, hclean, hne, rfl, rfl⟩ := h
    obtain ⟨-, htrades, -⟩ := cleanupExpiredTrades_eq_some hclean
    refine .cleanup cleaned.trades cleaned.removedTradeIds (fun t ht => ?_) hne
    rw [htrades] at ht
    exact List.mem_of_mem_filter ht
  | createTrade receiverId terms =>
    simp only [transitionCreateTrade, bind_eq_ok, requireSome_eq_ok, pure_eq_ok,
      checkTradeResult_eq_ok, Prod.mk.injEq] at h
    obtain ⟨actor, -, receiver, -, tradeId, -, mutation, hmut, players, hmerge, trade, htrade, rfl,
      rfl⟩ := h
    obtain ⟨trade', htrade', hvalid, -, -, htrades, hplayers, hprops⟩ := createTrade_eq_ok hmut
    rw [htrade] at htrade'
    cases htrade'
    rw [withTrade_eq_withBook hplayers hmerge hprops, htrades]
    exact .created receiverId actor.playerId terms _ trade _ (fun t => List.mem_of_mem_filter) hvalid
  | acceptTrade tradeId =>
    obtain ⟨actor, mutation, players, trade', ids, expired, hslot, hactive, hmut, hmerge, htrade',
      hids, rfl, rfl⟩ := transitionSettleTrade_eq_ok hv h
    obtain ⟨trade, proposer, receiver, hset, hseat, htrade, htrades, hprops, hplayers⟩ :=
      acceptCleanedTrade_eq_ok hmut
    rw [htrade'] at htrade
    cases htrade
    rw [hplayers] at hmerge
    cases hmerge
    obtain ⟨proposer', receiver', hp', hr', rfl⟩ := participantIds_eq_some hids
    rw [hset.proposer_slot] at hp'
    rw [hset.receiver_slot] at hr'
    cases hp'
    cases hr'
    have hreceiver : receiver = actor := by
      have := hset.receiver_slot
      rw [hseat, hslot] at this
      cases this
      rfl
    have hstate : state.withTrade (mapSlots (fun index player =>
        { player with cash := settledCash trade' proposer receiver index player.cash })
        state.players) mutation
        = afterSettlement state mutation.trades trade' proposer receiver := by
      unfold ActiveGameplayAggregateState.withTrade afterSettlement withBook
      rw [hprops]
    rw [hstate]
    exact .accepted tradeId _ trade' proposer receiver expired htrades (hreceiver ▸ hactive) hset
  | rejectTrade tradeId =>
    obtain ⟨actor, mutation, players, trade, ids, expired, -, -, hmut, hmerge, -, -, rfl, rfl⟩ :=
      transitionSettleTrade_eq_ok hv h
    obtain ⟨htrades, hplayers, hprops⟩ := removeTrade_eq_ok hmut
    rw [withTrade_eq_withBook hplayers hmerge hprops]
    exact .rejected tradeId actor.playerId _ trade expired htrades
  | cancelTrade tradeId =>
    obtain ⟨actor, mutation, players, trade, ids, expired, -, -, hmut, hmerge, -, -, rfl, rfl⟩ :=
      transitionSettleTrade_eq_ok hv h
    obtain ⟨htrades, hplayers, hprops⟩ := removeTrade_eq_ok hmut
    rw [withTrade_eq_withBook hplayers hmerge hprops]
    exact .cancelled tradeId actor.playerId _ trade expired htrades

end Inversion

end Pootown
