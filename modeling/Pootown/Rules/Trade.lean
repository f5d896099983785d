import Mathlib.Tactic
import Pootown.Library.Fallible
import Pootown.Rules.Property

/-!
# Trade rules

The book of pending trades and its four mutations: create, accept, reject, cancel; and the removal
of expired entries.

* `ValidPendingTrade`: a stored trade, whose expiry is one hour after its creation;
* `createTrade_eq_ok`, `acceptTrade_eq_ok`, `removeTrade_eq_ok`: what an accepted mutation does.
-/

namespace Pootown

open Fallible Slots

inductive TradeTerms
  | moneyOnly (offeredCash requestedCash : ℤ)
  | propertyOnly (offeredPropertyPosition requestedPropertyPosition : Option ℕ)
  | moneyForProperty (offeredCash : ℤ) (requestedPropertyPosition : ℕ)
  | propertyForMoney (offeredPropertyPosition : ℕ) (requestedCash : ℤ)
  deriving DecidableEq

structure TradePlayerState where
  seatIndex : ℕ
  cash : ℤ

structure PendingTrade where
  tradeId : String
  proposerSeatIndex : ℕ
  receiverSeatIndex : ℕ
  terms : TradeTerms
  createdAtMs : ℤ
  expiresAtMs : ℤ

inductive TradeRuleErrorCode
  | invalidTradeState | invalidTrade | tradeIdConflict | tooManyActiveTrades | insufficientCash
  | propertyNotOwned | propertyMortgaged | tradeNotFound | tradeExpired | notTradeTarget
  | notTradeProposer | arithmeticOverflow
  deriving DecidableEq

def TradeRuleErrorCode.text : TradeRuleErrorCode → String
  | .invalidTradeState => "INVALID_TRADE_STATE"
  | .invalidTrade => "INVALID_TRADE"
  | .tradeIdConflict => "TRADE_ID_CONFLICT"
  | .tooManyActiveTrades => "TOO_MANY_ACTIVE_TRADES"
  | .insufficientCash => "INSUFFICIENT_CASH"
  | .propertyNotOwned => "PROPERTY_NOT_OWNED"
  | .propertyMortgaged => "PROPERTY_MORTGAGED"
  | .tradeNotFound => "TRADE_NOT_FOUND"
  | .tradeExpired => "TRADE_EXPIRED"
  | .notTradeTarget => "NOT_TRADE_TARGET"
  | .notTradeProposer => "NOT_TRADE_PROPOSER"
  | .arithmeticOverflow => "ARITHMETIC_OVERFLOW"

/-- The accepted outcome of a trade mutation. -/
structure TradeMutation where
  trades : List PendingTrade
  players : List (Option TradePlayerState)
  properties : List PropertyState
  trade : Option PendingTrade
  removedTradeIds : List String

abbrev TradeMutationResult := Except TradeRuleErrorCode TradeMutation

/-! ### Terms and stored trades -/

def cashTerms : TradeTerms → ℤ × ℤ
  | .moneyOnly offeredCash requestedCash => (offeredCash, requestedCash)
  | .moneyForProperty offeredCash _ => (offeredCash, 0)
  | .propertyForMoney _ requestedCash => (0, requestedCash)
  | .propertyOnly _ _ => (0, 0)

def propertyTerms : TradeTerms → Option ℕ × Option ℕ
  | .propertyOnly offered requested => (offered, requested)
  | .moneyForProperty _ requested => (none, some requested)
  | .propertyForMoney offered _ => (some offered, none)
  | .moneyOnly _ _ => (none, none)

def validTerms : TradeTerms → Bool
  | .moneyOnly offeredCash requestedCash =>
    decide (IsMatchCash offeredCash ∧ IsMatchCash requestedCash ∧
      (0 < offeredCash ∨ 0 < requestedCash))
  | .propertyOnly offered requested =>
    decide ((∀ position ∈ offered, position < 40) ∧ (∀ position ∈ requested, position < 40) ∧
      (offered ≠ none ∨ requested ≠ none) ∧ offered ≠ requested)
  | .moneyForProperty offeredCash requested =>
    decide (IsMatchCash offeredCash ∧ 0 < offeredCash ∧ requested < 40)
  | .propertyForMoney offered requestedCash =>
    decide (offered < 40 ∧ IsMatchCash requestedCash ∧ 0 < requestedCash)

abbrev ValidPendingTrade (trade : PendingTrade) : Prop :=
  validOpaqueId trade.tradeId = true ∧ trade.proposerSeatIndex < 4 ∧
  trade.receiverSeatIndex < 4 ∧ trade.proposerSeatIndex ≠ trade.receiverSeatIndex ∧
  validTerms trade.terms = true ∧ IsSafeInteger trade.createdAtMs ∧ 0 ≤ trade.createdAtMs ∧
  IsSafeInteger (trade.createdAtMs + GameplayPolicy.tradeExpiryMs) ∧
  trade.expiresAtMs = trade.createdAtMs + GameplayPolicy.tradeExpiryMs

theorem cashTerms_nonneg {terms : TradeTerms} (h : validTerms terms = true) :
    0 ≤ (cashTerms terms).1 ∧ 0 ≤ (cashTerms terms).2 := by
  cases terms with
  | moneyOnly offeredCash requestedCash =>
    simp only [validTerms, decide_eq_true_eq] at h
    exact ⟨h.1.1, h.2.1.1⟩
  | propertyOnly offered requested => exact ⟨le_rfl, le_rfl⟩
  | moneyForProperty offeredCash requested =>
    simp only [validTerms, decide_eq_true_eq] at h
    exact ⟨h.1.1, le_rfl⟩
  | propertyForMoney offered requestedCash =>
    simp only [validTerms, decide_eq_true_eq] at h
    exact ⟨le_rfl, h.2.1.1⟩

/-- The `validState` of the trade rules. -/
def validTradeState (trades : List PendingTrade) (players : List (Option TradePlayerState))
    (properties : List PropertyState) : Bool :=
  decide (trades.length ≤ GameplayPolicy.maximumActiveTrades) &&
  decide (players.length = 4) && isValidPropertyStates properties &&
  everySlot (fun index player => decide (player.seatIndex = index ∧ IsMatchCash player.cash))
    players &&
  properties.all (fun property =>
    decide (∀ owner ∈ property.ownerSeatIndex, (slotAt players owner).isSome)) &&
  decide ((trades.map PendingTrade.tradeId).Nodup) &&
  trades.all fun trade => decide (ValidPendingTrade trade ∧
    (slotAt players trade.proposerSeatIndex).isSome ∧
    (slotAt players trade.receiverSeatIndex).isSome ∧
    trade.proposerSeatIndex ≠ trade.receiverSeatIndex)

/-- The error of handing over `position` from `ownerSeatIndex`, if any. -/
def validateProperty (properties : List PropertyState) (position : Option ℕ)
    (ownerSeatIndex : ℕ) : Option TradeRuleErrorCode :=
  match position with
  | none => none
  | some position =>
    match properties[position]? with
    | none => some .propertyNotOwned
    | some property =>
      if property.ownerSeatIndex ≠ some ownerSeatIndex then some .propertyNotOwned
      else if property.mortgaged then some .propertyMortgaged else none

/-- Reject with the error of `validateProperty`. -/
def requireProperty (properties : List PropertyState) (position : Option ℕ)
    (ownerSeatIndex : ℕ) : Except TradeRuleErrorCode Unit :=
  match validateProperty properties position ownerSeatIndex with
  | some code => .error code
  | none => .ok ()

/-- The unexpired trades and the ids of the expired ones. -/
structure CleanedTrades where
  trades : List PendingTrade
  removedTradeIds : List String

def cleanupExpiredTrades (trades : List PendingTrade) (nowMs : ℤ) : Option CleanedTrades :=
  if (trades.all fun trade => decide (ValidPendingTrade trade)) ∧ IsSafeInteger nowMs ∧
      0 ≤ nowMs then
    some {
      trades := trades.filter fun trade => decide (nowMs < trade.expiresAtMs)
      removedTradeIds := (trades.filter fun trade => decide (trade.expiresAtMs ≤ nowMs)).map
        PendingTrade.tradeId }
  else none

/-! ### Mutations -/

def createTrade (trades : List PendingTrade) (players : List (Option TradePlayerState))
    (properties : List PropertyState) (tradeId : String)
    (proposerSeatIndex receiverSeatIndex : ℕ) (terms : TradeTerms) (nowMs : ℤ) :
    TradeMutationResult := do
  require (validTradeState trades players properties = true ∧ IsSafeInteger nowMs ∧ 0 ≤ nowMs)
    .invalidTradeState
  require (validOpaqueId tradeId = true ∧ validTerms terms = true ∧ proposerSeatIndex < 4 ∧
    receiverSeatIndex < 4 ∧ proposerSeatIndex ≠ receiverSeatIndex) .invalidTrade
  let proposer ← requireSome (slotAt players proposerSeatIndex) .invalidTrade
  let _receiver ← requireSome (slotAt players receiverSeatIndex) .invalidTrade
  let cleaned ← requireSome (cleanupExpiredTrades trades nowMs) .invalidTradeState
  require (∀ trade ∈ trades, trade.tradeId ≠ tradeId) .tradeIdConflict
  require (cleaned.trades.length < GameplayPolicy.maximumActiveTrades) .tooManyActiveTrades
  require ((cashTerms terms).1 ≤ proposer.cash) .insufficientCash
  requireProperty properties (propertyTerms terms).1 proposerSeatIndex
  requireProperty properties (propertyTerms terms).2 receiverSeatIndex
  let expiresAtMs := nowMs + GameplayPolicy.tradeExpiryMs
  require (IsSafeInteger expiresAtMs) .invalidTradeState
  let trade : PendingTrade :=
    ⟨tradeId, proposerSeatIndex, receiverSeatIndex, terms, nowMs, expiresAtMs⟩
  return {
    trades := cleaned.trades ++ [trade]
    players := players
    properties := properties
    trade := some trade
    removedTradeIds := cleaned.removedTradeIds }

/-- The property table once `offered` went to the receiver and `requested` to the proposer. -/
def exchangeProperties (properties : List PropertyState) (trade : PendingTrade) :
    List PropertyState :=
  properties.map fun property =>
    if (propertyTerms trade.terms).1 = some property.position then
      { property with ownerSeatIndex := some trade.receiverSeatIndex }
    else if (propertyTerms trade.terms).2 = some property.position then
      { property with ownerSeatIndex := some trade.proposerSeatIndex }
    else property

def acceptTrade (trades : List PendingTrade) (players : List (Option TradePlayerState))
    (properties : List PropertyState) (tradeId : String) (actorSeatIndex : ℕ) (nowMs : ℤ) :
    TradeMutationResult := do
  require (validTradeState trades players properties = true ∧ IsSafeInteger nowMs ∧ 0 ≤ nowMs)
    .invalidTradeState
  require (validOpaqueId tradeId = true ∧ actorSeatIndex < 4) .invalidTrade
  let trade ← requireSome (trades.find? fun candidate => candidate.tradeId = tradeId)
    .tradeNotFound
  require (trade.receiverSeatIndex = actorSeatIndex) .notTradeTarget
  require (nowMs < trade.expiresAtMs) .tradeExpired
  let proposer ← requireSome (slotAt players trade.proposerSeatIndex) .invalidTradeState
  let receiver ← requireSome (slotAt players trade.receiverSeatIndex) .invalidTradeState
  let (offeredCash, requestedCash) := cashTerms trade.terms
  let proposerAfterDebit ←
    requireSome (checkedSubtractMatchCash proposer.cash offeredCash) .insufficientCash
  let receiverAfterDebit ←
    requireSome (checkedSubtractMatchCash receiver.cash requestedCash) .insufficientCash
  let receiverCash ←
    requireSome (checkedAddMatchCash receiverAfterDebit offeredCash) .arithmeticOverflow
  let proposerCash ←
    requireSome (checkedAddMatchCash proposerAfterDebit requestedCash) .arithmeticOverflow
  requireProperty properties (propertyTerms trade.terms).1 trade.proposerSeatIndex
  requireProperty properties (propertyTerms trade.terms).2 trade.receiverSeatIndex
  return {
    trades := trades.filter fun candidate => candidate.tradeId ≠ tradeId
    players := mapSlots (fun index player =>
      if index = trade.proposerSeatIndex then { player with cash := proposerCash }
      else if index = trade.receiverSeatIndex then { player with cash := receiverCash }
      else player) players
    properties := exchangeProperties properties trade
    trade := some trade
    removedTradeIds := [tradeId] }

inductive TradeActorRole
  | receiver | proposer
  deriving DecidableEq

def removeTrade (trades : List PendingTrade) (players : List (Option TradePlayerState))
    (properties : List PropertyState) (tradeId : String) (actorSeatIndex : ℕ) (nowMs : ℤ)
    (actorRole : TradeActorRole) : TradeMutationResult := do
  require (validTradeState trades players properties = true) .invalidTradeState
  require (validOpaqueId tradeId = true ∧ actorSeatIndex < 4) .invalidTrade
  let cleaned ← requireSome (cleanupExpiredTrades trades nowMs) .invalidTradeState
  let trade ← requireSome (cleaned.trades.find? fun candidate => candidate.tradeId = tradeId)
    .tradeNotFound
  require (actorRole = .receiver → trade.receiverSeatIndex = actorSeatIndex) .notTradeTarget
  require (actorRole = .proposer → trade.proposerSeatIndex = actorSeatIndex) .notTradeProposer
  return {
    trades := cleaned.trades.filter fun candidate => candidate.tradeId ≠ tradeId
    players := players
    properties := properties
    trade := some trade
    removedTradeIds := cleaned.removedTradeIds ++ [tradeId] }

def rejectTrade (trades : List PendingTrade) (players : List (Option TradePlayerState))
    (properties : List PropertyState) (tradeId : String) (actorSeatIndex : ℕ) (nowMs : ℤ) :
    TradeMutationResult :=
  removeTrade trades players properties tradeId actorSeatIndex nowMs .receiver

def cancelTrade (trades : List PendingTrade) (players : List (Option TradePlayerState))
    (properties : List PropertyState) (tradeId : String) (actorSeatIndex : ℕ) (nowMs : ℤ) :
    TradeMutationResult :=
  removeTrade trades players properties tradeId actorSeatIndex nowMs .proposer

/-! ### What an accepted mutation does -/

theorem cleanupExpiredTrades_eq_some {trades : List PendingTrade} {nowMs : ℤ}
    {cleaned : CleanedTrades} (h : cleanupExpiredTrades trades nowMs = some cleaned) :
    (∀ trade ∈ trades, ValidPendingTrade trade) ∧
      cleaned.trades = trades.filter (fun trade => decide (nowMs < trade.expiresAtMs)) ∧
      cleaned.removedTradeIds = (trades.filter fun trade => decide (trade.expiresAtMs ≤ nowMs)).map
        PendingTrade.tradeId := by
  unfold cleanupExpiredTrades at h
  split_ifs at h with hv
  cases h
  refine ⟨fun trade ht => ?_, rfl, rfl⟩
  simpa using List.all_eq_true.1 hv.1 trade ht

theorem cleanupExpiredTrades_isSome {trades : List PendingTrade} {nowMs : ℤ}
    (ht : ∀ trade ∈ trades, ValidPendingTrade trade) (hn : IsSafeInteger nowMs) (h0 : 0 ≤ nowMs) :
    ∃ cleaned, cleanupExpiredTrades trades nowMs = some cleaned := by
  unfold cleanupExpiredTrades
  rw [if_pos ⟨List.all_eq_true.2 fun trade h => by simpa using ht trade h, hn, h0⟩]
  exact ⟨_, rfl⟩

theorem requireProperty_eq_ok {properties : List PropertyState} {position : Option ℕ}
    {ownerSeatIndex : ℕ} {u : Unit} :
    requireProperty properties position ownerSeatIndex = .ok u ↔
      ∀ p, position = some p → ∃ property, properties[p]? = some property ∧
        property.ownerSeatIndex = some ownerSeatIndex ∧ property.mortgaged = false := by
  unfold requireProperty validateProperty
  cases position with
  | none => simp
  | some p =>
    cases hp : properties[p]? with
    | none => simp [hp]
    | some property =>
      simp only [Option.some.injEq, forall_eq', hp, exists_eq_left']
      split_ifs with howner hm <;> simp_all

section Mutations

variable {trades : List PendingTrade} {players : List (Option TradePlayerState)}
  {properties : List PropertyState} {tradeId : String} {actorSeatIndex : ℕ} {nowMs : ℤ}
  {mutation : TradeMutation}

/-- A created trade joins the unexpired ones; nothing else changes. -/
theorem createTrade_eq_ok {proposerSeatIndex receiverSeatIndex : ℕ} {terms : TradeTerms}
    (h : createTrade trades players properties tradeId proposerSeatIndex receiverSeatIndex terms
      nowMs = .ok mutation) :
    ∃ trade, mutation.trade = some trade ∧ ValidPendingTrade trade ∧
      trade.proposerSeatIndex = proposerSeatIndex ∧ trade.receiverSeatIndex = receiverSeatIndex ∧
      mutation.trades =
        trades.filter (fun trade => decide (nowMs < trade.expiresAtMs)) ++ [trade] ∧
      mutation.players = players ∧ mutation.properties = properties := by
  simp only [createTrade, bind_eq_ok, require_eq_ok, requireSome_eq_ok, pure_eq_ok,
    exists_const] at h
  obtain ⟨⟨-, hsafe, h0⟩, ⟨hid, hterms, hp, hr, hne⟩, -, -, -, -, cleaned, hclean, -, -, -, -, -,
    -, -, hexp, rfl⟩ := h
  obtain ⟨-, htrades, -⟩ := cleanupExpiredTrades_eq_some hclean
  refine ⟨_, rfl, ⟨hid, hp, hr, hne, hterms, hsafe, h0, hexp, rfl⟩, rfl, rfl, ?_, rfl, rfl⟩
  rw [htrades]

/-- An accepted trade leaves the book, moves its cash between its two parties and its properties
between their owners. -/
theorem acceptTrade_eq_ok
    (h : acceptTrade trades players properties tradeId actorSeatIndex nowMs = .ok mutation) :
    ∃ trade proposer receiver, trades.find? (fun candidate => candidate.tradeId = tradeId)
        = some trade ∧ mutation.trade = some trade ∧ trade.receiverSeatIndex = actorSeatIndex ∧
      nowMs < trade.expiresAtMs ∧ validTerms trade.terms = true ∧
      trade.proposerSeatIndex ≠ trade.receiverSeatIndex ∧
      slotAt players trade.proposerSeatIndex = some proposer ∧
      slotAt players trade.receiverSeatIndex = some receiver ∧
      (cashTerms trade.terms).1 ≤ proposer.cash ∧ (cashTerms trade.terms).2 ≤ receiver.cash ∧
      receiver.cash - (cashTerms trade.terms).2 + (cashTerms trade.terms).1 ≤ maxMatchCash ∧
      proposer.cash - (cashTerms trade.terms).1 + (cashTerms trade.terms).2 ≤ maxMatchCash ∧
      (∀ p, (propertyTerms trade.terms).1 = some p → ∃ property, properties[p]? = some property ∧
        property.ownerSeatIndex = some trade.proposerSeatIndex ∧ property.mortgaged = false) ∧
      (∀ p, (propertyTerms trade.terms).2 = some p → ∃ property, properties[p]? = some property ∧
        property.ownerSeatIndex = some trade.receiverSeatIndex ∧ property.mortgaged = false) ∧
      mutation.trades = trades.filter (fun candidate => candidate.tradeId ≠ tradeId) ∧
      mutation.players = mapSlots (fun index player =>
        if index = trade.proposerSeatIndex then
          { player with
            cash := proposer.cash - (cashTerms trade.terms).1 + (cashTerms trade.terms).2 }
        else if index = trade.receiverSeatIndex then
          { player with
            cash := receiver.cash - (cashTerms trade.terms).2 + (cashTerms trade.terms).1 }
        else player) players ∧
      mutation.properties = exchangeProperties properties trade := by
  simp only [acceptTrade, bind_eq_ok, require_eq_ok, requireSome_eq_ok, pure_eq_ok,
    exists_const, requireProperty_eq_ok, checkedAddMatchCash_eq_some,
    checkedSubtractMatchCash_eq_some] at h
  obtain ⟨⟨hv, -⟩, -, trade, hfind, hactor, hexp, proposer, hp, receiver, hr, pd, ⟨rfl, hple⟩,
    rd, ⟨rfl, hrle⟩, rc, ⟨rfl, hrmax⟩, pc, ⟨rfl, hpmax⟩, hoff, hreq, rfl⟩ := h
  simp only [validTradeState, Bool.and_eq_true, List.all_eq_true, decide_eq_true_eq] at hv
  obtain ⟨⟨-, -, -, hne, hterms, -⟩, -⟩ := hv.2 trade (List.mem_of_find?_eq_some hfind)
  exact ⟨trade, proposer, receiver, hfind, rfl, hactor, hexp, hterms, hne, hp, hr, hple, hrle,
    hrmax, hpmax, hoff, hreq, rfl, rfl, rfl⟩

/-- A rejected or cancelled trade leaves the book, together with the expired ones. -/
theorem removeTrade_eq_ok {actorRole : TradeActorRole}
    (h : removeTrade trades players properties tradeId actorSeatIndex nowMs actorRole
      = .ok mutation) :
    (∀ trade ∈ mutation.trades, trade ∈ trades) ∧ mutation.players = players ∧
      mutation.properties = properties := by
  simp only [removeTrade, bind_eq_ok, require_eq_ok, requireSome_eq_ok, pure_eq_ok,
    exists_const] at h
  obtain ⟨-, -, cleaned, hclean, trade, -, -, -, rfl⟩ := h
  obtain ⟨-, htrades, -⟩ := cleanupExpiredTrades_eq_some hclean
  refine ⟨fun t ht => ?_, rfl, rfl⟩
  rw [htrades] at ht
  exact List.mem_of_mem_filter (List.mem_of_mem_filter ht)

end Mutations

end Pootown
