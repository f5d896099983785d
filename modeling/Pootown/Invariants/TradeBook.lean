import Mathlib.Tactic
import Pootown.Invariants.TurnOrder

/-!
# The trade book

Every trade that is announced stands in the book until a step announces its end, or takes one of its
parties out of the game, or ends the game.

* `closings`: how often events announce the end of a trade; `announcement`: how they announce it;
* `BookChange`: the book and the events of an accepted trade command, `BookAfter` of any command;
  `transitionGameplay_book`;
* `WellFormedBook`, kept by every step;
* `trade_accounted`: what one step does to a trade; `trade_book_accounted`.
-/

namespace Pootown

open Fallible Runs Slots

/-! ### Events about trades -/

/-- The event announces the end of `tradeId`. -/
def closes (tradeId : String) : GameplayDomainEvent → Bool
  | .tradeAccepted id _ _ => decide (id = tradeId)
  | .tradeRejected id _ => decide (id = tradeId)
  | .tradeCancelled id _ => decide (id = tradeId)
  | .tradeExpired id => decide (id = tradeId)
  | _ => false

/-- How many events announce the end of `tradeId`. -/
def closings (tradeId : String) (events : List GameplayDomainEvent) : ℕ :=
  events.countP (closes tradeId)

/-- The event announces a new trade. -/
def opens : GameplayDomainEvent → Bool
  | .tradeCreated _ _ _ _ _ => true
  | _ => false

/-- The event that announces `trade`. -/
def announcement (state : ActiveGameplayAggregateState) (trade : PendingTrade) :
    Option GameplayDomainEvent :=
  (participantIds state trade).map fun ids =>
    .tradeCreated trade.tradeId ids.1 ids.2 (termsForEvent trade.terms) trade.expiresAtMs

/-- No event is about a trade. -/
def TradeFree (events : List GameplayDomainEvent) : Prop :=
  ∀ event ∈ events, opens event = false ∧ ∀ tradeId, closes tradeId event = false

theorem TradeFree.closings_eq {events : List GameplayDomainEvent} (h : TradeFree events)
    (tradeId : String) : closings tradeId events = 0 := by
  refine List.countP_eq_zero.2 fun event hevent => ?_
  rw [(h event hevent).2 tradeId]
  simp

theorem closings_append (tradeId : String) (events events' : List GameplayDomainEvent) :
    closings tradeId (events ++ events') = closings tradeId events + closings tradeId events' :=
  List.countP_append

theorem closings_expired (tradeId : String) (ids : List String) :
    closings tradeId (ids.map .tradeExpired) = ids.count tradeId := by
  rw [closings, List.countP_map, List.count_eq_countP]
  refine List.countP_congr fun id _ => ?_
  simp [closes]

theorem opens_expired {ids : List String} {event : GameplayDomainEvent}
    (h : event ∈ ids.map GameplayDomainEvent.tradeExpired) : opens event = false := by
  obtain ⟨id, -, rfl⟩ := List.mem_map.1 h
  rfl

/-! ### The book of an accepted trade command -/

/-- The trades that are open at `nowMs`. -/
def unexpired (nowMs : ℤ) (trades : List PendingTrade) : List PendingTrade :=
  trades.filter fun trade => decide (nowMs < trade.expiresAtMs)

/-- The trades whose time is over at `nowMs`. -/
def expiredIds (nowMs : ℤ) (trades : List PendingTrade) : List String :=
  (trades.filter fun trade => decide (trade.expiresAtMs ≤ nowMs)).map PendingTrade.tradeId

/-- The book without the entries under `tradeId`. -/
def dropTrade (tradeId : String) (trades : List PendingTrade) : List PendingTrade :=
  trades.filter fun trade => trade.tradeId ≠ tradeId

/-- The book and the events of an accepted trade command: expired trades go, and one may be opened,
or closed. -/
inductive BookChange (state : ActiveGameplayAggregateState) (nowMs : ℤ) :
    List PendingTrade → List GameplayDomainEvent → Prop
  | cleaned : BookChange state nowMs (unexpired nowMs state.activeTrades)
      ((expiredIds nowMs state.activeTrades).map .tradeExpired)
  | opened (trade : PendingTrade) (event : GameplayDomainEvent) :
      announcement state trade = some event → ValidPendingTrade trade →
      trade.createdAtMs = nowMs →
      ActiveSeat state.players trade.proposerSeatIndex →
      ActiveSeat state.players trade.receiverSeatIndex →
      (∀ other ∈ state.activeTrades, other.tradeId ≠ trade.tradeId) →
      (unexpired nowMs state.activeTrades).length < GameplayPolicy.maximumActiveTrades →
      BookChange state nowMs (unexpired nowMs state.activeTrades ++ [trade])
        ((expiredIds nowMs state.activeTrades).map .tradeExpired ++ [event])
  | closed (trade : PendingTrade) (event : GameplayDomainEvent) :
      trade ∈ unexpired nowMs state.activeTrades → opens event = false →
      (∀ tradeId, closes tradeId event = decide (trade.tradeId = tradeId)) →
      BookChange state nowMs (dropTrade trade.tradeId (unexpired nowMs state.activeTrades))
        (((expiredIds nowMs state.activeTrades).filter (fun id => id ≠ trade.tradeId)).map
          .tradeExpired ++ [event])

section Rules

variable {state state' : ActiveGameplayAggregateState} {nowMs : ℤ} {mutation : TradeMutation}
  {tradeId : String}

theorem cleanupExpiredTrades_book {trades : List PendingTrade} {cleaned : CleanedTrades}
    (h : cleanupExpiredTrades trades nowMs = some cleaned) :
    cleaned.trades = unexpired nowMs trades ∧ cleaned.removedTradeIds = expiredIds nowMs trades :=
  (cleanupExpiredTrades_eq_some h).2

/-- What the trade rules say of the book when they open a trade. -/
theorem createTrade_book {trades : List PendingTrade} {players : List (Option TradePlayerState)}
    {properties : List PropertyState} {proposerSeatIndex receiverSeatIndex : ℕ}
    {terms : TradeTerms}
    (h : createTrade trades players properties tradeId proposerSeatIndex receiverSeatIndex terms
      nowMs = .ok mutation) :
    (∀ trade ∈ trades, trade.tradeId ≠ tradeId) ∧
      (unexpired nowMs trades).length < GameplayPolicy.maximumActiveTrades ∧
      mutation.trade = some ⟨tradeId, proposerSeatIndex, receiverSeatIndex, terms, nowMs,
        nowMs + GameplayPolicy.tradeExpiryMs⟩ ∧
      mutation.removedTradeIds = expiredIds nowMs trades := by
  simp only [createTrade, bind_eq_ok, require_eq_ok, requireSome_eq_ok, pure_eq_ok,
    exists_const] at h
  obtain ⟨-, -, -, -, -, -, cleaned, hclean, hfresh, hlt, -, -, -, -, -, -, rfl⟩ := h
  obtain ⟨htrades, hids⟩ := cleanupExpiredTrades_book hclean
  exact ⟨hfresh, htrades ▸ hlt, rfl, hids⟩

/-- What a mutation that closes a trade does to the book. -/
structure Closing (nowMs : ℤ) (trades : List PendingTrade) (tradeId : String)
    (mutation : TradeMutation) (trade : PendingTrade) : Prop where
  settled : mutation.trade = some trade
  named : trade.tradeId = tradeId
  mem : trade ∈ unexpired nowMs trades
  trades_eq : mutation.trades = dropTrade tradeId (unexpired nowMs trades)
  removed_eq : mutation.removedTradeIds = expiredIds nowMs trades ++ [tradeId]

theorem removeTrade_closing {trades : List PendingTrade}
    {players : List (Option TradePlayerState)} {properties : List PropertyState}
    {actorSeatIndex : ℕ} {actorRole : TradeActorRole}
    (h : removeTrade trades players properties tradeId actorSeatIndex nowMs actorRole
      = .ok mutation) : ∃ trade, Closing nowMs trades tradeId mutation trade := by
  simp only [removeTrade, bind_eq_ok, require_eq_ok, requireSome_eq_ok, pure_eq_ok,
    exists_const] at h
  obtain ⟨-, -, cleaned, hclean, trade, hfind, -, -, rfl⟩ := h
  obtain ⟨htrades, hids⟩ := cleanupExpiredTrades_book hclean
  rw [htrades] at hfind
  exact ⟨trade, {
    settled := rfl
    named := by simpa using List.find?_some hfind
    mem := List.mem_of_find?_eq_some hfind
    trades_eq := by rw [← htrades]; rfl
    removed_eq := by rw [hids] }⟩

theorem acceptTrade_closing {trades : List PendingTrade}
    {players : List (Option TradePlayerState)} {properties : List PropertyState}
    {actorSeatIndex : ℕ}
    (h : acceptTrade trades players properties tradeId actorSeatIndex nowMs = .ok mutation) :
    ∃ trade, trades.find? (fun candidate => candidate.tradeId = tradeId) = some trade ∧
      nowMs < trade.expiresAtMs ∧ mutation.trade = some trade ∧
      mutation.trades = dropTrade tradeId trades ∧ mutation.removedTradeIds = [tradeId] := by
  simp only [acceptTrade, bind_eq_ok, require_eq_ok, requireSome_eq_ok, pure_eq_ok,
    exists_const] at h
  obtain ⟨-, -, trade, hfind, -, hexp, -, -, -, -, -, -, -, -, -, -, -, -, -, -, -, -, rfl⟩ := h
  exact ⟨trade, hfind, hexp, rfl, rfl, rfl⟩

/-- An acceptance cleans the book first, since the trade it names has not expired. -/
theorem acceptCleanedTrade_closing {seat : ℕ} {expected : ℤ}
    (hadm : Admitted state expected nowMs)
    (h : acceptCleanedTrade state tradeId seat nowMs = .ok mutation) :
    ∃ trade, Closing nowMs state.activeTrades tradeId mutation trade := by
  obtain ⟨cleaned, hclean⟩ := cleanupExpiredTrades_isSome hadm.valid.trades hadm.safe
    hadm.now_nonneg
  obtain ⟨htrades, hids⟩ := cleanupExpiredTrades_book hclean
  by_cases htarget : (state.activeTrades.find? fun trade => trade.tradeId = tradeId).any
      (fun trade => nowMs < trade.expiresAtMs) = true
  · simp only [acceptCleanedTrade, htarget, if_true, hclean] at h
    cases hacc : acceptTrade cleaned.trades (tradePlayers state.players) state.properties
      tradeId seat nowMs with
    | error code => rw [hacc] at h; cases h
    | ok accepted =>
      rw [hacc] at h
      cases h
      obtain ⟨trade, hfind, -, hsettled, htrades', hremoved⟩ := acceptTrade_closing hacc
      rw [htrades] at hfind htrades'
      exact ⟨trade, {
        settled := hsettled
        named := by simpa using List.find?_some hfind
        mem := List.mem_of_find?_eq_some hfind
        trades_eq := htrades'
        removed_eq := by rw [← hremoved, ← hids] }⟩
  · simp only [acceptCleanedTrade, htarget] at h
    obtain ⟨trade, hfind, hexp, -⟩ := acceptTrade_closing h
    rw [hfind] at htarget
    exact absurd (by simpa using hexp) htarget

end Rules

/-! ### The book of any accepted command -/

section Inversion

variable {state state' : ActiveGameplayAggregateState} {nowMs : ℤ}
  {events : List GameplayDomainEvent}

/-- A closed trade leaves the book with the expired ones, and its event comes last. -/
theorem Closing.bookChange {mutation : TradeMutation} {tradeId : String} {trade : PendingTrade}
    {event : GameplayDomainEvent} (h : Closing nowMs state.activeTrades tradeId mutation trade)
    (hopens : opens event = false)
    (hcloses : ∀ id, closes id event = decide (trade.tradeId = id)) :
    BookChange state nowMs mutation.trades
      ((mutation.removedTradeIds.filter fun removed => removed ≠ tradeId).map .tradeExpired
        ++ [event]) := by
  have hids : mutation.removedTradeIds.filter (fun removed => removed ≠ tradeId)
      = (expiredIds nowMs state.activeTrades).filter fun removed => removed ≠ tradeId := by
    rw [h.removed_eq, List.filter_append]
    simp
  rw [hids, h.trades_eq, ← h.named]
  exact .closed trade event h.mem hopens hcloses

/-- A settled command has closed its trade. -/
theorem transitionSettleTrade_book {tradeId : String} {mutate : ℕ → TradeMutationResult}
    {event : GameplayPlayerState → String × String → PendingTrade → GameplayDomainEvent}
    {context : GameplayCommandContext}
    (hclosing : ∀ seat mutation, mutate seat = .ok mutation →
      ∃ trade, Closing nowMs state.activeTrades tradeId mutation trade)
    (hopens : ∀ actor ids trade, opens (event actor ids trade) = false)
    (hcloses : ∀ actor ids trade id,
      closes id (event actor ids trade) = decide (trade.tradeId = id))
    (h : transitionSettleTrade state tradeId mutate event context = .ok (state', events)) :
    BookChange state nowMs state'.activeTrades events := by
  simp only [transitionSettleTrade, bind_eq_ok, requireSome_eq_ok, pure_eq_ok,
    checkTradeResult_eq_ok, Prod.mk.injEq] at h
  obtain ⟨actor, -, mutation, hmut, players, -, trade, htrade, ids, -, rfl, rfl⟩ := h
  obtain ⟨trade', hclosed⟩ := hclosing _ _ hmut
  obtain rfl : trade' = trade := Option.some.inj (hclosed.settled.symm.trans htrade)
  exact hclosed.bookChange (hopens _ _ _) (hcloses _ _ _)

/-- A created trade joins the book under a fresh id. -/
theorem transitionCreateTrade_book {receiverId : String} {terms : TradeTerms}
    {context : GameplayCommandContext} (hv : ValidActive state)
    (h : transitionCreateTrade state receiverId terms context = .ok (state', events)) :
    BookChange state context.nowMs state'.activeTrades events := by
  simp only [transitionCreateTrade, bind_eq_ok, requireSome_eq_ok, pure_eq_ok,
    checkTradeResult_eq_ok, Option.filter_eq_some_iff, decide_eq_true_eq, Prod.mk.injEq] at h
  obtain ⟨actor, hactor, receiver, ⟨hid, hactive, -⟩, tradeId, -, mutation, hmut, players, -,
    trade, htrade, rfl, rfl⟩ := h
  obtain ⟨-, hslot, hstatus⟩ := tradeActor_eq_ok hv hactor
  obtain ⟨hname, i, hreceiver⟩ := gameplayPlayerById_slot hid
  have hseat : slotAt state.players receiver.seatIndex = some receiver := by
    rw [hv.table.seatIndex_eq hreceiver, hreceiver]
  obtain ⟨trade', htrade', hvalid, -, -, htrades, -⟩ := createTrade_eq_ok hmut
  obtain ⟨hfresh, hlt, hmade, hremoved⟩ := createTrade_book hmut
  rw [htrade, Option.some.injEq] at htrade' hmade
  subst htrade'
  rw [hremoved]
  have hbook := htrades
  subst hmade
  simp only [ActiveGameplayAggregateState.withTrade, hbook]
  refine .opened _ _ ?_ hvalid rfl ⟨actor, hslot, hstatus⟩ ⟨receiver, hseat, hactive⟩ hfresh hlt
  simp [announcement, participantIds, hslot, hseat, hname]

/-- What an accepted trade command does to the book. -/
theorem transitionGameplayTrade_book {command : GameplayTradeCommand} {expected : ℤ}
    {context : GameplayCommandContext}
    (h : transitionGameplayTrade state command expected context = .ok (state', events)) :
    BookChange state context.nowMs state'.activeTrades events := by
  simp only [transitionGameplayTrade, bind_eq_ok, require_eq_ok, exists_const,
    checkCommand_eq_ok] at h
  obtain ⟨⟨-, hadm⟩, -, h⟩ := h
  cases command with
  | cleanupExpiredTrades =>
    simp only [transitionCleanupExpiredTrades, bind_eq_ok, require_eq_ok, requireSome_eq_ok,
      pure_eq_ok, exists_const, Prod.mk.injEq] at h
    obtain ⟨-, cleaned, hclean, -, rfl, rfl⟩ := h
    obtain ⟨htrades, hids⟩ := cleanupExpiredTrades_book hclean
    rw [htrades, hids]
    exact .cleaned
  | createTrade receiverId terms => exact transitionCreateTrade_book hadm.valid h
  | acceptTrade tradeId =>
    exact transitionSettleTrade_book (fun _ _ => acceptCleanedTrade_closing hadm)
      (fun _ _ _ => rfl) (fun _ _ _ _ => rfl) h
  | rejectTrade tradeId =>
    exact transitionSettleTrade_book (fun _ _ => removeTrade_closing)
      (fun _ _ _ => rfl) (fun _ _ _ _ => rfl) h
  | cancelTrade tradeId =>
    exact transitionSettleTrade_book (fun _ _ => removeTrade_closing)
      (fun _ _ _ => rfl) (fun _ _ _ _ => rfl) h

end Inversion

/-- The book and the events of an accepted command: a trade command changes the book; an elimination
takes the trades of the eliminated seat away, and the end of a game all of them, without a word;
every other command leaves the book alone. -/
inductive BookAfter (state : ActiveGameplayAggregateState) (nowMs : ℤ) :
    GameplayAggregateState → List GameplayDomainEvent → Prop
  | traded (active : ActiveGameplayAggregateState) (events : List GameplayDomainEvent) :
      BookChange state nowMs active.activeTrades events →
      (∀ seat, ActiveSeat state.players seat → ActiveSeat active.players seat) →
      BookAfter state nowMs (.inProgress active) events
  | kept (active : ActiveGameplayAggregateState) (events : List GameplayDomainEvent) :
      active.activeTrades = state.activeTrades → TradeFree events →
      (∀ seat, ActiveSeat state.players seat → ActiveSeat active.players seat) →
      BookAfter state nowMs (.inProgress active) events
  | eliminated (active : ActiveGameplayAggregateState) (events : List GameplayDomainEvent) :
      active.activeTrades = tradesWithout state.turn.currentSeatIndex state.activeTrades →
      TradeFree events → ¬ ActiveSeat active.players state.turn.currentSeatIndex →
      (∀ seat, seat ≠ state.turn.currentSeatIndex → ActiveSeat state.players seat →
        ActiveSeat active.players seat) →
      BookAfter state nowMs (.inProgress active) events
  | finished (finished : FinishedGameplayAggregateState) (events : List GameplayDomainEvent) :
      finished.activeTrades = [] → TradeFree events →
      BookAfter state nowMs (.finished finished) events

section Steps

variable {state active : ActiveGameplayAggregateState} {current : GameplayPlayerState}
  {nowMs : ℤ} {events : List GameplayDomainEvent}

theorem activeSeat_of_standing {players players' : List (Option GameplayPlayerState)}
    (h : standing players' = standing players) (seat : ℕ) (hactive : ActiveSeat players seat) :
    ActiveSeat players' seat := by
  obtain ⟨player, hslot, hstatus⟩ := hactive
  have hi : slotAt (standing players') seat = slotAt (standing players) seat := by rw [h]
  simp only [standing, slotAt_mapSlots, hslot, Option.map_some] at hi
  obtain ⟨after, hafter, hpair⟩ := Option.map_eq_some_iff.1 hi
  simp only [Prod.mk.injEq] at hpair
  exact ⟨after, hafter, hpair.1.trans hstatus⟩

theorem activeSeat_afterMissedTurn (missedTurns seat : ℕ)
    (hactive : ActiveSeat state.players seat) :
    ActiveSeat (afterMissedTurn state missedTurns) seat := by
  obtain ⟨player, hslot, hstatus⟩ := hactive
  unfold ActiveSeat
  rw [afterMissedTurn, slotAt_updateSlot, hslot]
  split_ifs
  · exact ⟨_, rfl, hstatus⟩
  · exact ⟨player, rfl, hstatus⟩

theorem not_activeSeat_eliminate (seat : ℕ) (players : List (Option GameplayPlayerState)) :
    ¬ ActiveSeat (updateSlot seat GameplayPlayerState.eliminate players) seat := by
  rintro ⟨player, hslot, hstatus⟩
  rw [slotAt_updateSlot_self] at hslot
  obtain ⟨before, -, rfl⟩ := Option.map_eq_some_iff.1 hslot
  cases hstatus

theorem RollStep.bookKept {dice : DiceRoll} {rng : RandomCheckpoint}
    (h : RollStep state current nowMs dice rng active events) :
    active.activeTrades = state.activeTrades ∧ TradeFree events := by
  cases h <;> exact ⟨rfl, by simp [TradeFree, opens, closes]⟩

theorem TurnStep.bookKept {randomSource : RandomSource} {command : GameplayTurnCommand}
    (h : TurnStep state current nowMs randomSource command active events) :
    active.activeTrades = state.activeTrades ∧ TradeFree events := by
  cases h with
  | endTurn => exact ⟨rfl, by simp [TradeFree]⟩
  | roll _ dice rng _ _ hcommand hphase hdraw hroll => exact hroll.bookKept

theorem PropertyStep.bookKept (h : PropertyStep state current nowMs active events) :
    active.activeTrades = state.activeTrades ∧ TradeFree events := by
  cases h with
  | building action =>
    refine ⟨rfl, ?_⟩
    cases action <;> simp [TradeFree, BuildingAction.event, opens, closes]
  | _ => exact ⟨rfl, by simp [TradeFree, opens, closes]⟩

theorem JailStep.bookKept (h : JailStep state current nowMs active events) :
    active.activeTrades = state.activeTrades ∧ TradeFree events := by
  cases h <;> exact ⟨rfl, by simp [TradeFree, opens, closes]⟩

theorem CardStep.bookKept {deck : CardDeck} {rng : RandomCheckpoint}
    {resolution : CardResolution}
    (h : CardStep state current nowMs deck rng resolution active events) :
    active.activeTrades = state.activeTrades ∧ TradeFree events := by
  cases h with
  | bankruptcy => exact ⟨rfl, by simp [TradeFree, opens, closes]⟩
  | continued =>
    refine ⟨rfl, ?_⟩
    unfold cardEvents
    split <;> simp [TradeFree, opens, closes]

theorem BankruptcyStep.bookAfter {resolution : BankruptcyResolution}
    {state' : GameplayAggregateState}
    (h : BankruptcyStep state current nowMs resolution state' events) :
    BookAfter state nowMs state' events := by
  cases h with
  | continued turn =>
    refine .eliminated _ _ rfl (by simp [TradeFree, opens, closes])
      (not_activeSeat_eliminate _ _) fun seat hne hactive => ?_
    obtain ⟨player, hslot, hstatus⟩ := hactive
    exact ⟨player, by rw [afterElimination, slotAt_updateSlot_of_ne hne, hslot], hstatus⟩
  | finished => exact .finished _ _ rfl (by simp [TradeFree, endEvents, opens, closes])

theorem TimeoutStep.bookAfter {command : GameplayTimeoutCommand}
    {state' : GameplayAggregateState}
    (h : TimeoutStep state current nowMs command state' events) :
    BookAfter state nowMs state' events := by
  cases h with
  | timeLimit => exact .finished _ _ rfl (by simp [TradeFree, endEvents, opens, closes])
  | warning => exact .kept _ _ rfl (by simp [TradeFree, opens, closes]) fun _ hactive => hactive
  | turnAdvanced =>
    exact .kept _ _ rfl (by simp [TradeFree, opens, closes])
      fun seat hactive => activeSeat_afterMissedTurn _ seat hactive
  | forfeitContinued =>
    refine .eliminated _ _ rfl (by simp [TradeFree, forfeitEvents, opens, closes])
      (not_activeSeat_eliminate _ _) fun seat hne hactive => ?_
    obtain ⟨player, hslot, hstatus⟩ := activeSeat_afterMissedTurn 3 seat hactive
    exact ⟨player, by rw [afterElimination, slotAt_updateSlot_of_ne hne, hslot], hstatus⟩
  | forfeitFinished =>
    exact .finished _ _ rfl (by simp [TradeFree, forfeitEvents, endEvents, opens, closes])

/-- What an accepted command does to the book. -/
theorem transitionGameplay_book {state' : GameplayAggregateState} {command : GameplayCommand}
    {context : GameplayCommandContext}
    (h : transitionGameplay (.inProgress state) command context = .ok (state', events)) :
    BookAfter state context.nowMs state' events := by
  obtain ⟨-, hstep⟩ := transitionGameplay_step h
  generalize hbody : command.body = body at hstep
  cases hstep with
  | turn command current active _ hc hstep =>
    exact .kept _ _ hstep.bookKept.1 hstep.bookKept.2 (activeSeat_of_standing hstep.kept.2)
  | property command current active _ hnone hc hstep =>
    exact .kept _ _ hstep.bookKept.1 hstep.bookKept.2 (activeSeat_of_standing hstep.kept.2)
  | jail command current active _ hphase hc hstep =>
    exact .kept _ _ hstep.bookKept.1 hstep.bookKept.2 (activeSeat_of_standing hstep.kept.2)
  | card command current cardId rng resolution active _ hphase hc hdraw hres hstep =>
    exact .kept _ _ hstep.bookKept.1 hstep.bookKept.2 (activeSeat_of_standing hstep.kept.2)
  | bankruptcy current resolution _ _ hphase hc helim hstep => exact hstep.bookAfter
  | timeout command current _ _ hactor hnone hlimit hc hstep => exact hstep.bookAfter
  | trade body active _ hnone hstep =>
    -- the step relation does not say which trades have expired, so go back to the transition
    simp only [transitionGameplay, routeGameplay, hbody, bind_eq_ok, require_eq_ok,
      exists_const] at h
    obtain ⟨-, -, h⟩ := h
    obtain ⟨_, htrade, hactive⟩ := keepsPlaying_eq_ok.1 h
    cases hactive
    exact .traded active _ (transitionGameplayTrade_book htrade)
      (activeSeat_of_standing hstep.kept.2)

end Steps

/-! ### The book is well formed -/

/-- The book of an aggregate: at most twenty trades under different ids, each between two different
active seats, open for an hour. -/
structure WellFormedBook (state : GameplayAggregateStateBase) : Prop where
  length_le : state.activeTrades.length ≤ GameplayPolicy.maximumActiveTrades
  ids : (state.activeTrades.map PendingTrade.tradeId).Nodup
  seats_ne : ∀ trade ∈ state.activeTrades, trade.proposerSeatIndex ≠ trade.receiverSeatIndex
  proposer : ∀ trade ∈ state.activeTrades, ActiveSeat state.players trade.proposerSeatIndex
  receiver : ∀ trade ∈ state.activeTrades, ActiveSeat state.players trade.receiverSeatIndex
  expires_eq : ∀ trade ∈ state.activeTrades, trade.expiresAtMs = trade.createdAtMs + 3600000

theorem WellFormedBook.nil {state : GameplayAggregateStateBase} (h : state.activeTrades = []) :
    WellFormedBook state := by
  constructor <;> simp [h]

/-- Part of a well-formed book is well formed where its parties stay active. -/
theorem WellFormedBook.sublist {state state' : GameplayAggregateStateBase}
    (h : WellFormedBook state) (hsub : state'.activeTrades.Sublist state.activeTrades)
    (hactive : ∀ trade ∈ state'.activeTrades,
      ActiveSeat state'.players trade.proposerSeatIndex ∧
        ActiveSeat state'.players trade.receiverSeatIndex) : WellFormedBook state' where
  length_le := hsub.length_le.trans h.length_le
  ids := h.ids.sublist (hsub.map _)
  seats_ne := fun trade ht => h.seats_ne trade (hsub.subset ht)
  proposer := fun trade ht => (hactive trade ht).1
  receiver := fun trade ht => (hactive trade ht).2
  expires_eq := fun trade ht => h.expires_eq trade (hsub.subset ht)

/-- A well-formed book with room stays so when a trade is opened under a fresh id. -/
theorem WellFormedBook.snoc {state state' : GameplayAggregateStateBase} {trade : PendingTrade}
    (h : WellFormedBook state) (hsnoc : state'.activeTrades = state.activeTrades ++ [trade])
    (hlt : state.activeTrades.length < GameplayPolicy.maximumActiveTrades)
    (hfresh : ∀ other ∈ state.activeTrades, other.tradeId ≠ trade.tradeId)
    (hne : trade.proposerSeatIndex ≠ trade.receiverSeatIndex)
    (hexpires : trade.expiresAtMs = trade.createdAtMs + 3600000)
    (hproposer : ActiveSeat state.players trade.proposerSeatIndex)
    (hreceiver : ActiveSeat state.players trade.receiverSeatIndex)
    (hplayers : ∀ seat, ActiveSeat state.players seat → ActiveSeat state'.players seat) :
    WellFormedBook state' := by
  have hcases : ∀ {P : PendingTrade → Prop}, (∀ other ∈ state.activeTrades, P other) → P trade →
      ∀ other ∈ state'.activeTrades, P other := by
    intro P hold hnew other hother
    rw [hsnoc] at hother
    obtain hother | hother := List.mem_append.1 hother
    · exact hold other hother
    · rw [List.mem_singleton.1 hother]
      exact hnew
  refine ⟨?_, ?_, hcases h.seats_ne hne, ?_, ?_, hcases h.expires_eq hexpires⟩
  · rw [hsnoc, List.length_append]
    exact hlt
  · rw [hsnoc, List.map_append, List.nodup_append]
    refine ⟨h.ids, List.nodup_singleton _, ?_⟩
    rintro _ hother _ hnew rfl
    obtain ⟨other, hmem, hid⟩ := List.mem_map.1 hother
    exact hfresh other hmem (hid.trans (List.mem_singleton.1 hnew))
  · exact hcases (fun other hother => hplayers _ (h.proposer other hother)) (hplayers _ hproposer)
  · exact hcases (fun other hother => hplayers _ (h.receiver other hother)) (hplayers _ hreceiver)

theorem BookAfter.wellFormed {state : ActiveGameplayAggregateState} {nowMs : ℤ}
    {state' : GameplayAggregateState} {events : List GameplayDomainEvent}
    (h : BookAfter state nowMs state' events)
    (hbook : WellFormedBook state.toGameplayAggregateStateBase) : WellFormedBook state'.base := by
  have hparties : ∀ {active : ActiveGameplayAggregateState},
      (∀ seat, ActiveSeat state.players seat → ActiveSeat active.players seat) →
      ∀ trade ∈ state.activeTrades, ActiveSeat active.players trade.proposerSeatIndex ∧
        ActiveSeat active.players trade.receiverSeatIndex := fun hstill trade ht =>
    ⟨hstill _ (hbook.proposer trade ht), hstill _ (hbook.receiver trade ht)⟩
  cases h with
  | traded active _ hchange hstill =>
    have hopen : (unexpired nowMs state.activeTrades).Sublist state.activeTrades :=
      List.filter_sublist
    generalize htrades : active.activeTrades = trades at hchange
    cases hchange with
    | cleaned =>
      refine hbook.sublist (htrades ▸ hopen) fun trade ht => hparties hstill trade ?_
      exact hopen.subset (htrades ▸ ht)
    | closed closed =>
      have hsub : (dropTrade closed.tradeId (unexpired nowMs state.activeTrades)).Sublist
          state.activeTrades := List.filter_sublist.trans hopen
      refine hbook.sublist (htrades ▸ hsub) fun trade ht => hparties hstill trade ?_
      exact hsub.subset (htrades ▸ ht)
    | opened trade event _ hvalid _ hproposer hreceiver hfresh hlt =>
      -- the book is cleaned, which keeps it well formed, and then the trade is added
      have hcleaned : WellFormedBook
          (withBook state (unexpired nowMs state.activeTrades)).toGameplayAggregateStateBase :=
        hbook.sublist hopen fun other hother => hparties (fun _ h => h) other (hopen.subset hother)
      exact hcleaned.snoc htrades hlt (fun other hother => hfresh other (hopen.subset hother))
        hvalid.2.2.2.1 hvalid.2.2.2.2.2.2.2.2 hproposer hreceiver hstill
  | kept active _ heq _ hstill =>
    have hsub : active.activeTrades.Sublist state.activeTrades := heq ▸ List.Sublist.refl _
    exact hbook.sublist hsub fun trade ht => hparties hstill trade (hsub.subset ht)
  | eliminated active _ heq _ hout hstill =>
    have hsub : active.activeTrades.Sublist state.activeTrades := heq ▸ List.filter_sublist
    refine hbook.sublist hsub fun trade ht => ?_
    simp only [GameplayAggregateState.base, heq, tradesWithout, List.mem_filter,
      decide_eq_true_eq] at ht
    exact ⟨hstill _ ht.2.1 (hbook.proposer trade ht.1),
      hstill _ ht.2.2 (hbook.receiver trade ht.1)⟩
  | finished finished _ heq => exact .nil heq

/-! ### What a step does to a trade -/

/-- The step takes a party of `trade` out of the game. -/
def EliminatesParty (before after : GameplayAggregateState) (trade : PendingTrade) : Prop :=
  ∃ seat, (seat = trade.proposerSeatIndex ∨ seat = trade.receiverSeatIndex) ∧
    ActiveSeat before.base.players seat ∧ ¬ ActiveSeat after.base.players seat

/-- The game is over. -/
def GameplayAggregateState.IsFinished : GameplayAggregateState → Prop
  | .inProgress _ => False
  | .finished _ => True

section Accounting

variable {state : ActiveGameplayAggregateState} {nowMs : ℤ} {trade : PendingTrade}
  {state' : GameplayAggregateState} {events : List GameplayDomainEvent}
  (hbook : WellFormedBook state.toGameplayAggregateStateBase)
include hbook

theorem WellFormedBook.eq_of_tradeId {other : PendingTrade} (ht : trade ∈ state.activeTrades)
    (ho : other ∈ state.activeTrades) (h : other.tradeId = trade.tradeId) : other = trade :=
  List.inj_on_of_nodup_map hbook.ids ho ht h

theorem WellFormedBook.nodup_expiredIds (nowMs : ℤ) :
    (expiredIds nowMs state.activeTrades).Nodup :=
  hbook.ids.sublist (List.filter_sublist.map _)

/-- A trade in the book is open, and not among the expired ones, or has expired once. -/
theorem WellFormedBook.open_or_expired (nowMs : ℤ) (ht : trade ∈ state.activeTrades) :
    (trade ∈ unexpired nowMs state.activeTrades ∧
      (expiredIds nowMs state.activeTrades).count trade.tradeId = 0) ∨
    ((∀ other ∈ unexpired nowMs state.activeTrades, other.tradeId ≠ trade.tradeId) ∧
      (expiredIds nowMs state.activeTrades).count trade.tradeId = 1) := by
  by_cases hopen : nowMs < trade.expiresAtMs
  · refine .inl ⟨List.mem_filter.2 ⟨ht, by simpa using hopen⟩, List.count_eq_zero.2 fun hid => ?_⟩
    obtain ⟨other, hother, hsame⟩ := List.mem_map.1 hid
    obtain ⟨hmem, hexpired⟩ := List.mem_filter.1 hother
    rw [hbook.eq_of_tradeId ht hmem hsame, decide_eq_true_eq] at hexpired
    omega
  · refine .inr ⟨fun other hother hsame => ?_, List.count_eq_one_of_mem
      (hbook.nodup_expiredIds nowMs) ?_⟩
    · obtain ⟨hmem, hopen'⟩ := List.mem_filter.1 hother
      rw [hbook.eq_of_tradeId ht hmem hsame, decide_eq_true_eq] at hopen'
      exact hopen hopen'
    · exact List.mem_map.2 ⟨trade, List.mem_filter.2 ⟨ht, by simpa using hopen⟩, rfl⟩

/-- A trade stays in the book, unannounced, or leaves it with one announcement of its end. -/
theorem BookChange.accounted {trades : List PendingTrade}
    (h : BookChange state nowMs trades events) (ht : trade ∈ state.activeTrades) :
    (trade ∈ trades ∧ closings trade.tradeId events = 0) ∨
      ((∀ other ∈ trades, other.tradeId ≠ trade.tradeId) ∧
        closings trade.tradeId events = 1) := by
  have hopen := hbook.open_or_expired nowMs ht
  cases h with
  | cleaned => rwa [closings_expired]
  | opened new event hannounced _ _ _ _ hfresh _ =>
    have hquiet : closings trade.tradeId [event] = 0 := by
      obtain ⟨ids, -, rfl⟩ := Option.map_eq_some_iff.1 hannounced
      rfl
    rw [closings_append, closings_expired, hquiet, Nat.add_zero]
    refine hopen.imp (fun h => ⟨List.mem_append_left _ h.1, h.2⟩) fun h => ⟨?_, h.2⟩
    intro other hother
    obtain hother | hother := List.mem_append.1 hother
    · exact h.1 other hother
    · rw [List.mem_singleton.1 hother]
      exact (hfresh trade ht).symm
  | closed gone event hgone _ hcloses =>
    have hevent : closings trade.tradeId [event]
        = if gone.tradeId = trade.tradeId then 1 else 0 := by
      simp [closings, List.countP_singleton, hcloses]
    rw [closings_append, closings_expired, hevent]
    by_cases hsame : gone.tradeId = trade.tradeId
    · refine .inr ⟨fun other hother => ?_, ?_⟩
      · exact hsame ▸ by simpa using (List.mem_filter.1 hother).2
      · rw [if_pos hsame, List.count_eq_zero.2]
        simp [hsame]
    · have hcount : ((expiredIds nowMs state.activeTrades).filter
          fun id => id ≠ gone.tradeId).count trade.tradeId
          = (expiredIds nowMs state.activeTrades).count trade.tradeId :=
        List.count_filter (by simpa using Ne.symm hsame)
      rw [if_neg hsame, Nat.add_zero, hcount]
      refine hopen.imp (fun h => ⟨?_, h.2⟩) fun h => ⟨fun other hother => ?_, h.2⟩
      · exact List.mem_filter.2 ⟨h.1, by simpa using Ne.symm hsame⟩
      · exact h.1 other (List.mem_of_mem_filter hother)

/-- What an accepted command does to a trade in the book: it stands, unannounced; or it goes, with
one announcement of its end, or with a party or the whole game. -/
theorem BookAfter.accounted (h : BookAfter state nowMs state' events)
    (ht : trade ∈ state.activeTrades) :
    (trade ∈ state'.base.activeTrades ∧ closings trade.tradeId events = 0) ∨
      ((∀ other ∈ state'.base.activeTrades, other.tradeId ≠ trade.tradeId) ∧
        (closings trade.tradeId events = 1 ∨ closings trade.tradeId events = 0 ∧
          (state'.IsFinished ∨ EliminatesParty (.inProgress state) state' trade))) := by
  cases h with
  | traded active _ hchange _ =>
    exact (hchange.accounted hbook ht).imp_right fun h => ⟨h.1, .inl h.2⟩
  | kept active _ heq hfree _ => exact .inl ⟨heq ▸ ht, hfree.closings_eq _⟩
  | eliminated active _ heq hfree hout hstill =>
    by_cases hparty : trade.proposerSeatIndex ≠ state.turn.currentSeatIndex ∧
        trade.receiverSeatIndex ≠ state.turn.currentSeatIndex
    · refine .inl ⟨?_, hfree.closings_eq _⟩
      rw [GameplayAggregateState.base, heq]
      exact List.mem_filter.2 ⟨ht, by simpa using hparty⟩
    · refine .inr ⟨fun other hother hsame => ?_, .inr ⟨hfree.closings_eq _, .inr ?_⟩⟩
      · rw [GameplayAggregateState.base, heq] at hother
        obtain ⟨hmem, hother⟩ := List.mem_filter.1 hother
        rw [hbook.eq_of_tradeId ht hmem hsame, decide_eq_true_eq] at hother
        exact hparty hother
      · refine ⟨state.turn.currentSeatIndex, ?_, ?_, hout⟩
        · by_contra hneither
          exact hparty ⟨fun h => hneither (.inl h.symm), fun h => hneither (.inr h.symm)⟩
        · by_cases hp : trade.proposerSeatIndex = state.turn.currentSeatIndex
          · exact hp ▸ hbook.proposer trade ht
          · have hr : trade.receiverSeatIndex = state.turn.currentSeatIndex :=
              not_not.1 fun hr => hparty ⟨hp, hr⟩
            exact hr ▸ hbook.receiver trade ht
  | finished finished _ heq hfree =>
    refine .inr ⟨fun other hother => ?_, .inr ⟨hfree.closings_eq _, .inl trivial⟩⟩
    rw [GameplayAggregateState.base, heq] at hother
    cases hother

end Accounting

section Announced

variable {state : ActiveGameplayAggregateState} {nowMs : ℤ} {state' : GameplayAggregateState}
  {events : List GameplayDomainEvent}

/-- The end of a trade that is not in the book is not announced. -/
theorem BookChange.closings_eq_zero {trades : List PendingTrade} {tradeId : String}
    (h : BookChange state nowMs trades events)
    (hnone : ∀ other ∈ state.activeTrades, other.tradeId ≠ tradeId) :
    closings tradeId events = 0 := by
  have hexpired : ∀ {ids : List String}, (∀ id ∈ ids, id ∈ expiredIds nowMs state.activeTrades) →
      ids.count tradeId = 0 := by
    refine fun hids => List.count_eq_zero.2 fun hid => ?_
    obtain ⟨other, hother, hsame⟩ := List.mem_map.1 (hids _ hid)
    exact hnone other (List.mem_of_mem_filter hother) hsame
  cases h with
  | cleaned => rw [closings_expired, hexpired fun _ hid => hid]
  | opened new event hannounced =>
    have hquiet : closings tradeId [event] = 0 := by
      obtain ⟨ids, -, rfl⟩ := Option.map_eq_some_iff.1 hannounced
      rfl
    rw [closings_append, closings_expired, hexpired fun _ hid => hid, hquiet]
  | closed gone event hgone _ hcloses =>
    have hquiet : closings tradeId [event] = 0 := by
      simp [closings, hcloses, hnone gone (List.mem_of_mem_filter hgone)]
    rw [closings_append, closings_expired, hexpired fun _ hid => List.mem_of_mem_filter hid, hquiet]

theorem BookAfter.closings_eq_zero {tradeId : String} (h : BookAfter state nowMs state' events)
    (hnone : ∀ other ∈ state.activeTrades, other.tradeId ≠ tradeId) :
    closings tradeId events = 0 := by
  cases h with
  | traded active _ hchange _ => exact hchange.closings_eq_zero hnone
  | kept active _ _ hfree _ => exact hfree.closings_eq _
  | eliminated active _ _ hfree _ _ => exact hfree.closings_eq _
  | finished finished _ _ hfree => exact hfree.closings_eq _

/-- An announced trade is in the book. -/
theorem BookAfter.announced {event : GameplayDomainEvent} (h : BookAfter state nowMs state' events)
    (hevent : event ∈ events) (hopens : opens event = true) :
    ∃ trade ∈ state'.base.activeTrades, announcement state trade = some event := by
  have hfree : ∀ {events : List GameplayDomainEvent}, TradeFree events → event ∈ events → False :=
    fun hfree hmem => by simp [(hfree event hmem).1] at hopens
  cases h with
  | kept active _ _ h _ => exact (hfree h hevent).elim
  | eliminated active _ _ h _ _ => exact (hfree h hevent).elim
  | finished finished _ _ h => exact (hfree h hevent).elim
  | traded active _ hchange _ =>
    generalize htrades : active.activeTrades = trades at hchange
    have hlast : ∀ {ids : List String} {last : GameplayDomainEvent},
        event ∈ ids.map GameplayDomainEvent.tradeExpired ++ [last] → event = last := by
      intro ids last hmem
      obtain hmem | hmem := List.mem_append.1 hmem
      · rw [opens_expired hmem] at hopens
        cases hopens
      · exact List.mem_singleton.1 hmem
    cases hchange with
    | cleaned =>
      rw [opens_expired hevent] at hopens
      cases hopens
    | opened trade _ hannounced =>
      refine ⟨trade, ?_, hlast hevent ▸ hannounced⟩
      rw [GameplayAggregateState.base, htrades]
      exact List.mem_append_right _ (List.mem_singleton_self trade)
    | closed trade _ _ hquiet _ =>
      rw [hlast hevent, hquiet] at hopens
      cases hopens

end Announced

/-! ### Answers -/

/-- The answer is not that the book is malformed. -/
def NotTradeState (rejection : GameplayRejection) : Prop :=
  rejection.error.message ≠ "trade failed: INVALID_TRADE_STATE"

section Answers

variable {state : ActiveGameplayAggregateState} {expected nowMs : ℤ} {trades : List PendingTrade}
  {tradeId : String} {seat : ℕ}

/-- The trade rules find every part of a well-formed book in order. -/
theorem WellFormedBook.validTradeState
    (hbook : WellFormedBook state.toGameplayAggregateStateBase) (hv : ValidActive state)
    (hsub : trades.Sublist state.activeTrades) :
    validTradeState trades (tradePlayers state.players) state.properties = true := by
  have htaken : ∀ {index : ℕ}, ActiveSeat state.players index →
      (slotAt (tradePlayers state.players) index).isSome := by
    rintro index ⟨player, hslot, -⟩
    rw [slotAt_tradePlayers, hslot]
    rfl
  simp only [Pootown.validTradeState, Bool.and_eq_true, decide_eq_true_eq, everySlot_eq_true,
    List.all_eq_true]
  refine ⟨⟨⟨⟨⟨⟨?_, ?_⟩, hv.table.properties_valid⟩, ?_⟩, ?_⟩, ?_⟩, fun trade ht => ?_⟩
  · exact hsub.length_le.trans hbook.length_le
  · simpa [tradePlayers] using hv.table.length_players
  · intro index player hslot
    rw [slotAt_tradePlayers] at hslot
    obtain ⟨original, horiginal, rfl⟩ := Option.map_eq_some_iff.1 hslot
    exact ⟨hv.table.seatIndex_eq horiginal, hv.table.cash horiginal⟩
  · intro property hproperty owner howner
    obtain ⟨i, hi⟩ := List.getElem?_of_mem hproperty
    exact htaken (hv.table.owner i property owner hi howner)
  · exact hbook.ids.sublist (hsub.map _)
  · have hmem := hsub.subset ht
    exact ⟨hv.trades trade hmem, htaken (hbook.proposer trade hmem),
      htaken (hbook.receiver trade hmem), hbook.seats_ne trade hmem⟩

/-- A space cannot be handed over when it belongs to somebody else or is mortgaged. -/
theorem requireProperty_rejects {P : TradeRuleErrorCode → Prop} (howned : P .propertyNotOwned)
    (hmortgaged : P .propertyMortgaged) (properties : List PropertyState) (position : Option ℕ)
    (ownerSeatIndex : ℕ) :
    RejectsOnly P (requireProperty properties position ownerSeatIndex) := by
  intro code h
  unfold requireProperty at h
  split at h
  next code' hcode =>
    cases h
    unfold validateProperty at hcode
    split at hcode
    · cases hcode
    · split at hcode
      · cases hcode
        exact howned
      · split_ifs at hcode <;> cases hcode <;> assumption
  · cases h

variable (hbook : WellFormedBook state.toGameplayAggregateStateBase)
  (hadm : Admitted state expected nowMs)
include hbook hadm

theorem WellFormedBook.createTrade_rejects {receiverSeatIndex : ℕ} {terms : TradeTerms}
    (hexpires : IsSafeInteger (nowMs + GameplayPolicy.tradeExpiryMs)) :
    RejectsOnly (fun code => code ≠ .invalidTradeState)
      (createTrade state.activeTrades (tradePlayers state.players) state.properties tradeId seat
        receiverSeatIndex terms nowMs) := by
  have hvalid := hbook.validTradeState hadm.valid (List.Sublist.refl _)
  obtain ⟨cleaned, hclean⟩ := cleanupExpiredTrades_isSome hadm.valid.trades hadm.safe
    hadm.now_nonneg
  unfold createTrade
  refine .bind (.require_of ⟨hvalid, hadm.safe, hadm.now_nonneg⟩) fun _ =>
    .bind (.require (by decide)) fun _ => .bind (.requireSome (by decide)) fun _ =>
    .bind (.requireSome (by decide)) fun _ => .bind (.requireSome_of hclean) fun _ =>
    .bind (.require (by decide)) fun _ => .bind (.require (by decide)) fun _ =>
    .bind (.require (by decide)) fun _ => .bind (requireProperty_rejects (by decide) (by decide) _ _ _) fun _ =>
    .bind (requireProperty_rejects (by decide) (by decide) _ _ _) fun _ => ?_
  exact .bind (.require_of hexpires) fun _ => .pure _

theorem WellFormedBook.acceptTrade_rejects (hsub : trades.Sublist state.activeTrades) :
    RejectsOnly (fun code => code ≠ .invalidTradeState)
      (acceptTrade trades (tradePlayers state.players) state.properties tradeId seat nowMs) := by
  have hvalid := hbook.validTradeState hadm.valid hsub
  unfold acceptTrade
  refine .bind (.require_of ⟨hvalid, hadm.safe, hadm.now_nonneg⟩) fun _ =>
    .bind (.require (by decide)) fun _ => .bind_of (.requireSome (by decide)) fun trade hfind => ?_
  have hmem := hsub.subset (List.mem_of_find?_eq_some (requireSome_eq_ok.1 hfind))
  obtain ⟨proposer, hproposer, -⟩ := hbook.proposer trade hmem
  obtain ⟨receiver, hreceiver, -⟩ := hbook.receiver trade hmem
  have hseats := slotAt_tradePlayers state.players
  refine .bind (.require (by decide)) fun _ => .bind (.require (by decide)) fun _ =>
    .bind (.requireSome_of (by rw [hseats, hproposer]; rfl)) fun _ =>
    .bind (.requireSome_of (by rw [hseats, hreceiver]; rfl)) fun _ => ?_
  exact .bind (.requireSome (by decide)) fun _ => .bind (.requireSome (by decide)) fun _ =>
    .bind (.requireSome (by decide)) fun _ => .bind (.requireSome (by decide)) fun _ =>
    .bind (requireProperty_rejects (by decide) (by decide) _ _ _) fun _ => .bind (requireProperty_rejects (by decide) (by decide) _ _ _) fun _ =>
    .pure _

theorem WellFormedBook.acceptCleanedTrade_rejects :
    RejectsOnly (fun code => code ≠ .invalidTradeState)
      (acceptCleanedTrade state tradeId seat nowMs) := by
  unfold acceptCleanedTrade
  dsimp only
  split
  · exact hbook.acceptTrade_rejects hadm (List.Sublist.refl _)
  next cleaned hclean =>
    split_ifs at hclean
    obtain ⟨htrades, -⟩ := cleanupExpiredTrades_book hclean
    exact (hbook.acceptTrade_rejects hadm (htrades ▸ List.filter_sublist)).map _

theorem WellFormedBook.removeTrade_rejects (actorRole : TradeActorRole) :
    RejectsOnly (fun code => code ≠ .invalidTradeState)
      (removeTrade state.activeTrades (tradePlayers state.players) state.properties tradeId seat
        nowMs actorRole) := by
  have hvalid := hbook.validTradeState hadm.valid (List.Sublist.refl _)
  obtain ⟨cleaned, hclean⟩ := cleanupExpiredTrades_isSome hadm.valid.trades hadm.safe
    hadm.now_nonneg
  unfold removeTrade
  exact .bind (.require_of hvalid) fun _ => .bind (.require (by decide)) fun _ =>
    .bind (.requireSome_of hclean) fun _ => .bind (.requireSome (by decide)) fun _ =>
    .bind (.require (by decide)) fun _ => .bind (.require (by decide)) fun _ => .pure _

end Answers

section Messages

variable {state : ActiveGameplayAggregateState} {context : GameplayCommandContext}

theorem checkCommand_notTradeState (validCommand : Bool) (expected nowMs : ℤ) :
    RejectsOnly NotTradeState (checkCommand state validCommand expected nowMs) :=
  .bind (.require (by simp [NotTradeState, reject])) fun _ =>
    .bind (.require (by simp [NotTradeState, reject])) fun _ =>
    .bind (.require (by simp [NotTradeState, reject])) fun _ =>
    .require (by simp [NotTradeState, reject])

/-- A refused mutation is answered with the text of its error. -/
theorem checkTradeResult_error {code : TradeRuleErrorCode} {rejection : GameplayRejection}
    (h : checkTradeResult state (.error code) = .error rejection) :
    rejection.error.message = "trade failed: " ++ code.text := by
  cases code <;> cases h <;> rfl

theorem text_ne_invalidTradeState {code : TradeRuleErrorCode} (h : code ≠ .invalidTradeState) :
    "trade failed: " ++ code.text ≠ "trade failed: INVALID_TRADE_STATE" := by
  revert h
  cases code <;> decide

theorem checkTradeResult_rejects {result : TradeMutationResult}
    (h : RejectsOnly (fun code => code ≠ .invalidTradeState) result) :
    RejectsOnly NotTradeState (checkTradeResult state result) := by
  intro rejection hrejected
  cases result with
  | ok mutation => cases hrejected
  | error code =>
    rw [NotTradeState, checkTradeResult_error hrejected]
    exact text_ne_invalidTradeState (h code rfl)

theorem tradeActor_rejects : RejectsOnly NotTradeState (tradeActor state context) := by
  unfold tradeActor
  split
  · exact .error (by simp [NotTradeState, reject])
  · exact .requireSome (by simp [NotTradeState, reject])

theorem transitionSettleTrade_rejects {tradeId : String} {mutate : ℕ → TradeMutationResult}
    {event : GameplayPlayerState → String × String → PendingTrade → GameplayDomainEvent}
    (h : ∀ seat, RejectsOnly (fun code => code ≠ .invalidTradeState) (mutate seat)) :
    RejectsOnly NotTradeState (transitionSettleTrade state tradeId mutate event context) :=
  .bind tradeActor_rejects fun _ => .bind (checkTradeResult_rejects (h _)) fun _ =>
    .bind (.requireSome (by simp [NotTradeState, reject])) fun _ =>
    .bind (.requireSome (by simp [NotTradeState, reject])) fun _ =>
    .bind (.requireSome (by simp [NotTradeState, reject])) fun _ => .pure _

/-- No trade command on a well-formed book is answered that the book is malformed, unless it opens a
trade whose hour the clock cannot count. -/
theorem WellFormedBook.transitionGameplayTrade_rejects {command : GameplayTradeCommand}
    {expected : ℤ} (hbook : WellFormedBook state.toGameplayAggregateStateBase)
    (hexpires : ∀ receiverId terms, command = .createTrade receiverId terms →
      IsSafeInteger (context.nowMs + GameplayPolicy.tradeExpiryMs)) :
    RejectsOnly NotTradeState (transitionGameplayTrade state command expected context) := by
  unfold transitionGameplayTrade
  refine .bind_of (checkCommand_notTradeState _ _ _) fun _ hcheck => ?_
  obtain ⟨-, hadm⟩ := checkCommand_eq_ok.1 hcheck
  refine .bind (.require (by simp [NotTradeState, reject])) fun _ => ?_
  cases command with
  | cleanupExpiredTrades =>
    exact .bind (.require (by simp [NotTradeState, reject])) fun _ =>
      .bind (.requireSome (by simp [NotTradeState, reject])) fun _ =>
      .bind (.require (by simp [NotTradeState, reject])) fun _ => .pure _
  | createTrade receiverId terms =>
    refine .bind tradeActor_rejects fun _ =>
      .bind (.requireSome (by simp [NotTradeState, reject])) fun _ =>
      .bind (.requireSome (by simp [NotTradeState, reject])) fun _ =>
      .bind (checkTradeResult_rejects ?_) fun _ =>
      .bind (.requireSome (by simp [NotTradeState, reject])) fun _ =>
      .bind (.requireSome (by simp [NotTradeState, reject])) fun _ => .pure _
    exact hbook.createTrade_rejects hadm (hexpires receiverId terms rfl)
  | acceptTrade tradeId =>
    exact transitionSettleTrade_rejects fun _ => hbook.acceptCleanedTrade_rejects hadm
  | rejectTrade tradeId =>
    exact transitionSettleTrade_rejects fun _ => hbook.removeTrade_rejects hadm .receiver
  | cancelTrade tradeId =>
    exact transitionSettleTrade_rejects fun _ => hbook.removeTrade_rejects hadm .proposer

end Messages

/-! ### Along a run -/

/-- The step leaves `trade` in the book, and does not announce its end. -/
def Stands (trade : PendingTrade) (before : GameplayAggregateState) (accepted : AcceptedCommand)
    (after : GameplayAggregateState) : Prop :=
  Accepts before accepted after ∧ trade ∈ before.base.activeTrades ∧
    trade ∈ after.base.activeTrades ∧ closings trade.tradeId accepted.events = 0

/-- The step removes `trade` from the book: it announces its end once, or takes one of its parties
out of the game or ends the game. -/
def Leaves (trade : PendingTrade) (before : GameplayAggregateState) (accepted : AcceptedCommand)
    (after : GameplayAggregateState) : Prop :=
  Accepts before accepted after ∧ trade ∈ before.base.activeTrades ∧
    (∀ other ∈ after.base.activeTrades, other.tradeId ≠ trade.tradeId) ∧
    (closings trade.tradeId accepted.events = 1 ∨ closings trade.tradeId accepted.events = 0 ∧
      (after.IsFinished ∨ EliminatesParty before after trade))

section Runs

variable {start s s' : GameplayAggregateState} {commands : List AcceptedCommand}
  {accepted : AcceptedCommand}

/-- Every accepted command is one of a game in progress. -/
theorem accepts_inProgress (h : Accepts s accepted s') : ∃ state, s = .inProgress state ∧
    transitionGameplay (.inProgress state) accepted.command accepted.context
      = .ok (s', accepted.events) := by
  cases s with
  | finished finished => exact (not_accepts_finished _ _ _ h).elim
  | inProgress state => exact ⟨state, rfl, h⟩

theorem wellFormedBook_step (hbook : WellFormedBook s.base) (h : Accepts s accepted s') :
    WellFormedBook s'.base := by
  obtain ⟨state, rfl, hok⟩ := accepts_inProgress h
  exact (transitionGameplay_book hok).wellFormed hbook

theorem wellFormedBook_of_started (h : StartedGame s) : WellFormedBook s.base := by
  obtain ⟨lobby, active, hinit, rfl⟩ := h
  unfold initializeGameplayAggregate at hinit
  split_ifs at hinit
  cases hinit
  exact .nil rfl

theorem wellFormedBook_of_run (hstart : StartedGame start) (hrun : Run Accepts start commands s) :
    WellFormedBook s.base :=
  hrun.invariant (I := fun s => WellFormedBook s.base) (fun _ _ _ => wellFormedBook_step)
    (wellFormedBook_of_started hstart)

/-- The step lemma: a trade in a well-formed book stands, or leaves. -/
theorem stands_or_leaves {trade : PendingTrade} (hbook : WellFormedBook s.base)
    (ht : trade ∈ s.base.activeTrades) (h : Accepts s accepted s') :
    Stands trade s accepted s' ∨ Leaves trade s accepted s' := by
  obtain ⟨state, rfl, hok⟩ := accepts_inProgress h
  obtain ⟨hin, hquiet⟩ | ⟨hout, hend⟩ := (transitionGameplay_book hok).accounted hbook ht
  · exact .inl ⟨h, ht, hin, hquiet⟩
  · exact .inr ⟨h, ht, hout, hend⟩

/-- From a state whose book it is in, a trade stands to the end of the run, or up to the step that
removes it. -/
theorem run_stands_or_leaves {trade : PendingTrade} (hbook : WellFormedBook s.base)
    (ht : trade ∈ s.base.activeTrades) (hrun : Run Accepts s commands s') :
    Run (Stands trade) s commands s' ∨ ∃ kept leaving rest m m',
      commands = kept ++ leaving :: rest ∧ Run (Stands trade) s kept m ∧ Leaves trade m leaving m' ∧
        Run Accepts m' rest s' := by
  refine hrun.stays_or_leaves (I := fun s => WellFormedBook s.base ∧
    trade ∈ s.base.activeTrades) (fun s l s' hI h => ?_) ⟨hbook, ht⟩
  obtain hstands | hleaves := stands_or_leaves hI.1 hI.2 h
  · exact .inl ⟨hstands, wellFormedBook_step hI.1 h, hstands.2.2.1⟩
  · exact .inr hleaves

/-- A state in a run around one of its commands. -/
theorem around {before after : List AcceptedCommand}
    (hrun : Run Accepts start (before ++ accepted :: after) s) :
    ∃ m m', Run Accepts start before m ∧ Accepts m accepted m' ∧ Run Accepts m' after s := by
  obtain ⟨m, hbefore, hrest⟩ := hrun.of_append
  cases hrest with
  | cons hstep hafter => exact ⟨m, _, hbefore, hstep, hafter⟩

end Runs

/-- The book is well formed in every reachable state and never found malformed, except by a trade
too late for its hour to be counted; every announced trade stands in it until the step that removes
it, and ends are announced for the trades that leave only. -/
theorem trade_book_accounted (start s : GameplayAggregateState) (commands : List AcceptedCommand)
    (hstart : StartedGame start) (hrun : Run Accepts start commands s) :
    WellFormedBook s.base ∧
    (∀ (expected : ℤ) (command : GameplayTradeCommand) (context : GameplayCommandContext)
      (rejection : GameplayRejection),
      (∀ receiverId terms, command = .createTrade receiverId terms →
        IsSafeInteger (context.nowMs + GameplayPolicy.tradeExpiryMs)) →
      transitionGameplay s ⟨expected, .trade command⟩ context = .error rejection →
      rejection.error.message ≠ "trade failed: INVALID_TRADE_STATE") ∧
    (∀ before accepted after event, commands = before ++ accepted :: after →
      event ∈ accepted.events → opens event = true →
      ∃ state m trade, Run Accepts start before (.inProgress state) ∧
        Accepts (.inProgress state) accepted m ∧ announcement state trade = some event ∧
        trade ∈ m.base.activeTrades ∧
        (Run (Stands trade) m after s ∨ ∃ kept leaving rest m₁ m₂,
          after = kept ++ leaving :: rest ∧ Run (Stands trade) m kept m₁ ∧
            Leaves trade m₁ leaving m₂ ∧ Run Accepts m₂ rest s)) ∧
    (∀ before accepted after tradeId, commands = before ++ accepted :: after →
      closings tradeId accepted.events ≠ 0 → ∃ m m' trade, Run Accepts start before m ∧
        trade.tradeId = tradeId ∧ Leaves trade m accepted m' ∧
        closings tradeId accepted.events = 1) := by
  refine ⟨wellFormedBook_of_run hstart hrun, ?_, ?_, ?_⟩
  · intro expected command context rejection hexpires hrejected
    cases s with
    | finished finished =>
      simp only [transitionGameplay] at hrejected
      split_ifs at hrejected <;> cases hrejected <;> simp
    | inProgress state =>
      have hbook : WellFormedBook state.toGameplayAggregateStateBase :=
        wellFormedBook_of_run hstart hrun
      refine (RejectsOnly.bind (.require ?_) fun _ => .bind (.require ?_) fun _ => ?_ :
        RejectsOnly NotTradeState _) rejection hrejected
      · simp [NotTradeState, reject]
      · simp [NotTradeState, reject]
      · exact (hbook.transitionGameplayTrade_rejects hexpires).map _
  · rintro before accepted after event rfl hevent hopens
    obtain ⟨m, m', hbefore, hstep, hafter⟩ := around hrun
    obtain ⟨state, rfl, hok⟩ := accepts_inProgress hstep
    obtain ⟨trade, hin, hannounced⟩ := (transitionGameplay_book hok).announced hevent hopens
    have hbook := wellFormedBook_step (wellFormedBook_of_run hstart hbefore) hstep
    exact ⟨state, m', trade, hbefore, hstep, hannounced, hin, run_stands_or_leaves hbook hin hafter⟩
  · rintro before accepted after tradeId rfl hne
    obtain ⟨m, m', hbefore, hstep, -⟩ := around hrun
    obtain ⟨state, rfl, hok⟩ := accepts_inProgress hstep
    obtain ⟨trade, ht, rfl⟩ : ∃ trade ∈ state.activeTrades, trade.tradeId = tradeId := by
      by_contra hnone
      exact hne ((transitionGameplay_book hok).closings_eq_zero fun other hother hsame =>
        hnone ⟨other, hother, hsame⟩)
    obtain hstands | hleaves := stands_or_leaves (wellFormedBook_of_run hstart hbefore) ht hstep
    · exact absurd hstands.2.2.2 hne
    · refine ⟨_, m', trade, hbefore, rfl, hleaves, ?_⟩
      obtain h | h := hleaves.2.2.2
      · exact h
      · exact absurd h.1 hne

/-- Alice's offer stands in the book until bob rejects it. -/
theorem trade_book_accounted_rejected : ∃ start s created rejected, StartedGame start ∧
    Run Accepts start [created, rejected] s ∧ s.base.activeTrades.length = 0 ∧
    ∃ event ∈ created.events, ∃ state m trade, announcement state trade = some event ∧
      trade ∈ m.base.activeTrades ∧
      (Run (Stands trade) m [rejected] s ∨ ∃ kept leaving rest m₁ m₂,
        [rejected] = kept ++ leaving :: rest ∧ Run (Stands trade) m kept m₁ ∧
          Leaves trade m₁ leaving m₂ ∧ Run Accepts m₂ rest s) := by
  obtain ⟨start, hstart, hcheck⟩ := exists_of_inProgressWith (twoPlayerGame [])
    (fun start => (record (.inProgress start)
      [plays "alice" (.trade (.createTrade "bob" (.moneyOnly 100 0))) 1 10,
        plays "bob" (.trade (.rejectTrade "trade")) 2 20]).any
        fun recorded : List AcceptedCommand × GameplayAggregateState =>
      decide (recorded.2.base.activeTrades.length = 0) && decide (recorded.1.length = 2) &&
        (recorded.1.head?.any fun created => created.events.any opens)) (by decide +kernel)
  obtain ⟨⟨commands, s⟩, hrecord, hcheck⟩ := (Option.any_eq_true _ _).1 hcheck
  simp only [Bool.and_eq_true, decide_eq_true_eq] at hcheck
  obtain ⟨⟨hempty, htwo⟩, hopened⟩ := hcheck
  obtain ⟨created, rejected, rfl⟩ := List.length_eq_two.1 htwo
  obtain ⟨event, hevent, hopens⟩ := List.any_eq_true.1 hopened
  have hrun := run_of_record hrecord
  have hstarted := started_of_twoPlayerGame hstart
  obtain ⟨state, m, trade, -, -, hannounced, hin, hfate⟩ :=
    (trade_book_accounted _ s _ hstarted hrun).2.2.1 [] created [rejected] event rfl hevent hopens
  exact ⟨_, s, created, rejected, hstarted, hrun, hempty, event, hevent, state, m, trade,
    hannounced, hin, hfate⟩

/-- In the last hour that the clock can count, an offer is refused as if the book were
malformed. -/
theorem not_trade_book_accounted : ¬ ∀ (start s : GameplayAggregateState)
    (commands : List AcceptedCommand), StartedGame start → Run Accepts start commands s →
    ∀ (expected : ℤ) (command : GameplayTradeCommand) (context : GameplayCommandContext)
      (rejection : GameplayRejection),
      transitionGameplay s ⟨expected, .trade command⟩ context = .error rejection →
      rejection.error.message ≠ "trade failed: INVALID_TRADE_STATE" := by
  intro h
  obtain ⟨start, hstart, hcheck⟩ := exists_of_inProgressWith (twoPlayerGame [])
    (fun start => match transitionGameplay (.inProgress start)
        ⟨1, .trade (.createTrade "bob" (.moneyOnly 100 0))⟩
        (plays "alice" .declareBankruptcy 1 9007199254740991).2 with
      | .error rejection => rejection.error.message = "trade failed: INVALID_TRADE_STATE"
      | .ok _ => false) (by decide +kernel)
  have hstarted := started_of_twoPlayerGame hstart
  split at hcheck
  next rejection hrejected =>
    exact h _ _ [] hstarted (.nil _) _ _ _ rejection hrejected (of_decide_eq_true hcheck)
  · cases hcheck

end Pootown
