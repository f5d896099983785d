import Mathlib.Tactic
import Pootown.Model.Validity
import Pootown.Serialization.Snapshot

/-!
# The parts of a gameplay snapshot

Players, properties, trades, dice, turns and the terminal record: for each the written form, its
field-by-field reader, and what the reader asks of a part that was written before it gives the part
back.
-/

namespace Pootown.Snapshot

open Fallible Slots CanonicalJson JsonText

/-! ### Players -/

def playerJson (player : GameplayPlayerState) : Json := .obj [
  ("seatIndex", natJson player.seatIndex),
  ("playerId", .str player.playerId),
  ("status", .str (statusText player.status)),
  ("cash", bigintJson player.cash),
  ("position", natJson player.position),
  ("inJail", .bool player.inJail),
  ("jailTurns", natJson player.jailTurns),
  ("consecutiveDoubles", natJson player.consecutiveDoubles),
  ("missedTurns", natJson player.missedTurns),
  ("getOutOfJailCards", natJson player.getOutOfJailCards),
  ("joinedAtMs", .num player.joinedAtMs)]

def hydratePlayer (value : Json) (index : ℕ) :
    Except SnapshotError (Option GameplayPlayerState) :=
  let label := "players[" ++ toString index ++ "]"
  nullable value fun value => do
    let player ← record value label
    exactKeys player ["seatIndex", "playerId", "status", "cash", "position", "inJail", "jailTurns",
      "consecutiveDoubles", "missedTurns", "getOutOfJailCards", "joinedAtMs"] label
    let status ← oneOf playerStatuses (player.get "status") (label ++ ".status is invalid")
    let seatIndex ← natural (player.get "seatIndex") (label ++ ".seatIndex") 0 3
    let playerId ← opaqueIdentifier (player.get "playerId") (label ++ ".playerId")
    let cash ← cash (player.get "cash") (label ++ ".cash")
    let position ← natural (player.get "position") (label ++ ".position") 0 39
    let inJail ← boolean (player.get "inJail") (label ++ ".inJail")
    let jailTurns ← natural (player.get "jailTurns") (label ++ ".jailTurns") 0 3
    let consecutiveDoubles ← natural (player.get "consecutiveDoubles")
      (label ++ ".consecutiveDoubles") 0 2
    let missedTurns ← natural (player.get "missedTurns") (label ++ ".missedTurns") 0 3
    let getOutOfJailCards ← natural (player.get "getOutOfJailCards")
      (label ++ ".getOutOfJailCards") 0 255
    let joinedAtMs ← safeIntegerFrom0 (player.get "joinedAtMs") (label ++ ".joinedAtMs")
    return {
      seatIndex := seatIndex
      playerId := playerId
      status := status
      cash := cash
      position := position
      inJail := inJail
      jailTurns := jailTurns
      consecutiveDoubles := consecutiveDoubles
      missedTurns := missedTurns
      getOutOfJailCards := getOutOfJailCards
      joinedAtMs := joinedAtMs }

structure PlayerFits (player : GameplayPlayerState) : Prop where
  seatIndex : player.seatIndex ≤ 3
  playerId : validOpaqueId player.playerId = true
  cash : IsMatchCash player.cash
  position : player.position ≤ 39
  jailTurns : player.jailTurns ≤ 3
  consecutiveDoubles : player.consecutiveDoubles ≤ 2
  missedTurns : player.missedTurns ≤ 3
  cards : player.getOutOfJailCards ≤ 255
  joinedAt : Recordable player.joinedAtMs

theorem lookup_statusText (status : PlayerStatus) :
    playerStatuses.lookup (statusText status) = some status := by
  cases status <;> rfl

theorem hydratePlayer_playerJson (index : ℕ) (slot slot' : Option GameplayPlayerState) :
    hydratePlayer (nullableJson playerJson slot) index = .ok slot' ↔
      slot' = slot ∧ ∀ player, slot = some player → PlayerFits player := by
  refine nullable_nullableJson (fun player => by simp [playerJson]) fun player player' => ?_
  simp only [playerJson, record_obj, bind_eq_ok, ok_eq_ok, exists_eq_left', exactKeys_eq_ok,
    exists_const, List.map_cons, List.map_nil, List.Perm.refl, true_and, Fields.get_cons_self,
    Fields.get_cons_ne, ne_eq, String.reduceEq, not_false_eq_true, natural_le, Nat.reduceLeDiff,
    oneOf_str, lookup_statusText, Option.some.injEq, boolean_bool, opaqueIdentifier_str,
    cash_bigintJson, safeIntegerFrom0_num, pure_eq_ok]
  constructor
  · rintro ⟨_, ⟨rfl, hseat⟩, _, ⟨rfl, hid⟩, _, ⟨rfl, hcash⟩, _, ⟨rfl, hposition⟩, _, ⟨rfl, hturns⟩,
      _, ⟨rfl, hdoubles⟩, _, ⟨rfl, hmissed⟩, _, ⟨rfl, hcards⟩, _, ⟨rfl, hjoined⟩, rfl⟩
    exact ⟨rfl, hseat, hid, hcash, hposition, hturns, hdoubles, hmissed, hcards, hjoined⟩
  · rintro ⟨rfl, h⟩
    exact ⟨_, ⟨rfl, h.seatIndex⟩, _, ⟨rfl, h.playerId⟩, _, ⟨rfl, h.cash⟩, _, ⟨rfl, h.position⟩, _,
      ⟨rfl, h.jailTurns⟩, _, ⟨rfl, h.consecutiveDoubles⟩, _, ⟨rfl, h.missedTurns⟩, _,
      ⟨rfl, h.cards⟩, _, ⟨rfl, h.joinedAt⟩, rfl⟩

theorem PlayerFits.plain {player : GameplayPlayerState} (h : PlayerFits player) :
    Plain (playerJson player) := by
  have hseat := h.seatIndex
  have hposition := h.position
  have hturns := h.jailTurns
  have hdoubles := h.consecutiveDoubles
  have hmissed := h.missedTurns
  have hcards := h.cards
  refine .obj (by simp) ?_
  simp only [List.forall_mem_cons]
  exact ⟨plain_natJson (by omega), .str _, .str _, .str _, plain_natJson (by omega), .bool _,
    plain_natJson (by omega), plain_natJson (by omega), plain_natJson (by omega),
    plain_natJson (by omega), h.joinedAt.plain, by simp⟩

/-! ### Properties -/

def propertyJson (property : PropertyState) : Json := .obj [
  ("position", natJson property.position),
  ("ownerSeatIndex", nullableJson natJson property.ownerSeatIndex),
  ("houses", natJson property.houses),
  ("hasHotel", .bool property.hasHotel),
  ("mortgaged", .bool property.mortgaged)]

def hydrateProperty (value : Json) (index : ℕ) : Except SnapshotError PropertyState := do
  let label := "properties[" ++ toString index ++ "]"
  let property ← record value label
  exactKeys property ["position", "ownerSeatIndex", "houses", "hasHotel", "mortgaged"] label
  let position ← natural (property.get "position") (label ++ ".position") 0 39
  let ownerSeatIndex ← nullable (property.get "ownerSeatIndex") fun value =>
    natural value (label ++ ".ownerSeatIndex") 0 3
  let houses ← natural (property.get "houses") (label ++ ".houses") 0 4
  let hasHotel ← boolean (property.get "hasHotel") (label ++ ".hasHotel")
  let mortgaged ← boolean (property.get "mortgaged") (label ++ ".mortgaged")
  return ⟨position, ownerSeatIndex, houses, hasHotel, mortgaged⟩

structure PropertyFits (property : PropertyState) : Prop where
  position : property.position ≤ 39
  owner : ∀ owner, property.ownerSeatIndex = some owner → owner ≤ 3
  houses : property.houses ≤ 4

theorem nullable_natural {o out : Option ℕ} {label : String} {maximum : ℕ}
    (h : maximum ≤ 9007199254740991) :
    nullable (nullableJson natJson o) (fun value => natural value label 0 maximum) = .ok out ↔
      out = o ∧ ∀ n, o = some n → n ≤ maximum :=
  nullable_nullableJson (fun _ => by simp [natJson]) fun _ _ => natural_le h

theorem hydrateProperty_propertyJson (index : ℕ) (property property' : PropertyState) :
    hydrateProperty (propertyJson property) index = .ok property' ↔
      property' = property ∧ PropertyFits property := by
  simp only [hydrateProperty, propertyJson, record_obj, bind_eq_ok, ok_eq_ok, exists_eq_left',
    exactKeys_eq_ok, exists_const, List.map_cons, List.map_nil, List.Perm.refl, true_and,
    Fields.get_cons_self, Fields.get_cons_ne, ne_eq, String.reduceEq, not_false_eq_true, natural_le,
    nullable_natural, Nat.reduceLeDiff, boolean_bool, pure_eq_ok]
  constructor
  · rintro ⟨_, ⟨rfl, hposition⟩, _, ⟨rfl, howner⟩, _, ⟨rfl, hhouses⟩, rfl⟩
    exact ⟨rfl, hposition, howner, hhouses⟩
  · rintro ⟨rfl, h⟩
    exact ⟨_, ⟨rfl, h.position⟩, _, ⟨rfl, h.owner⟩, _, ⟨rfl, h.houses⟩, rfl⟩

theorem PropertyFits.plain {property : PropertyState} (h : PropertyFits property) :
    Plain (propertyJson property) := by
  have hposition := h.position
  have hhouses := h.houses
  refine .obj (by simp) ?_
  simp only [List.forall_mem_cons]
  exact ⟨plain_natJson (by omega), plain_nullableJson fun owner howner =>
    plain_natJson (by have := h.owner owner howner; omega), plain_natJson (by omega), .bool _,
    .bool _, by simp⟩

/-! ### Trades -/

def termsFields : TradeTerms → Fields
  | .moneyOnly offeredCash requestedCash => [
    ("tradeType", .str "moneyOnly"),
    ("offeredCash", bigintJson offeredCash),
    ("requestedCash", bigintJson requestedCash)]
  | .propertyOnly offeredPropertyPosition requestedPropertyPosition => [
    ("tradeType", .str "propertyOnly"),
    ("offeredPropertyPosition", nullableJson natJson offeredPropertyPosition),
    ("requestedPropertyPosition", nullableJson natJson requestedPropertyPosition)]
  | .moneyForProperty offeredCash requestedPropertyPosition => [
    ("tradeType", .str "moneyForProperty"),
    ("offeredCash", bigintJson offeredCash),
    ("requestedPropertyPosition", natJson requestedPropertyPosition)]
  | .propertyForMoney offeredPropertyPosition requestedCash => [
    ("tradeType", .str "propertyForMoney"),
    ("offeredPropertyPosition", natJson offeredPropertyPosition),
    ("requestedCash", bigintJson requestedCash)]

def hydrateTerms (value : Json) (label : String) : Except SnapshotError TradeTerms := do
  let terms ← record value label
  let tradeType := terms.get "tradeType"
  if Json.isText tradeType "moneyOnly" then
    exactKeys terms ["tradeType", "offeredCash", "requestedCash"] label
    let offeredCash ← cash (terms.get "offeredCash") (label ++ ".offeredCash")
    let requestedCash ← cash (terms.get "requestedCash") (label ++ ".requestedCash")
    return .moneyOnly offeredCash requestedCash
  else if Json.isText tradeType "propertyOnly" then
    exactKeys terms ["tradeType", "offeredPropertyPosition", "requestedPropertyPosition"] label
    let offered ← nullable (terms.get "offeredPropertyPosition") fun value =>
      natural value (label ++ ".offeredPropertyPosition") 0 39
    let requested ← nullable (terms.get "requestedPropertyPosition") fun value =>
      natural value (label ++ ".requestedPropertyPosition") 0 39
    return .propertyOnly offered requested
  else if Json.isText tradeType "moneyForProperty" then
    exactKeys terms ["tradeType", "offeredCash", "requestedPropertyPosition"] label
    let offeredCash ← cash (terms.get "offeredCash") (label ++ ".offeredCash")
    let requested ← natural (terms.get "requestedPropertyPosition")
      (label ++ ".requestedPropertyPosition") 0 39
    return .moneyForProperty offeredCash requested
  else if Json.isText tradeType "propertyForMoney" then
    exactKeys terms ["tradeType", "offeredPropertyPosition", "requestedCash"] label
    let offered ← natural (terms.get "offeredPropertyPosition")
      (label ++ ".offeredPropertyPosition") 0 39
    let requestedCash ← cash (terms.get "requestedCash") (label ++ ".requestedCash")
    return .propertyForMoney offered requestedCash
  else .error (label ++ ".tradeType is invalid")

def TermsFit : TradeTerms → Prop
  | .moneyOnly offeredCash requestedCash => IsMatchCash offeredCash ∧ IsMatchCash requestedCash
  | .propertyOnly offered requested =>
    (∀ position, offered = some position → position ≤ 39) ∧
      ∀ position, requested = some position → position ≤ 39
  | .moneyForProperty offeredCash requested => IsMatchCash offeredCash ∧ requested ≤ 39
  | .propertyForMoney offered requestedCash => offered ≤ 39 ∧ IsMatchCash requestedCash

theorem hydrateTerms_termsFields {terms terms' : TradeTerms} {label : String} :
    hydrateTerms (.obj (termsFields terms)) label = .ok terms' ↔ terms' = terms ∧ TermsFit terms := by
  cases terms with
  | moneyOnly offeredCash requestedCash =>
    simp only [hydrateTerms, termsFields, record_obj, bind_eq_ok, ok_eq_ok, exists_eq_left',
      Json.isText, String.reduceBEq, ↓reduceIte, exactKeys_eq_ok, exists_const, List.map_cons,
      List.map_nil, List.Perm.refl, true_and, Fields.get_cons_self, Fields.get_cons_ne, ne_eq,
      String.reduceEq, not_false_eq_true, cash_bigintJson, pure_eq_ok]
    constructor
    · rintro ⟨_, ⟨rfl, ho⟩, _, ⟨rfl, hr⟩, rfl⟩
      exact ⟨rfl, ho, hr⟩
    · rintro ⟨rfl, ho, hr⟩
      exact ⟨_, ⟨rfl, ho⟩, _, ⟨rfl, hr⟩, rfl⟩
  | propertyOnly offered requested =>
    simp only [hydrateTerms, termsFields, record_obj, bind_eq_ok, ok_eq_ok, exists_eq_left',
      Json.isText, String.reduceBEq, Bool.false_eq_true, ↓reduceIte, exactKeys_eq_ok, exists_const,
      List.map_cons, List.map_nil, List.Perm.refl, true_and, Fields.get_cons_self,
      Fields.get_cons_ne, ne_eq, String.reduceEq, not_false_eq_true, nullable_natural,
      Nat.reduceLeDiff, pure_eq_ok]
    constructor
    · rintro ⟨_, ⟨rfl, ho⟩, _, ⟨rfl, hr⟩, rfl⟩
      exact ⟨rfl, ho, hr⟩
    · rintro ⟨rfl, ho, hr⟩
      exact ⟨_, ⟨rfl, ho⟩, _, ⟨rfl, hr⟩, rfl⟩
  | moneyForProperty offeredCash requested =>
    simp only [hydrateTerms, termsFields, record_obj, bind_eq_ok, ok_eq_ok, exists_eq_left',
      Json.isText, String.reduceBEq, Bool.false_eq_true, ↓reduceIte, exactKeys_eq_ok, exists_const,
      List.map_cons, List.map_nil, List.Perm.refl, true_and, Fields.get_cons_self,
      Fields.get_cons_ne, ne_eq, String.reduceEq, not_false_eq_true, cash_bigintJson, natural_le,
      Nat.reduceLeDiff, pure_eq_ok]
    constructor
    · rintro ⟨_, ⟨rfl, ho⟩, _, ⟨rfl, hr⟩, rfl⟩
      exact ⟨rfl, ho, hr⟩
    · rintro ⟨rfl, ho, hr⟩
      exact ⟨_, ⟨rfl, ho⟩, _, ⟨rfl, hr⟩, rfl⟩
  | propertyForMoney offered requestedCash =>
    simp only [hydrateTerms, termsFields, record_obj, bind_eq_ok, ok_eq_ok, exists_eq_left',
      Json.isText, String.reduceBEq, Bool.false_eq_true, ↓reduceIte, exactKeys_eq_ok, exists_const,
      List.map_cons, List.map_nil, List.Perm.refl, true_and, Fields.get_cons_self,
      Fields.get_cons_ne, ne_eq, String.reduceEq, not_false_eq_true, cash_bigintJson, natural_le,
      Nat.reduceLeDiff, pure_eq_ok]
    constructor
    · rintro ⟨_, ⟨rfl, ho⟩, _, ⟨rfl, hr⟩, rfl⟩
      exact ⟨rfl, ho, hr⟩
    · rintro ⟨rfl, ho, hr⟩
      exact ⟨_, ⟨rfl, ho⟩, _, ⟨rfl, hr⟩, rfl⟩

theorem TermsFit.plain {terms : TradeTerms} (h : TermsFit terms) :
    Plain (.obj (termsFields terms)) := by
  cases terms with
  | moneyOnly offeredCash requestedCash =>
    refine .obj (by simp [termsFields]) ?_
    simp only [termsFields, List.forall_mem_cons]
    exact ⟨.str _, .str _, .str _, by simp⟩
  | propertyOnly offered requested =>
    refine .obj (by simp [termsFields]) ?_
    simp only [termsFields, List.forall_mem_cons]
    exact ⟨.str _, plain_nullableJson fun n hn => plain_natJson (by have := h.1 n hn; omega),
      plain_nullableJson fun n hn => plain_natJson (by have := h.2 n hn; omega), by simp⟩
  | moneyForProperty offeredCash requested =>
    refine .obj (by simp [termsFields]) ?_
    simp only [termsFields, List.forall_mem_cons]
    exact ⟨.str _, .str _, plain_natJson (by have := h.2; omega), by simp⟩
  | propertyForMoney offered requestedCash =>
    refine .obj (by simp [termsFields]) ?_
    simp only [termsFields, List.forall_mem_cons]
    exact ⟨.str _, plain_natJson (by have := h.1; omega), .str _, by simp⟩

def tradeJson (trade : PendingTrade) : Json := .obj [
  ("tradeId", .str trade.tradeId),
  ("proposerSeatIndex", natJson trade.proposerSeatIndex),
  ("receiverSeatIndex", natJson trade.receiverSeatIndex),
  ("terms", .obj (termsFields trade.terms)),
  ("createdAtMs", .num trade.createdAtMs),
  ("expiresAtMs", .num trade.expiresAtMs)]

def hydrateTrade (value : Json) (index : ℕ) : Except SnapshotError PendingTrade := do
  let label := "activeTrades[" ++ toString index ++ "]"
  let trade ← record value label
  exactKeys trade ["tradeId", "proposerSeatIndex", "receiverSeatIndex", "terms", "createdAtMs",
    "expiresAtMs"] label
  let tradeId ← opaqueIdentifier (trade.get "tradeId") (label ++ ".tradeId")
  let proposerSeatIndex ← natural (trade.get "proposerSeatIndex") (label ++ ".proposerSeatIndex")
    0 3
  let receiverSeatIndex ← natural (trade.get "receiverSeatIndex") (label ++ ".receiverSeatIndex")
    0 3
  let terms ← hydrateTerms (trade.get "terms") (label ++ ".terms")
  let createdAtMs ← safeIntegerFrom0 (trade.get "createdAtMs") (label ++ ".createdAtMs")
  let expiresAtMs ← safeIntegerFrom0 (trade.get "expiresAtMs") (label ++ ".expiresAtMs")
  return ⟨tradeId, proposerSeatIndex, receiverSeatIndex, terms, createdAtMs, expiresAtMs⟩

structure TradeFits (trade : PendingTrade) : Prop where
  tradeId : validOpaqueId trade.tradeId = true
  proposer : trade.proposerSeatIndex ≤ 3
  receiver : trade.receiverSeatIndex ≤ 3
  terms : TermsFit trade.terms
  createdAt : Recordable trade.createdAtMs
  expiresAt : Recordable trade.expiresAtMs

theorem hydrateTrade_tradeJson (index : ℕ) (trade trade' : PendingTrade) :
    hydrateTrade (tradeJson trade) index = .ok trade' ↔ trade' = trade ∧ TradeFits trade := by
  simp only [hydrateTrade, tradeJson, record_obj, bind_eq_ok, ok_eq_ok, exists_eq_left',
    exactKeys_eq_ok, exists_const, List.map_cons, List.map_nil, List.Perm.refl, true_and,
    Fields.get_cons_self, Fields.get_cons_ne, ne_eq, String.reduceEq, not_false_eq_true, natural_le,
    Nat.reduceLeDiff, opaqueIdentifier_str, hydrateTerms_termsFields, safeIntegerFrom0_num,
    pure_eq_ok]
  constructor
  · rintro ⟨_, ⟨rfl, hid⟩, _, ⟨rfl, hp⟩, _, ⟨rfl, hr⟩, _, ⟨rfl, ht⟩, _, ⟨rfl, hc⟩, _, ⟨rfl, he⟩, rfl⟩
    exact ⟨rfl, hid, hp, hr, ht, hc, he⟩
  · rintro ⟨rfl, h⟩
    exact ⟨_, ⟨rfl, h.tradeId⟩, _, ⟨rfl, h.proposer⟩, _, ⟨rfl, h.receiver⟩, _, ⟨rfl, h.terms⟩, _,
      ⟨rfl, h.createdAt⟩, _, ⟨rfl, h.expiresAt⟩, rfl⟩

theorem TradeFits.plain {trade : PendingTrade} (h : TradeFits trade) : Plain (tradeJson trade) := by
  have hproposer := h.proposer
  have hreceiver := h.receiver
  refine .obj (by simp) ?_
  simp only [List.forall_mem_cons]
  exact ⟨.str _, plain_natJson (by omega), plain_natJson (by omega), h.terms.plain,
    h.createdAt.plain, h.expiresAt.plain, by simp⟩

/-! ### Dice -/

def diceJson (roll : DiceRoll) : Json := .obj [
  ("dice", .arr [natJson roll.dice.1, natJson roll.dice.2]),
  ("total", natJson roll.total),
  ("isDoubles", .bool roll.isDoubles)]

def hydrateDice (value : Json) : Except SnapshotError (Option DiceRoll) :=
  nullable value fun value => do
    let dice ← record value "lastDice"
    exactKeys dice ["dice", "total", "isDoubles"] "lastDice"
    match dice.get "dice" with
    | .arr [first, second] =>
      let first ← natural first "lastDice.dice[0]" 1 6
      let second ← natural second "lastDice.dice[1]" 1 6
      let total ← natural (dice.get "total") "lastDice.total" 2 12
      let isDoubles ← boolean (dice.get "isDoubles") "lastDice.isDoubles"
      return ⟨(first, second), total, isDoubles⟩
    | _ => .error "lastDice.dice must contain two dice"

structure DiceFit (roll : DiceRoll) : Prop where
  first : 1 ≤ roll.dice.1 ∧ roll.dice.1 ≤ 6
  second : 1 ≤ roll.dice.2 ∧ roll.dice.2 ≤ 6
  total : 2 ≤ roll.total ∧ roll.total ≤ 12

theorem hydrateDice_diceJson {roll roll' : Option DiceRoll} :
    hydrateDice (nullableJson diceJson roll) = .ok roll' ↔
      roll' = roll ∧ ∀ r, roll = some r → DiceFit r := by
  refine nullable_nullableJson (fun roll => by simp [diceJson]) fun roll roll' => ?_
  simp only [diceJson, record_obj, bind_eq_ok, ok_eq_ok, exists_eq_left', exactKeys_eq_ok,
    exists_const, List.map_cons, List.map_nil, List.Perm.refl, true_and, Fields.get_cons_self,
    Fields.get_cons_ne, ne_eq, String.reduceEq, not_false_eq_true, natural_natJson, boolean_bool,
    pure_eq_ok]
  constructor
  · rintro ⟨_, ⟨rfl, -, hf⟩, _, ⟨rfl, -, hs⟩, _, ⟨rfl, -, ht⟩, rfl⟩
    exact ⟨rfl, hf, hs, ht⟩
  · rintro ⟨rfl, h⟩
    have hf := h.first
    have hs := h.second
    have ht := h.total
    exact ⟨_, ⟨rfl, by omega, hf⟩, _, ⟨rfl, by omega, hs⟩, _, ⟨rfl, by omega, ht⟩, rfl⟩

theorem DiceFit.plain {roll : DiceRoll} (h : DiceFit roll) : Plain (diceJson roll) := by
  have hf := h.first
  have hs := h.second
  have ht := h.total
  refine .obj (by simp) ?_
  simp only [List.forall_mem_cons]
  refine ⟨.arr ?_, plain_natJson (by omega), .bool _, by simp⟩
  simp only [List.forall_mem_cons]
  exact ⟨plain_natJson (by omega), plain_natJson (by omega), by simp⟩

/-! ### Turns -/

def warningJson (warning : TimeoutWarningSeconds) : Json := .num warning.seconds

def hydrateWarning (value : Json) (index : ℕ) : Except SnapshotError TimeoutWarningSeconds :=
  if Json.isNumber value 30 then .ok .thirty
  else if Json.isNumber value 10 then .ok .ten
  else .error ("turn.emittedWarnings[" ++ toString index ++ "] is invalid")

theorem hydrateWarning_warningJson (index : ℕ) (warning warning' : TimeoutWarningSeconds) :
    hydrateWarning (warningJson warning) index = .ok warning' ↔ warning' = warning ∧ True := by
  rw [and_true]
  cases warning <;>
    simp [hydrateWarning, warningJson, Json.isNumber, TimeoutWarningSeconds.seconds, eq_comm]

def deckText : CardDeck → String
  | .chance => "chance"
  | .communityChest => "communityChest"

def decks : List (String × CardDeck) := [("chance", .chance), ("communityChest", .communityChest)]

def taxKindText : TaxKind → String
  | .mev => "mev"
  | .priorityFee => "priorityFee"

def taxKinds : List (String × TaxKind) := [("mev", .mev), ("priorityFee", .priorityFee)]

def phaseText : TurnPhase → String
  | .awaitingRoll => "awaitingRoll"
  | .awaitingPropertyDecision _ => "awaitingPropertyDecision"
  | .awaitingRentPayment _ => "awaitingRentPayment"
  | .awaitingCardDraw _ => "awaitingCardDraw"
  | .awaitingTaxPayment _ => "awaitingTaxPayment"
  | .awaitingBankruptcy => "awaitingBankruptcy"
  | .awaitingEndTurn => "awaitingEndTurn"

def payloadFields : TurnPhase → Fields
  | .awaitingPropertyDecision propertyPosition => [("propertyPosition", natJson propertyPosition)]
  | .awaitingRentPayment propertyPosition => [("propertyPosition", natJson propertyPosition)]
  | .awaitingCardDraw deck => [("deck", .str (deckText deck))]
  | .awaitingTaxPayment taxKind => [("taxKind", .str (taxKindText taxKind))]
  | _ => []

def activeTurnFields (turn : ActiveGameplayAggregateTurn) : Fields := [
  ("phase", .str (phaseText turn.phase)),
  ("currentSeatIndex", natJson turn.currentSeatIndex),
  ("startedAtMs", .num turn.startedAtMs),
  ("deadlineAtMs", .num turn.deadlineAtMs),
  ("emittedWarnings", .arr (turn.emittedWarnings.map warningJson))] ++ payloadFields turn.phase

/-- The field a phase carries beyond the clock, if any. -/
def payloadKey (phase : String) : List String :=
  if phase = "awaitingPropertyDecision" ∨ phase = "awaitingRentPayment" then ["propertyPosition"]
  else if phase = "awaitingCardDraw" then ["deck"]
  else if phase = "awaitingTaxPayment" then ["taxKind"]
  else []

def hydratePhase (turn : Fields) (phase : String) : Except SnapshotError TurnPhase :=
  if phase = "awaitingPropertyDecision" then do
    let position ← natural (turn.get "propertyPosition") "turn.propertyPosition" 0 39
    return .awaitingPropertyDecision position
  else if phase = "awaitingRentPayment" then do
    let position ← natural (turn.get "propertyPosition") "turn.propertyPosition" 0 39
    return .awaitingRentPayment position
  else if phase = "awaitingCardDraw" then do
    let deck ← oneOf decks (turn.get "deck") "turn.deck is invalid"
    return .awaitingCardDraw deck
  else if phase = "awaitingTaxPayment" then do
    let taxKind ← oneOf taxKinds (turn.get "taxKind") "turn.taxKind is invalid"
    return .awaitingTaxPayment taxKind
  else if phase = "awaitingRoll" then .ok .awaitingRoll
  else if phase = "awaitingBankruptcy" then .ok .awaitingBankruptcy
  else if phase = "awaitingEndTurn" then .ok .awaitingEndTurn
  else .error "turn phase is invalid"

/-- The turn of a game in progress. -/
def hydrateActiveTurn (value : Json) : Except SnapshotError ActiveGameplayAggregateTurn := do
  let turn ← record value "turn"
  let phase ← match turn.get "phase" with
    | .str phase => .ok phase
    | _ => .error "turn phase is invalid"
  exactKeys turn (["phase", "currentSeatIndex", "startedAtMs", "deadlineAtMs", "emittedWarnings"] ++
    payloadKey phase) "turn"
  let warnings ← array (turn.get "emittedWarnings") "turn.emittedWarnings must be an array"
  let currentSeatIndex ← natural (turn.get "currentSeatIndex") "turn.currentSeatIndex" 0 3
  let startedAtMs ← safeIntegerFrom0 (turn.get "startedAtMs") "turn.startedAtMs"
  let deadlineAtMs ← safeIntegerFrom0 (turn.get "deadlineAtMs") "turn.deadlineAtMs"
  let emittedWarnings ← mapItems hydrateWarning 0 warnings
  let phase ← hydratePhase turn phase
  return {
    currentSeatIndex := currentSeatIndex
    startedAtMs := startedAtMs
    deadlineAtMs := deadlineAtMs
    emittedWarnings := emittedWarnings
    phase := phase }

/-- The turn of a finished game. -/
def hydrateFinishedTurn (value : Json) : Except SnapshotError Unit := do
  let turn ← record value "turn"
  exactKeys turn ["phase"] "turn"
  require (Json.isText (turn.get "phase") "finished" = true) "finished turn phase is invalid"

structure TurnFits (turn : ActiveGameplayAggregateTurn) : Prop where
  seat : turn.currentSeatIndex ≤ 3
  startedAt : Recordable turn.startedAtMs
  deadlineAt : Recordable turn.deadlineAtMs
  payload : ∀ position, turn.phase.propertyPosition = some position → position ≤ 39

theorem payloadKey_phaseText (phase : TurnPhase) :
    payloadKey (phaseText phase) = (payloadFields phase).map Prod.fst := by
  cases phase <;> rfl

theorem hydratePhase_phaseText {turn : ActiveGameplayAggregateTurn} {phase : TurnPhase} :
    hydratePhase (activeTurnFields turn) (phaseText turn.phase) = .ok phase ↔
      phase = turn.phase ∧
        ∀ position, turn.phase.propertyPosition = some position → position ≤ 39 := by
  have hdeck : ∀ deck : CardDeck, decks.lookup (deckText deck) = some deck := by
    intro deck
    cases deck <;> rfl
  have htax : ∀ taxKind : TaxKind, taxKinds.lookup (taxKindText taxKind) = some taxKind := by
    intro taxKind
    cases taxKind <;> rfl
  simp only [activeTurnFields]
  cases hphase : turn.phase <;>
    simp only [hydratePhase, phaseText, payloadFields, String.reduceEq, ↓reduceIte, bind_eq_ok,
      List.cons_append, List.nil_append, Fields.get_cons_self, Fields.get_cons_ne, ne_eq,
      not_false_eq_true, natural_le, Nat.reduceLeDiff, oneOf_str, hdeck, htax, Option.some.injEq,
      exists_eq_left', pure_eq_ok, ok_eq_ok, TurnPhase.propertyPosition, forall_eq', reduceCtorEq,
      false_imp_iff, implies_true, and_true, and_assoc, exists_eq_left]
  all_goals first
    | exact eq_comm
    | exact ⟨fun h => ⟨h.2.symm, h.1⟩, fun h => ⟨h.2, h.1.symm⟩⟩

theorem hydrateActiveTurn_activeTurnFields {turn turn' : ActiveGameplayAggregateTurn} :
    hydrateActiveTurn (.obj (activeTurnFields turn)) = .ok turn' ↔ turn' = turn ∧ TurnFits turn := by
  have hkeys : ((activeTurnFields turn).map Prod.fst).Perm
      (["phase", "currentSeatIndex", "startedAtMs", "deadlineAtMs", "emittedWarnings"] ++
        payloadKey (phaseText turn.phase)) := by
    rw [payloadKey_phaseText]
    exact List.Perm.refl _
  have hphase := @hydratePhase_phaseText turn
  have hget : (activeTurnFields turn).get "phase" = .str (phaseText turn.phase) ∧
      (activeTurnFields turn).get "currentSeatIndex" = natJson turn.currentSeatIndex ∧
      (activeTurnFields turn).get "startedAtMs" = .num turn.startedAtMs ∧
      (activeTurnFields turn).get "deadlineAtMs" = .num turn.deadlineAtMs ∧
      (activeTurnFields turn).get "emittedWarnings" =
        .arr (turn.emittedWarnings.map warningJson) := by
    refine ⟨?_, ?_, ?_, ?_, ?_⟩ <;> simp [activeTurnFields]
  obtain ⟨h1, h2, h3, h4, h5⟩ := hget
  simp only [hydrateActiveTurn, record_obj, bind_eq_ok, ok_eq_ok, exists_eq_left', h1, h2, h3, h4,
    h5, exactKeys_eq_ok, hkeys, exists_const, true_and, array_arr, natural_le, Nat.reduceLeDiff,
    safeIntegerFrom0_num, mapItems_map hydrateWarning_warningJson, hphase, pure_eq_ok]
  constructor
  · rintro ⟨_, ⟨rfl, hseat⟩, _, ⟨rfl, hstart⟩, _, ⟨rfl, hdeadline⟩, _, ⟨rfl, -⟩, _, ⟨rfl, hpay⟩, rfl⟩
    exact ⟨rfl, hseat, hstart, hdeadline, hpay⟩
  · rintro ⟨rfl, h⟩
    exact ⟨_, ⟨rfl, h.seat⟩, _, ⟨rfl, h.startedAt⟩, _, ⟨rfl, h.deadlineAt⟩, _,
      ⟨rfl, fun _ _ _ => trivial⟩, _, ⟨rfl, h.payload⟩, rfl⟩

theorem TurnFits.plain {turn : ActiveGameplayAggregateTurn} (h : TurnFits turn) :
    Plain (.obj (activeTurnFields turn)) := by
  have hseat := h.seat
  have hkeys : ((activeTurnFields turn).map Prod.fst).Nodup := by
    unfold activeTurnFields
    cases turn.phase <;> simp [payloadFields]
  have hpayload : ∀ field ∈ payloadFields turn.phase, Plain field.2 := by
    have hposition := h.payload
    intro field hfield
    cases hphase : turn.phase with
    | awaitingPropertyDecision position =>
      rw [hphase] at hfield hposition
      obtain rfl : field = _ := List.mem_singleton.1 hfield
      exact plain_natJson (by have := hposition position rfl; omega)
    | awaitingRentPayment position =>
      rw [hphase] at hfield hposition
      obtain rfl : field = _ := List.mem_singleton.1 hfield
      exact plain_natJson (by have := hposition position rfl; omega)
    | awaitingCardDraw deck =>
      rw [hphase] at hfield
      obtain rfl : field = _ := List.mem_singleton.1 hfield
      exact .str _
    | awaitingTaxPayment taxKind =>
      rw [hphase] at hfield
      obtain rfl : field = _ := List.mem_singleton.1 hfield
      exact .str _
    | _ =>
      rw [hphase] at hfield
      cases hfield
  refine .obj hkeys ?_
  simp only [activeTurnFields, List.cons_append, List.nil_append, List.forall_mem_cons]
  refine ⟨.str _, plain_natJson (by omega), h.startedAt.plain, h.deadlineAt.plain, .arr ?_,
    hpayload⟩
  intro item hitem
  obtain ⟨warning, -, rfl⟩ := List.mem_map.1 hitem
  cases warning <;> exact .num (by decide)

end Pootown.Snapshot
