import Mathlib.Tactic
import Pootown.Serialization.GameplayFields
import Pootown.Transition.Play

/-!
# Gameplay snapshots

The checkpoint of a game in progress or finished.

* `terminalJson`, `hydrateTerminal`: the terminal record;
* `gameplayJson`, `hydrateGameplayState`: the aggregate, whose reader ends with the validator of
  the lifecycle it has read;
* `GameplayFits`: the ranges of the reader, which every valid aggregate keeps (`fits_of_valid`);
* `gameplay_checkpoints`: exactly the valid aggregates have a checkpoint, and it is read back.
-/

namespace Pootown.Snapshot

open Fallible Slots CanonicalJson JsonText

def gameplaySchemaVersion : ℤ := 1

/-! ### The terminal record -/

def reasonText : TerminalEndReason → String
  | .lastPlayerStanding => "lastPlayerStanding"
  | .timeLimit => "timeLimit"
  | .timeoutForfeit => "timeoutForfeit"

def reasons : List (String × TerminalEndReason) :=
  [("lastPlayerStanding", .lastPlayerStanding), ("timeLimit", .timeLimit),
    ("timeoutForfeit", .timeoutForfeit)]

def rankingJson (entry : TerminalRankingEntry) : Json := .obj [
  ("rank", natJson entry.rank),
  ("seatIndex", natJson entry.seatIndex),
  ("netWorth", bigintJson entry.netWorth)]

def entitlementJson (entitlement : SettlementEntitlement) : Json := .obj [
  ("winnerSeatIndex", natJson entitlement.winnerSeatIndex),
  ("status", .str "pending")]

def terminalJson (terminal : TerminalOutcome) : Json := .obj [
  ("reason", .str (reasonText terminal.reason)),
  ("winnerSeatIndex", natJson terminal.winnerSeatIndex),
  ("endedAtMs", .num terminal.endedAtMs),
  ("ranking", .arr (terminal.ranking.map rankingJson)),
  ("settlementEntitlement", entitlementJson terminal.settlementEntitlement)]

def hydrateRanking (value : Json) (index : ℕ) : Except SnapshotError TerminalRankingEntry := do
  let label := "terminal.ranking[" ++ toString index ++ "]"
  let entry ← record value label
  exactKeys entry ["rank", "seatIndex", "netWorth"] label
  let rank ← natural (entry.get "rank") (label ++ ".rank") 1 4
  let seatIndex ← natural (entry.get "seatIndex") (label ++ ".seatIndex") 0 3
  let netWorth ← cash (entry.get "netWorth") (label ++ ".netWorth")
  return ⟨rank, seatIndex, netWorth⟩

def hydrateTerminal (value : Json) : Except SnapshotError (Option TerminalOutcome) :=
  nullable value fun value => do
    let terminal ← record value "terminal"
    exactKeys terminal ["reason", "winnerSeatIndex", "endedAtMs", "ranking",
      "settlementEntitlement"] "terminal"
    let reason ← oneOf reasons (terminal.get "reason") "terminal.reason is invalid"
    let entries ← array (terminal.get "ranking") "terminal.ranking must be an array"
    let ranking ← mapItems hydrateRanking 0 entries
    let entitlement ← record (terminal.get "settlementEntitlement")
      "terminal.settlementEntitlement"
    exactKeys entitlement ["winnerSeatIndex", "status"] "terminal.settlementEntitlement"
    require (Json.isText (entitlement.get "status") "pending" = true)
      "terminal entitlement status is invalid"
    let winnerSeatIndex ← natural (terminal.get "winnerSeatIndex") "terminal.winnerSeatIndex" 0 3
    let endedAtMs ← safeIntegerFrom0 (terminal.get "endedAtMs") "terminal.endedAtMs"
    let entitled ← natural (entitlement.get "winnerSeatIndex")
      "terminal.settlementEntitlement.winnerSeatIndex" 0 3
    return {
      reason := reason
      winnerSeatIndex := winnerSeatIndex
      endedAtMs := endedAtMs
      ranking := ranking
      settlementEntitlement := ⟨entitled⟩ }

structure RankingFits (entry : TerminalRankingEntry) : Prop where
  rank : 1 ≤ entry.rank ∧ entry.rank ≤ 4
  seatIndex : entry.seatIndex ≤ 3
  netWorth : IsMatchCash entry.netWorth

structure TerminalFits (terminal : TerminalOutcome) : Prop where
  winner : terminal.winnerSeatIndex ≤ 3
  endedAt : Recordable terminal.endedAtMs
  ranking : ∀ entry ∈ terminal.ranking, RankingFits entry
  entitled : terminal.settlementEntitlement.winnerSeatIndex ≤ 3

theorem hydrateRanking_rankingJson (index : ℕ) (entry entry' : TerminalRankingEntry) :
    hydrateRanking (rankingJson entry) index = .ok entry' ↔ entry' = entry ∧ RankingFits entry := by
  simp only [hydrateRanking, rankingJson, record_obj, bind_eq_ok, ok_eq_ok, exists_eq_left',
    exactKeys_eq_ok, exists_const, List.map_cons, List.map_nil, List.Perm.refl, true_and,
    Fields.get_cons_self, Fields.get_cons_ne, ne_eq, String.reduceEq, not_false_eq_true,
    natural_natJson, cash_bigintJson, pure_eq_ok]
  constructor
  · rintro ⟨_, ⟨rfl, -, hrank⟩, _, ⟨rfl, -, -, hseat⟩, _, ⟨rfl, hworth⟩, rfl⟩
    exact ⟨rfl, hrank, hseat, hworth⟩
  · rintro ⟨rfl, h⟩
    have hrank := h.rank
    have hseat := h.seatIndex
    exact ⟨_, ⟨rfl, by omega, hrank⟩, _, ⟨rfl, by omega, Nat.zero_le _, hseat⟩, _,
      ⟨rfl, h.netWorth⟩, rfl⟩

theorem hydrateTerminal_terminalJson {terminal terminal' : Option TerminalOutcome} :
    hydrateTerminal (nullableJson terminalJson terminal) = .ok terminal' ↔
      terminal' = terminal ∧ ∀ outcome, terminal = some outcome → TerminalFits outcome := by
  refine nullable_nullableJson (fun outcome => by simp [terminalJson]) fun outcome outcome' => ?_
  have hreason : reasons.lookup (reasonText outcome.reason) = some outcome.reason := by
    cases outcome.reason <;> rfl
  simp only [terminalJson, entitlementJson, record_obj, bind_eq_ok, ok_eq_ok, exists_eq_left',
    exactKeys_eq_ok, exists_const, List.map_cons, List.map_nil, List.Perm.refl, true_and,
    Fields.get_cons_self, Fields.get_cons_ne, ne_eq, String.reduceEq, not_false_eq_true, natural_le,
    Nat.reduceLeDiff, oneOf_str, hreason, Option.some.injEq, array_arr,
    mapItems_map hydrateRanking_rankingJson, require_eq_ok, isText_str, safeIntegerFrom0_num,
    pure_eq_ok]
  constructor
  · rintro ⟨_, ⟨rfl, hranking⟩, _, ⟨rfl, hwinner⟩, _, ⟨rfl, hended⟩, _, ⟨rfl, hentitled⟩, rfl⟩
    refine ⟨rfl, hwinner, hended, fun entry hentry => ?_, hentitled⟩
    obtain ⟨i, hi⟩ := List.mem_iff_getElem?.1 hentry
    exact hranking i entry hi
  · rintro ⟨rfl, h⟩
    exact ⟨_, ⟨rfl, fun i entry hi => h.ranking entry (List.mem_of_getElem? hi)⟩, _,
      ⟨rfl, h.winner⟩, _, ⟨rfl, h.endedAt⟩, _, ⟨rfl, h.entitled⟩, rfl⟩

theorem TerminalFits.plain {terminal : TerminalOutcome} (h : TerminalFits terminal) :
    Plain (terminalJson terminal) := by
  have hwinner := h.winner
  have hentitled := h.entitled
  have hranking : Plain (.arr (terminal.ranking.map rankingJson)) := by
    refine .arr fun item hitem => ?_
    obtain ⟨entry, hentry, rfl⟩ := List.mem_map.1 hitem
    have hrank := (h.ranking entry hentry).rank
    have hseat := (h.ranking entry hentry).seatIndex
    refine .obj (by simp) ?_
    simp only [List.forall_mem_cons]
    exact ⟨plain_natJson (by omega), plain_natJson (by omega), .str _, by simp⟩
  have hentitlement : Plain (entitlementJson terminal.settlementEntitlement) := by
    refine .obj (by simp) ?_
    simp only [List.forall_mem_cons]
    exact ⟨plain_natJson (by omega), .str _, by simp⟩
  refine .obj (by simp) ?_
  simp only [List.forall_mem_cons]
  exact ⟨.str _, plain_natJson (by omega), h.endedAt.plain, hranking, hentitlement, by simp⟩

/-! ### The aggregate -/

def gameplayFields (state : GameplayAggregateStateBase) (lifecycle : String) (turn : Fields)
    (bankruptcyRequiredSeatIndex : Option ℕ) (terminal : Option TerminalOutcome) : Fields := [
  ("schemaVersion", .num gameplaySchemaVersion),
  ("stateVersion", .num state.stateVersion),
  ("gameId", .str state.gameId),
  ("rulesetId", .str gameplayRulesetId),
  ("lifecycle", .str lifecycle),
  ("players", .arr (state.players.map (nullableJson playerJson))),
  ("properties", .arr (state.properties.map propertyJson)),
  ("bankCash", bigintJson state.bankCash),
  ("freeParkingPool", bigintJson state.freeParkingPool),
  ("housesRemaining", natJson state.housesRemaining),
  ("hotelsRemaining", natJson state.hotelsRemaining),
  ("startedAtMs", .num state.startedAtMs),
  ("gameEndAtMs", nullableJson .num state.gameEndAtMs),
  ("turn", .obj turn),
  ("bankruptcyRequiredSeatIndex", nullableJson natJson bankruptcyRequiredSeatIndex),
  ("activeTrades", .arr (state.activeTrades.map tradeJson)),
  ("lastDice", nullableJson diceJson state.lastDice),
  ("terminal", nullableJson terminalJson terminal),
  ("rng", rngJson state.rng)]

def gameplayJson : GameplayAggregateState → Json
  | .inProgress state =>
    .obj (gameplayFields state.toGameplayAggregateStateBase "inProgress"
      (activeTurnFields state.turn) state.bankruptcyRequiredSeatIndex none)
  | .finished state =>
    .obj (gameplayFields state.toGameplayAggregateStateBase "finished" [("phase", .str "finished")]
      none (some state.terminal))

def gameplayKeys : List String :=
  ["schemaVersion", "stateVersion", "gameId", "rulesetId", "lifecycle", "players", "properties",
    "bankCash", "freeParkingPool", "housesRemaining", "hotelsRemaining", "startedAtMs",
    "gameEndAtMs", "turn", "bankruptcyRequiredSeatIndex", "activeTrades", "lastDice", "terminal",
    "rng"]

/-- The fields both lifecycles share, after the lists have been found to be lists. -/
def hydrateCommon (state : Fields) (players properties activeTrades : List Json) :
    Except SnapshotError GameplayAggregateStateBase := do
  let stateVersion ← integer (state.get "stateVersion") "stateVersion" 1 maxStateVersion
  let gameId ← opaqueIdentifier (state.get "gameId") "gameId"
  let players ← mapItems hydratePlayer 0 players
  let properties ← mapItems hydrateProperty 0 properties
  let bankCash ← cash (state.get "bankCash") "bankCash"
  let freeParkingPool ← cash (state.get "freeParkingPool") "freeParkingPool"
  let housesRemaining ← natural (state.get "housesRemaining") "housesRemaining" 0 32
  let hotelsRemaining ← natural (state.get "hotelsRemaining") "hotelsRemaining" 0 12
  let startedAtMs ← safeIntegerFrom0 (state.get "startedAtMs") "startedAtMs"
  let gameEndAtMs ← nullable (state.get "gameEndAtMs") fun value =>
    safeIntegerFrom0 value "gameEndAtMs"
  let activeTrades ← mapItems hydrateTrade 0 activeTrades
  let lastDice ← hydrateDice (state.get "lastDice")
  let rng ← hydrateRng (state.get "rng")
  return {
    stateVersion := stateVersion
    gameId := gameId
    players := players
    properties := properties
    bankCash := bankCash
    freeParkingPool := freeParkingPool
    housesRemaining := housesRemaining
    hotelsRemaining := hotelsRemaining
    startedAtMs := startedAtMs
    gameEndAtMs := gameEndAtMs
    activeTrades := activeTrades
    lastDice := lastDice
    rng := rng }

def hydrateGameplayState (value : Json) : Except SnapshotError GameplayAggregateState := do
  let state ← record value "state"
  exactKeys state gameplayKeys "state"
  require (Json.isNumber (state.get "schemaVersion") gameplaySchemaVersion = true)
    "unsupported gameplay aggregate schema version"
  require (Json.isText (state.get "rulesetId") gameplayRulesetId = true)
    "unsupported gameplay ruleset"
  let lifecycle := state.get "lifecycle"
  require (Json.isText lifecycle "inProgress" = true ∨ Json.isText lifecycle "finished" = true)
    "gameplay lifecycle is invalid"
  let players ← array (state.get "players")
    "gameplay snapshot must contain exactly four player slots"
  require (players.length = GameplayPolicy.maximumPlayers)
    "gameplay snapshot must contain exactly four player slots"
  let properties ← array (state.get "properties")
    "gameplay snapshot must contain exactly forty property states"
  require (properties.length = 40) "gameplay snapshot must contain exactly forty property states"
  let activeTrades ← array (state.get "activeTrades") "activeTrades must be an array"
  let common ← hydrateCommon state players properties activeTrades
  if Json.isText lifecycle "inProgress" then
    let turn ← hydrateActiveTurn (state.get "turn")
    let terminal ← hydrateTerminal (state.get "terminal")
    let bankruptcyRequiredSeatIndex ← nullable (state.get "bankruptcyRequiredSeatIndex")
      fun value => natural value "bankruptcyRequiredSeatIndex" 0 3
    let candidate : ActiveGameplayAggregateState := {
      common with
      turn := turn
      bankruptcyRequiredSeatIndex := bankruptcyRequiredSeatIndex }
    require (terminal.isNone = true ∧ isValidActiveGameplayAggregateState candidate = true)
      "gameplay aggregate invariants are invalid"
    return .inProgress candidate
  else
    hydrateFinishedTurn (state.get "turn")
    let terminal ← hydrateTerminal (state.get "terminal")
    let bankruptcyRequiredSeatIndex ← nullable (state.get "bankruptcyRequiredSeatIndex")
      fun value => natural value "bankruptcyRequiredSeatIndex" 0 3
    let terminal ← requireSome terminal "finished gameplay aggregate invariants are invalid"
    let candidate : FinishedGameplayAggregateState := { common with terminal := terminal }
    require (bankruptcyRequiredSeatIndex = none ∧
        isValidFinishedGameplayAggregateState candidate = true)
      "finished gameplay aggregate invariants are invalid"
    return .finished candidate

/-- The format of an aggregate. -/
def gameplayFormat : SnapshotFormat GameplayAggregateState where
  label := "gameplay snapshot"
  schemaVersion := gameplaySchemaVersion
  stateVersion := fun
    | .inProgress state => state.stateVersion
    | .finished state => state.stateVersion
  serializeValue := gameplayJson
  hydrate := hydrateGameplayState

def serializeGameplaySnapshot (localeCompare : String → String → ℤ)
    (state : GameplayAggregateState) : Except SnapshotError String :=
  gameplayFormat.serialize localeCompare state

def parseGameplaySnapshot (localeCompare : String → String → ℤ) (serialized : String) :
    Except SnapshotError GameplayAggregateState :=
  gameplayFormat.parse localeCompare serialized

/-! ### What is read back -/

/-- The shared fields are within their ranges. -/
structure CommonFits (state : GameplayAggregateStateBase) : Prop where
  version : 1 ≤ state.stateVersion ∧ state.stateVersion ≤ maxStateVersion
  gameId : validOpaqueId state.gameId = true
  player : ∀ i player, slotAt state.players i = some player → PlayerFits player
  property : ∀ property ∈ state.properties, PropertyFits property
  bank : IsMatchCash state.bankCash
  pool : IsMatchCash state.freeParkingPool
  houses : state.housesRemaining ≤ 32
  hotels : state.hotelsRemaining ≤ 12
  startedAt : Recordable state.startedAtMs
  gameEndAt : ∀ gameEnd, state.gameEndAtMs = some gameEnd → Recordable gameEnd
  trade : ∀ trade ∈ state.activeTrades, TradeFits trade
  dice : ∀ roll, state.lastDice = some roll → DiceFit roll
  rng : ValidRandomCheckpoint state.rng

theorem hydrateCommon_gameplayFields {state state' : GameplayAggregateStateBase}
    {lifecycle : String} {turn : Fields} {required : Option ℕ} {terminal : Option TerminalOutcome} :
    hydrateCommon (gameplayFields state lifecycle turn required terminal)
        (state.players.map (nullableJson playerJson)) (state.properties.map propertyJson)
        (state.activeTrades.map tradeJson) = .ok state' ↔ state' = state ∧ CommonFits state := by
  simp only [hydrateCommon, gameplayFields, bind_eq_ok, Fields.get_cons_self, Fields.get_cons_ne,
    ne_eq, String.reduceEq, not_false_eq_true, integer_num, opaqueIdentifier_str,
    mapItems_map hydratePlayer_playerJson, mapItems_map hydrateProperty_propertyJson,
    mapItems_map hydrateTrade_tradeJson, cash_bigintJson, natural_le, Nat.reduceLeDiff,
    safeIntegerFrom0_num, nullable_time, hydrateDice_diceJson, hydrateRng_rngJson, pure_eq_ok]
  constructor
  · rintro ⟨_, ⟨rfl, -, hversion⟩, _, ⟨rfl, hgame⟩, _, ⟨rfl, hplayers⟩, _, ⟨rfl, hproperties⟩, _,
      ⟨rfl, hbank⟩, _, ⟨rfl, hpool⟩, _, ⟨rfl, hhouses⟩, _, ⟨rfl, hhotels⟩, _, ⟨rfl, hstart⟩, _,
      ⟨rfl, hend⟩, _, ⟨rfl, htrades⟩, _, ⟨rfl, hdice⟩, _, ⟨rfl, hrng⟩, rfl⟩
    exact ⟨rfl, {
      version := hversion
      gameId := hgame
      player := fun i player hplayer => hplayers i _ (slotAt_eq_some.1 hplayer) player rfl
      property := fun property hproperty => by
        obtain ⟨i, hi⟩ := List.mem_iff_getElem?.1 hproperty
        exact hproperties i property hi
      bank := hbank
      pool := hpool
      houses := hhouses
      hotels := hhotels
      startedAt := hstart
      gameEndAt := hend
      trade := fun trade htrade => by
        obtain ⟨i, hi⟩ := List.mem_iff_getElem?.1 htrade
        exact htrades i trade hi
      dice := hdice
      rng := hrng }⟩
  · rintro ⟨rfl, h⟩
    have hversion : IsSafeInteger state'.stateVersion := by
      have hmax : maxStateVersion ≤ 9007199254740991 := by decide
      have hversion := h.version
      omega
    exact ⟨_, ⟨rfl, hversion, h.version⟩, _, ⟨rfl, h.gameId⟩, _,
      ⟨rfl, fun i slot hslot player hplayer =>
        h.player i player (slotAt_eq_some.2 (hplayer ▸ hslot))⟩, _,
      ⟨rfl, fun i property hi => h.property property (List.mem_of_getElem? hi)⟩, _,
      ⟨rfl, h.bank⟩, _, ⟨rfl, h.pool⟩, _, ⟨rfl, h.houses⟩, _, ⟨rfl, h.hotels⟩, _,
      ⟨rfl, h.startedAt⟩, _, ⟨rfl, h.gameEndAt⟩, _,
      ⟨rfl, fun i trade hi => h.trade trade (List.mem_of_getElem? hi)⟩, _, ⟨rfl, h.dice⟩, _,
      ⟨rfl, h.rng⟩, rfl⟩

/-- All fields are within the ranges of the reader. -/
def GameplayFits : GameplayAggregateState → Prop
  | .inProgress state =>
    CommonFits state.toGameplayAggregateStateBase ∧ TurnFits state.turn ∧
      ∀ seat, state.bankruptcyRequiredSeatIndex = some seat → seat ≤ 3
  | .finished state => CommonFits state.toGameplayAggregateStateBase ∧ TerminalFits state.terminal

theorem hydrateFinishedTurn_finished {u : Unit} :
    hydrateFinishedTurn (.obj [("phase", .str "finished")]) = .ok u ↔ True := by
  simp only [hydrateFinishedTurn, record_obj, bind_eq_ok, ok_eq_ok, exists_eq_left',
    exactKeys_eq_ok, exists_const, List.map_cons, List.map_nil, List.Perm.refl, true_and,
    Fields.get_cons_self, require_eq_ok, isText_str]

/-- The reader gives back the aggregate that was written, when its fields are within their ranges
and its validator accepts it. -/
theorem hydrateGameplayState_gameplayJson {state state' : GameplayAggregateState} :
    hydrateGameplayState (gameplayJson state) = .ok state' ↔
      state' = state ∧ GameplayFits state ∧ isValidGameplayAggregateState state = true := by
  have hget : ∀ (base : GameplayAggregateStateBase) (lifecycle : String) (turn : Fields)
      (required : Option ℕ) (terminal : Option TerminalOutcome),
      let fields := gameplayFields base lifecycle turn required terminal
      fields.get "schemaVersion" = .num gameplaySchemaVersion ∧
      fields.get "rulesetId" = .str gameplayRulesetId ∧
      fields.get "lifecycle" = .str lifecycle ∧
      fields.get "players" = .arr (base.players.map (nullableJson playerJson)) ∧
      fields.get "properties" = .arr (base.properties.map propertyJson) ∧
      fields.get "activeTrades" = .arr (base.activeTrades.map tradeJson) ∧
      fields.get "turn" = .obj turn ∧
      fields.get "bankruptcyRequiredSeatIndex" = nullableJson natJson required ∧
      fields.get "terminal" = nullableJson terminalJson terminal := by
    intro base lifecycle turn required terminal
    refine ⟨?_, ?_, ?_, ?_, ?_, ?_, ?_, ?_, ?_⟩ <;> simp [gameplayFields]
  have hkeys : ∀ (base : GameplayAggregateStateBase) (lifecycle : String) (turn : Fields)
      (required : Option ℕ) (terminal : Option TerminalOutcome),
      ((gameplayFields base lifecycle turn required terminal).map Prod.fst).Perm gameplayKeys :=
    fun _ _ _ _ _ => List.Perm.refl _
  cases state with
  | inProgress state =>
    obtain ⟨h1, h2, h3, h4, h5, h6, h7, h8, h9⟩ := hget state.toGameplayAggregateStateBase
      "inProgress" (activeTurnFields state.turn) state.bankruptcyRequiredSeatIndex none
    simp only [hydrateGameplayState, gameplayJson, record_obj, bind_eq_ok, ok_eq_ok,
      exists_eq_left', exactKeys_eq_ok, hkeys, exists_const, true_and, require_eq_ok, h1, h2, h3,
      h4, h5, h6, h7, h8, h9, isNumber_num, array_arr, List.length_map, true_or,
      hydrateCommon_gameplayFields, Json.isText, beq_self_eq_true, ↓reduceIte,
      hydrateActiveTurn_activeTurnFields, hydrateTerminal_terminalJson, nullable_natural,
      Nat.reduceLeDiff, pure_eq_ok]
    constructor
    · rintro ⟨-, -, _, ⟨rfl, hcommon⟩, _, ⟨rfl, hturn⟩, _, ⟨rfl, -⟩, _, ⟨rfl, hseat⟩, ⟨-, hvalid⟩, rfl⟩
      exact ⟨rfl, ⟨hcommon, hturn, hseat⟩, hvalid⟩
    · rintro ⟨rfl, ⟨hcommon, hturn, hseat⟩, hvalid⟩
      have htable := (isValidActive_iff.1 hvalid).table
      exact ⟨htable.length_players, length_properties htable.properties_valid, _, ⟨rfl, hcommon⟩, _,
        ⟨rfl, hturn⟩, _, ⟨rfl, by simp⟩, _, ⟨rfl, hseat⟩, ⟨rfl, hvalid⟩, rfl⟩
  | finished state =>
    obtain ⟨h1, h2, h3, h4, h5, h6, h7, h8, h9⟩ := hget state.toGameplayAggregateStateBase
      "finished" [("phase", .str "finished")] none (some state.terminal)
    simp only [hydrateGameplayState, gameplayJson, record_obj, bind_eq_ok, ok_eq_ok,
      exists_eq_left', exactKeys_eq_ok, hkeys, exists_const, true_and, require_eq_ok, h1, h2, h3,
      h4, h5, h6, h7, h8, h9, isNumber_num, array_arr, List.length_map, or_true, String.reduceBEq,
      Bool.false_eq_true, hydrateCommon_gameplayFields, Json.isText, beq_self_eq_true, ↓reduceIte,
      hydrateFinishedTurn_finished, hydrateTerminal_terminalJson, nullable_natural,
      requireSome_eq_ok, Nat.reduceLeDiff, pure_eq_ok]
    constructor
    · rintro ⟨-, -, _, ⟨rfl, hcommon⟩, _, ⟨rfl, hterminal⟩, _, ⟨rfl, -⟩, _, ⟨rfl⟩, ⟨-, hvalid⟩, rfl⟩
      exact ⟨rfl, ⟨hcommon, hterminal _ rfl⟩, hvalid⟩
    · rintro ⟨rfl, ⟨hcommon, hterminal⟩, hvalid⟩
      have htable := (isValidFinished_iff.1 hvalid).table
      refine ⟨htable.length_players, length_properties htable.properties_valid, _, ⟨rfl, hcommon⟩, _,
        ⟨rfl, fun outcome houtcome => ?_⟩, _, ⟨rfl, by simp⟩, _, rfl, ⟨rfl, hvalid⟩, rfl⟩
      cases houtcome
      exact hterminal

/-- Whatever is read satisfies its validator. -/
theorem valid_of_hydrateGameplayState {value : Json} {state : GameplayAggregateState}
    (h : hydrateGameplayState value = .ok state) : isValidGameplayAggregateState state = true := by
  simp only [hydrateGameplayState, bind_eq_ok, require_eq_ok, exists_const] at h
  obtain ⟨_, -, _, -, -, -, -, _, -, -, _, -, -, _, -, _, -, hread⟩ := h
  split_ifs at hread
  · simp only [bind_eq_ok, require_eq_ok, exists_const, pure_eq_ok] at hread
    obtain ⟨_, -, _, -, _, -, ⟨-, hvalid⟩, rfl⟩ := hread
    exact hvalid
  · simp only [bind_eq_ok, require_eq_ok, exists_const, pure_eq_ok] at hread
    obtain ⟨_, -, _, -, _, -, _, -, ⟨-, hvalid⟩, rfl⟩ := hread
    exact hvalid

/-! ### A valid aggregate is within the ranges -/

theorem playerFits_of_valid {startedAtMs : ℤ} {index : ℕ} {player : GameplayPlayerState}
    (h : ValidPlayer startedAtMs index player) (hindex : index < 4) : PlayerFits player := by
  obtain ⟨hseat, hid, hsafe, h0, -⟩ := h.slot
  have hposition := h.rules.position_lt
  simp only [GameplayPolicy.boardSize] at hposition
  exact {
    seatIndex := by omega
    playerId := hid
    cash := h.rules.cash
    position := by omega
    jailTurns := h.rules.jailTurns_le
    consecutiveDoubles := h.rules.consecutiveDoubles_le
    missedTurns := h.rules.missedTurns_le
    cards := h.rules.cards_le
    joinedAt := ⟨hsafe, h0⟩ }

theorem propertyFits_of_valid {properties : List PropertyState}
    (h : isValidPropertyStates properties = true) {property : PropertyState}
    (hp : property ∈ properties) : PropertyFits property := by
  obtain ⟨i, hi⟩ := List.mem_iff_getElem?.1 hp
  obtain ⟨_, -, hvalid⟩ := exists_definition h hi
  have hlt : i < 40 := length_properties h ▸ (List.getElem?_eq_some_iff.1 hi).1
  have hposition := hvalid.position_eq
  exact ⟨by omega, fun owner howner => hvalid.owner_le owner howner, hvalid.houses_le⟩

theorem termsFit_of_valid {terms : TradeTerms} (h : validTerms terms = true) : TermsFit terms := by
  cases terms with
  | moneyOnly offeredCash requestedCash =>
    simp only [validTerms, decide_eq_true_eq] at h
    exact ⟨h.1, h.2.1⟩
  | propertyOnly offered requested =>
    simp only [validTerms, decide_eq_true_eq] at h
    exact ⟨fun n hn => Nat.le_of_lt_succ (h.1 n hn), fun n hn => Nat.le_of_lt_succ (h.2.1 n hn)⟩
  | moneyForProperty offeredCash requested =>
    simp only [validTerms, decide_eq_true_eq] at h
    exact ⟨h.1, Nat.le_of_lt_succ h.2.2⟩
  | propertyForMoney offered requestedCash =>
    simp only [validTerms, decide_eq_true_eq] at h
    exact ⟨Nat.le_of_lt_succ h.1, h.2.1⟩

theorem tradeFits_of_valid {trade : PendingTrade} (h : ValidPendingTrade trade) :
    TradeFits trade := by
  obtain ⟨hid, hp, hr, -, hterms, hsafe, h0, hexpiry, hexpires⟩ := h
  refine ⟨hid, by omega, by omega, termsFit_of_valid hterms, ⟨hsafe, h0⟩, ?_⟩
  rw [hexpires]
  refine ⟨hexpiry, ?_⟩
  have hpolicy : 0 ≤ GameplayPolicy.tradeExpiryMs := by decide
  omega

theorem diceFit_of_valid {roll : DiceRoll} (h : ValidDice roll) : DiceFit roll := by
  obtain ⟨hf, hs, htotal, -⟩ := h
  exact ⟨hf, hs, by omega⟩

theorem commonFits_of_valid {state : GameplayAggregateStateBase} (h : ValidHeader state)
    (htable : ValidTable state.players state.properties state.inventory state.bankCash
      state.startedAtMs)
    (htrades : ∀ trade ∈ state.activeTrades, ValidPendingTrade trade)
    (hdice : ∀ roll, state.lastDice = some roll → ValidDice roll) : CommonFits state := by
  obtain ⟨-, hhouses, hhotels⟩ := isValidBuildingInventory_iff.1 htable.stock
  simp only [GameplayAggregateStateBase.inventory] at hhouses hhotels
  exact {
    version := h.version
    gameId := h.gameId
    player := fun i player hplayer => 
      playerFits_of_valid (htable.player i player hplayer) (htable.seat_lt hplayer)
    property := fun property hp => propertyFits_of_valid htable.properties_valid hp
    bank := htable.bank
    pool := h.freeParking
    houses := by omega
    hotels := by omega
    startedAt := h.startedAt
    gameEndAt := fun gameEnd hend => by
      obtain ⟨hsafe, hle⟩ := h.gameEndAt gameEnd hend
      exact ⟨hsafe, h.startedAt.2.trans hle⟩
    trade := fun trade htrade => tradeFits_of_valid (htrades trade htrade)
    dice := fun roll hroll => diceFit_of_valid (hdice roll hroll)
    rng := h.rng }

theorem length_activeTerminalPlayers_le (players : List (Option GameplayPlayerState)) :
    (activeTerminalPlayers players).length ≤ players.length := by
  simp only [activeTerminalPlayers, List.length_map]
  exact (List.length_filter_le ..).trans (List.length_filterMap_le ..)

theorem terminalFits_of_valid {state : FinishedGameplayAggregateState} (h : ValidFinished state) :
    TerminalFits state.terminal := by
  obtain ⟨hwinner, hsafe, hle, hentitled, -⟩ := h.terminal
  obtain ⟨ranked, hranked, hranking, -⟩ := h.ranking
  have hpairs := mem_netWorths hranked
  have hlength : (sortRanked ranked).length ≤ 4 := by
    rw [(sortRanked_perm ranked).length_eq, ← hpairs.length_eq]
    exact (length_activeTerminalPlayers_le _).trans h.table.length_players.le
  simp only [GameplayPolicy.maximumPlayers] at hwinner
  refine ⟨by omega, ⟨hsafe, h.header.startedAt.2.trans hle⟩, fun entry hentry => ?_, by omega⟩
  rw [hranking, withRanks, List.mem_mapIdx] at hentry
  obtain ⟨i, hi, rfl⟩ := hentry
  have hmem : (sortRanked ranked)[i] ∈ ranked :=
    (sortRanked_perm ranked).subset (List.getElem_mem hi)
  obtain ⟨player, -, hseat, hnet⟩ := exists_of_forall₂ hpairs hmem
  obtain ⟨⟨hlt, -⟩, hcash⟩ := calculatePlayerNetWorth_eq_some hnet
  rw [← hseat] at hlt
  simp only [GameplayPolicy.maximumPlayers] at hlt
  exact ⟨by dsimp only; omega, by dsimp only; omega, hcash⟩

/-- Every valid aggregate is within the ranges of the reader. -/
theorem fits_of_valid {state : GameplayAggregateState}
    (h : isValidGameplayAggregateState state = true) : GameplayFits state := by
  cases state with
  | inProgress state =>
    have hvalid := isValidActive_iff.1 h
    obtain ⟨⟨hseat, hstart, h0, hdeadline, hdead⟩, -, -, hposition⟩ := hvalid.turn.turn_valid
    simp only [GameplayPolicy.maximumPlayers] at hseat
    have hpolicy : 0 ≤ GameplayPolicy.turnTimeoutMs := by decide
    refine ⟨commonFits_of_valid hvalid.header hvalid.table hvalid.trades hvalid.turn.dice_valid,
      ⟨by omega, ⟨hstart, h0⟩, ⟨hdeadline, by omega⟩, fun position hp =>
        Nat.le_of_lt_succ (hposition position hp)⟩, fun seat hrequired => ?_⟩
    obtain ⟨hnone, -⟩ | ⟨hsome, -⟩ := hvalid.turn.bankruptcy
    · rw [hnone] at hrequired
      cases hrequired
    · rw [hsome] at hrequired
      cases hrequired
      omega
  | finished state =>
    have hvalid := isValidFinished_iff.1 h
    exact ⟨commonFits_of_valid hvalid.header hvalid.table (by simp [hvalid.trades])
      (by simp [hvalid.dice]), terminalFits_of_valid hvalid⟩

theorem CommonFits.plain {state : GameplayAggregateStateBase} (h : CommonFits state)
    {lifecycle : String} {turn : Fields} {required : Option ℕ} {terminal : Option TerminalOutcome}
    (hturn : Plain (.obj turn)) (hrequired : ∀ seat, required = some seat → seat ≤ 3)
    (hterminal : ∀ outcome, terminal = some outcome → TerminalFits outcome) :
    Plain (.obj (gameplayFields state lifecycle turn required terminal)) := by
  have hversion := h.version
  have hmax : maxStateVersion ≤ 9007199254740991 := by decide
  have hhouses := h.houses
  have hhotels := h.hotels
  have hplayers : Plain (.arr (state.players.map (nullableJson playerJson))) := by
    refine .arr fun item hitem => ?_
    obtain ⟨slot, hslot, rfl⟩ := List.mem_map.1 hitem
    obtain ⟨i, hi⟩ := List.mem_iff_getElem?.1 hslot
    exact plain_nullableJson fun player hplayer =>
      (h.player i player (slotAt_eq_some.2 (hplayer ▸ hi))).plain
  have hproperties : Plain (.arr (state.properties.map propertyJson)) := by
    refine .arr fun item hitem => ?_
    obtain ⟨property, hproperty, rfl⟩ := List.mem_map.1 hitem
    exact (h.property property hproperty).plain
  have htrades : Plain (.arr (state.activeTrades.map tradeJson)) := by
    refine .arr fun item hitem => ?_
    obtain ⟨trade, htrade, rfl⟩ := List.mem_map.1 hitem
    exact (h.trade trade htrade).plain
  refine .obj (by simp [gameplayFields]) ?_
  simp only [gameplayFields, List.forall_mem_cons]
  exact ⟨.num (by decide), .num (by omega), .str _, .str _, .str _, hplayers, hproperties, .str _,
    .str _, plain_natJson (by omega), plain_natJson (by omega), h.startedAt.plain,
    plain_nullableJson fun time htime => (h.gameEndAt time htime).plain, hturn,
    plain_nullableJson fun seat hseat => plain_natJson (by have := hrequired seat hseat; omega),
    htrades, plain_nullableJson fun roll hroll => (h.dice roll hroll).plain,
    plain_nullableJson fun outcome houtcome => (hterminal outcome houtcome).plain,
    plain_rngJson h.rng, by simp⟩

theorem GameplayFits.plain {state : GameplayAggregateState} (h : GameplayFits state) :
    Plain (gameplayJson state) := by
  cases state with
  | inProgress state => exact h.1.plain h.2.1.plain h.2.2 (by simp)
  | finished state =>
    refine h.1.plain (.obj (by simp) ?_) (by simp) fun outcome houtcome => ?_
    · simp only [List.forall_mem_cons]
      exact ⟨.str _, by simp⟩
    · cases houtcome
      exact h.2

theorem GameplayFits.version {state : GameplayAggregateState} (h : GameplayFits state) :
    1 ≤ gameplayFormat.stateVersion state ∧ gameplayFormat.stateVersion state ≤ maxStateVersion := by
  cases state with
  | inProgress state => exact h.1.version
  | finished state => exact h.1.version

/-! ### Round trips -/

variable {localeCompare : String → String → ℤ} {state : GameplayAggregateState}

/-- A valid aggregate has a checkpoint, which is parsed to it. -/
theorem parseGameplaySnapshot_serializeGameplaySnapshot
    (h : isValidGameplayAggregateState state = true) :
    ∃ text, serializeGameplaySnapshot localeCompare state = .ok text ∧
      parseGameplaySnapshot localeCompare text = .ok state := by
  have hfits := fits_of_valid h
  have hread : hydrateGameplayState (gameplayJson state) = .ok state :=
    hydrateGameplayState_gameplayJson.2 ⟨rfl, hfits, h⟩
  obtain ⟨text, htext⟩ : ∃ text, serializeGameplaySnapshot localeCompare state = .ok text :=
    SnapshotFormat.serialize_isOk.2 ⟨state, hread⟩
  exact ⟨text, htext, SnapshotFormat.parse_of_serialize hread hfits.plain (by decide) hfits.version
    htext⟩

/-- Only a valid aggregate has one. -/
theorem valid_of_serializeGameplaySnapshot {text : String}
    (h : serializeGameplaySnapshot localeCompare state = .ok text) :
    isValidGameplayAggregateState state = true := by
  obtain ⟨_, hread⟩ := SnapshotFormat.serialize_isOk.1 ⟨text, h⟩
  exact (hydrateGameplayState_gameplayJson.1 hread).2.2

theorem valid_of_parseGameplaySnapshot {text : String}
    (h : parseGameplaySnapshot localeCompare text = .ok state) :
    isValidGameplayAggregateState state = true := by
  obtain ⟨_, hread⟩ := SnapshotFormat.hydrated_of_parse h
  exact valid_of_hydrateGameplayState hread

/-- Checkpoints round-trip: a valid aggregate is serialized and parsed back to itself, any other
aggregate is refused, and every text that is parsed holds a valid aggregate that round-trips. -/
theorem gameplay_checkpoints (localeCompare : String → String → ℤ) :
    (∀ state, isValidGameplayAggregateState state = true →
      ∃ text, serializeGameplaySnapshot localeCompare state = .ok text ∧
        parseGameplaySnapshot localeCompare text = .ok state) ∧
    (∀ state, isValidGameplayAggregateState state = false →
      ∃ error, serializeGameplaySnapshot localeCompare state = .error error) ∧
    ∀ text state, parseGameplaySnapshot localeCompare text = .ok state →
      isValidGameplayAggregateState state = true ∧
      ∃ text', serializeGameplaySnapshot localeCompare state = .ok text' ∧
        parseGameplaySnapshot localeCompare text' = .ok state := by
  refine ⟨fun state h => parseGameplaySnapshot_serializeGameplaySnapshot h, fun state h => ?_,
    fun text state h => ?_⟩
  · cases hserialize : serializeGameplaySnapshot localeCompare state with
    | error error => exact ⟨error, rfl⟩
    | ok text =>
      rw [valid_of_serializeGameplaySnapshot hserialize] at h
      cases h
  · have hvalid := valid_of_parseGameplaySnapshot h
    exact ⟨hvalid, parseGameplaySnapshot_serializeGameplaySnapshot hvalid⟩

/-- The checkpoint after the first roll, under the order of code points. -/
theorem gameplay_checkpoints_firstRoll : ∃ state text,
    twoPlayerGame [rolls 1 2 1 10] = some (.inProgress state) ∧
    serializeGameplaySnapshot (fun left right => if left < right then -1 else if left = right
      then 0 else 1) (.inProgress state) = .ok text ∧
    parseGameplaySnapshot (fun left right => if left < right then -1 else if left = right
      then 0 else 1) text = .ok (.inProgress state) := by
  obtain ⟨state, hstate, hvalid⟩ := exists_of_inProgressWith (twoPlayerGame [rolls 1 2 1 10])
    isValidActiveGameplayAggregateState (by decide +kernel)
  obtain ⟨text, hwritten, hread⟩ := (gameplay_checkpoints fun left right =>
    if left < right then -1 else if left = right then 0 else 1).1 (.inProgress state) hvalid
  exact ⟨state, text, hstate, hwritten, hread⟩

end Pootown.Snapshot
