import Mathlib.Tactic
import Pootown.Serialization.Envelope
import Pootown.Transition.Lifecycle

/-!
# Lobby snapshots

The checkpoint of a game before its first turn.

* `seatJson`, `stateJson`: what `serializeValue` makes of a lobby;
* `hydrateSeat`, `hydrateLifecycle`, `checkState`, `hydrateState`: the field-by-field reader;
* `StateFits`, `Coherent`: what the reader asks of a lobby that was written, and
  `hydrateState_stateJson`: it then gives the lobby back;
* `serializeSnapshot`, `parseSnapshot`, and `parseSnapshot_serializeSnapshot`;
* `StateFits.length_le`: the size of the text of such a lobby.
-/

namespace Pootown.Snapshot

open Fallible Slots CanonicalJson JsonText

def gameSchemaVersion : ℤ := 2

def gameplayRulesetId : String := "pootown-rust-source-v1"

/-! ### Writing -/

def statusText : PlayerStatus → String
  | .active => "active"
  | .eliminated => "eliminated"

def seatJson (seat : PlayerSeat) : Json := .obj [
  ("seatIndex", natJson seat.seatIndex),
  ("playerId", .str seat.playerId),
  ("status", .str (statusText seat.status)),
  ("cash", bigintJson seat.cash),
  ("position", natJson seat.position),
  ("inJail", .bool seat.inJail),
  ("joinedAtMs", .num seat.joinedAtMs)]

def lifecycleText : GameLifecycle → String
  | .waitingForPlayers => "waitingForPlayers"
  | .inProgress _ _ _ => "inProgress"
  | .cancelled _ => "cancelled"
  | .finished _ _ => "finished"

def lifecycleGameEndAtMs : GameLifecycle → Option ℤ
  | .inProgress _ gameEndAtMs _ => gameEndAtMs
  | .finished _ gameEndAtMs => some gameEndAtMs
  | _ => none

def turnFields : GameLifecycle → Fields
  | .waitingForPlayers => [("phase", .str "notStarted")]
  | .inProgress _ _ turn => [
    ("phase", .str "awaitingRoll"),
    ("currentSeatIndex", natJson turn.currentSeatIndex),
    ("startedAtMs", .num turn.startedAtMs),
    ("deadlineAtMs", .num turn.deadlineAtMs)]
  | _ => [("phase", .str "finished")]

def stateFields (state : GameState) : Fields := [
  ("schemaVersion", .num gameSchemaVersion),
  ("rulesetId", .str gameplayRulesetId),
  ("stateVersion", .num state.stateVersion),
  ("gameId", .str state.gameId),
  ("creatorId", .str state.creatorId),
  ("lifecycle", .str (lifecycleText state.lifecycle)),
  ("minimumPlayers", natJson state.minimumPlayers),
  ("maximumPlayers", natJson state.maximumPlayers),
  ("seats", .arr (state.seats.map (nullableJson seatJson))),
  ("bankCash", bigintJson state.bankCash),
  ("freeParkingPool", bigintJson state.freeParkingPool),
  ("housesRemaining", natJson state.housesRemaining),
  ("hotelsRemaining", natJson state.hotelsRemaining),
  ("createdAtMs", .num state.createdAtMs),
  ("startedAtMs", nullableJson .num state.lifecycle.startedAtMs),
  ("cancelledAtMs", nullableJson .num state.lifecycle.cancelledAtMs),
  ("timeLimitMs", nullableJson .num state.timeLimitMs),
  ("gameEndAtMs", nullableJson .num (lifecycleGameEndAtMs state.lifecycle)),
  ("turnTimeoutMs", .num state.turnTimeoutMs),
  ("turn", .obj (turnFields state.lifecycle)),
  ("rng", rngJson state.rng)]

def stateJson (state : GameState) : Json := .obj (stateFields state)

/-! ### Reading -/

def playerStatuses : List (String × PlayerStatus) :=
  [("active", .active), ("eliminated", .eliminated)]

def hydrateSeat (value : Json) (expectedIndex : ℕ) : Except SnapshotError (Option PlayerSeat) :=
  let label := "seats[" ++ toString expectedIndex ++ "]"
  nullable value fun value => do
    let seat ← record value label
    exactKeys seat ["seatIndex", "playerId", "status", "cash", "position", "inJail", "joinedAtMs"]
      label
    let seatIndex ← natural (seat.get "seatIndex") "seatIndex" 0 3
    require (seatIndex = expectedIndex) "seat index does not match slot"
    let status ← oneOf playerStatuses (seat.get "status") "seat status is invalid"
    let inJail ← boolean (seat.get "inJail") "inJail"
    let playerId ← opaqueIdentifier (seat.get "playerId") "playerId"
    let cash ← decimal (seat.get "cash") "cash"
    let position ← natural (seat.get "position") "position" 0 39
    let joinedAtMs ← safeIntegerFrom0 (seat.get "joinedAtMs") "joinedAtMs"
    return ⟨seatIndex, playerId, status, cash, position, inJail, joinedAtMs⟩

/-- The lifecycle with its own fields, and the fields it has to leave `null`. -/
def hydrateLifecycle (state turn : Fields) : Except SnapshotError GameLifecycle := do
  let lifecycle := state.get "lifecycle"
  if Json.isText lifecycle "waitingForPlayers" then
    exactKeys turn ["phase"] "turn"
    require (Json.isText (turn.get "phase") "notStarted" = true ∧
        Json.isNull (state.get "startedAtMs") = true ∧
        Json.isNull (state.get "cancelledAtMs") = true ∧
        Json.isNull (state.get "gameEndAtMs") = true)
      "waiting lifecycle fields are inconsistent"
    return .waitingForPlayers
  else if Json.isText lifecycle "inProgress" then
    exactKeys turn ["phase", "currentSeatIndex", "startedAtMs", "deadlineAtMs"] "turn"
    require (Json.isText (turn.get "phase") "awaitingRoll" = true ∧
        Json.isNull (state.get "cancelledAtMs") = true)
      "active lifecycle fields are inconsistent"
    let startedAtMs ← safeIntegerFrom0 (state.get "startedAtMs") "startedAtMs"
    let gameEndAtMs ← nullable (state.get "gameEndAtMs") fun value =>
      safeIntegerFrom0 value "gameEndAtMs"
    let currentSeatIndex ← natural (turn.get "currentSeatIndex") "currentSeatIndex" 0 3
    let turnStartedAtMs ← safeIntegerFrom0 (turn.get "startedAtMs") "turn.startedAtMs"
    let deadlineAtMs ← safeIntegerFrom0 (turn.get "deadlineAtMs") "turn.deadlineAtMs"
    return .inProgress startedAtMs gameEndAtMs ⟨currentSeatIndex, turnStartedAtMs, deadlineAtMs⟩
  else if Json.isText lifecycle "cancelled" then
    exactKeys turn ["phase"] "turn"
    require (Json.isText (turn.get "phase") "finished" = true ∧
        Json.isNull (state.get "startedAtMs") = true ∧
        Json.isNull (state.get "gameEndAtMs") = true)
      "cancelled lifecycle fields are inconsistent"
    let cancelledAtMs ← safeIntegerFrom0 (state.get "cancelledAtMs") "cancelledAtMs"
    return .cancelled cancelledAtMs
  else if Json.isText lifecycle "finished" then
    exactKeys turn ["phase"] "turn"
    require (Json.isText (turn.get "phase") "finished" = true ∧
        Json.isNull (state.get "cancelledAtMs") = true)
      "finished lifecycle fields are inconsistent"
    let startedAtMs ← safeIntegerFrom0 (state.get "startedAtMs") "startedAtMs"
    let gameEndAtMs ← safeIntegerFrom0 (state.get "gameEndAtMs") "gameEndAtMs"
    return .finished startedAtMs gameEndAtMs
  else .error "unknown lifecycle"

/-- The checks on a lifecycle against the seats and the creation. -/
def checkLifecycle (state : GameState) : Except SnapshotError Unit :=
  match state.lifecycle with
  | .waitingForPlayers =>
    require (∀ seat ∈ occupants state.seats, seat.status = .active)
      "waiting games cannot contain eliminated players"
  | .inProgress startedAtMs gameEndAtMs turn => do
    require (state.minimumPlayers ≤ (occupants state.seats).length ∧
        state.createdAtMs ≤ startedAtMs)
      "active lifecycle has invalid player count or start time"
    require (∃ seat ∈ slotAt state.seats turn.currentSeatIndex, seat.status = .active)
      "current turn must reference an active occupied seat"
    require (startedAtMs ≤ turn.startedAtMs ∧ turn.startedAtMs ≤ turn.deadlineAtMs ∧
        ∀ gameEnd ∈ gameEndAtMs, startedAtMs ≤ gameEnd)
      "active lifecycle deadlines are inconsistent"
  | .cancelled cancelledAtMs =>
    require (state.createdAtMs ≤ cancelledAtMs) "cancellation predates the game"
  | .finished startedAtMs gameEndAtMs =>
    require (state.createdAtMs ≤ startedAtMs ∧ startedAtMs ≤ gameEndAtMs)
      "finished lifecycle timestamps are inconsistent"

/-- The checks on a state whose fields have all been read. -/
def checkState (state : GameState) : Except SnapshotError Unit := do
  require (1 ≤ (occupants state.seats).length ∧
      (slotAt state.seats 0).map PlayerSeat.playerId = some state.creatorId)
    "creator must occupy seat zero"
  require (((occupants state.seats).map PlayerSeat.playerId).Nodup) "player IDs must be unique"
  require (1 ≤ ((occupants state.seats).filter fun seat => seat.status = .active).length)
    "game must retain at least one active player"
  require (∀ seat ∈ occupants state.seats, state.createdAtMs ≤ seat.joinedAtMs)
    "seat join timestamp predates the game"
  checkLifecycle state

def stateKeys : List String :=
  ["schemaVersion", "rulesetId", "stateVersion", "gameId", "creatorId", "lifecycle",
    "minimumPlayers", "maximumPlayers", "seats", "bankCash", "freeParkingPool", "housesRemaining",
    "hotelsRemaining", "createdAtMs", "startedAtMs", "cancelledAtMs", "timeLimitMs",
    "gameEndAtMs", "turnTimeoutMs", "turn", "rng"]

def hydrateState (value : Json) : Except SnapshotError GameState := do
  let state ← record value "state"
  exactKeys state stateKeys "state"
  require (Json.isNumber (state.get "schemaVersion") gameSchemaVersion = true)
    "unsupported game schema version"
  require (Json.isText (state.get "rulesetId") gameplayRulesetId = true)
    "unsupported gameplay ruleset"
  require (Json.isNumber (state.get "minimumPlayers") GameplayPolicy.minimumPlayers = true)
    "minimum player rule is invalid"
  let maximumPlayers ← natural (state.get "maximumPlayers") "maximumPlayers"
    GameplayPolicy.minimumPlayers GameplayPolicy.maximumPlayers
  let slots ← array (state.get "seats") "snapshot must contain exactly four seat slots"
  require (slots.length = GameplayPolicy.maximumPlayers)
    "snapshot must contain exactly four seat slots"
  let seats ← mapItems hydrateSeat 0 slots
  require ((seats.drop maximumPlayers).all Option.isNone = true)
    "seat outside configured capacity is occupied"
  let rng ← rngFields (state.get "rng")
  let turn ← record (state.get "turn") "turn"
  let stateVersion ← integer (state.get "stateVersion") "stateVersion" 1 maxStateVersion
  let gameId ← opaqueIdentifier (state.get "gameId") "gameId"
  let creatorId ← opaqueIdentifier (state.get "creatorId") "creatorId"
  let bankCash ← decimal (state.get "bankCash") "bankCash"
  let freeParkingPool ← decimal (state.get "freeParkingPool") "freeParkingPool"
  let housesRemaining ← natural (state.get "housesRemaining") "housesRemaining" 0 32
  let hotelsRemaining ← natural (state.get "hotelsRemaining") "hotelsRemaining" 0 12
  let createdAtMs ← safeIntegerFrom0 (state.get "createdAtMs") "createdAtMs"
  let timeLimitMs ← nullable (state.get "timeLimitMs") fun value =>
    integer value "timeLimitMs" 1 86400000
  let turnTimeoutMs ← integer (state.get "turnTimeoutMs") "turnTimeoutMs"
    GameplayPolicy.turnTimeoutMs GameplayPolicy.turnTimeoutMs
  let rng ← readRng rng
  let lifecycle ← hydrateLifecycle state turn
  let result : GameState := {
    stateVersion := stateVersion
    gameId := gameId
    creatorId := creatorId
    minimumPlayers := GameplayPolicy.minimumPlayers
    maximumPlayers := maximumPlayers
    seats := seats
    bankCash := bankCash
    freeParkingPool := freeParkingPool
    housesRemaining := housesRemaining
    hotelsRemaining := hotelsRemaining
    createdAtMs := createdAtMs
    timeLimitMs := timeLimitMs
    turnTimeoutMs := turnTimeoutMs
    rng := rng
    lifecycle := lifecycle }
  checkState result
  return result

/-- The format of a lobby. -/
def lobbyFormat : SnapshotFormat GameState where
  label := "snapshot"
  schemaVersion := gameSchemaVersion
  stateVersion := fun state => state.stateVersion
  serializeValue := stateJson
  hydrate := hydrateState

def serializeSnapshot (localeCompare : String → String → ℤ) (state : GameState) :
    Except SnapshotError String :=
  lobbyFormat.serialize localeCompare state

def parseSnapshot (localeCompare : String → String → ℤ) (serialized : String) :
    Except SnapshotError GameState :=
  lobbyFormat.parse localeCompare serialized

/-! ### What is read back -/

/-- A seat whose fields are within their ranges. -/
structure SeatFits (index : ℕ) (seat : PlayerSeat) : Prop where
  seatIndex : seat.seatIndex = index ∧ index ≤ 3
  playerId : validOpaqueId seat.playerId = true
  cash : IsMatchCash seat.cash
  position : seat.position ≤ 39
  joinedAt : IsSafeInteger seat.joinedAtMs ∧ 0 ≤ seat.joinedAtMs

theorem hydrateSeat_seatJson (index : ℕ) (slot slot' : Option PlayerSeat) :
    hydrateSeat (nullableJson seatJson slot) index = .ok slot' ↔
      slot' = slot ∧ ∀ seat, slot = some seat → SeatFits index seat := by
  refine nullable_nullableJson (fun seat => by simp [seatJson]) fun seat seat' => ?_
  have hstatus : ∀ status : PlayerStatus,
      playerStatuses.lookup (statusText status) = some status := by
    intro status
    cases status <;> rfl
  simp only [seatJson, record_obj, bind_eq_ok, ok_eq_ok, exists_eq_left', exactKeys_eq_ok,
    exists_const, List.map_cons, List.map_nil, List.Perm.refl, true_and, Fields.get_cons_self,
    Fields.get_cons_ne, ne_eq, String.reduceEq, not_false_eq_true, natural_natJson, oneOf_str,
    hstatus, Option.some.injEq, boolean_bool, opaqueIdentifier_str, decimal_bigintJson,
    safeIntegerFrom0_num, require_eq_ok, pure_eq_ok]
  constructor
  · rintro ⟨_, ⟨rfl, -, -, h3⟩, rfl, _, ⟨rfl, hid⟩, _, ⟨rfl, hcash⟩, _, ⟨rfl, -, -, hpos⟩, _,
      ⟨rfl, hjoined⟩, rfl⟩
    exact ⟨rfl, ⟨rfl, h3⟩, hid, hcash, hpos, hjoined⟩
  · rintro ⟨rfl, h⟩
    have hsafe : IsSafeInteger seat'.seatIndex := by
      have hindex := h.seatIndex
      omega
    have hposition : IsSafeInteger seat'.position := by
      have hposition := h.position
      omega
    exact ⟨_, ⟨rfl, hsafe, Nat.zero_le _, h.seatIndex.1.le.trans h.seatIndex.2⟩, h.seatIndex.1,
      _, ⟨rfl, h.playerId⟩, _, ⟨rfl, h.cash⟩, _, ⟨rfl, hposition, Nat.zero_le _, h.position⟩,
      _, ⟨rfl, h.joinedAt⟩, rfl⟩

/-- A lifecycle whose fields are within their ranges. -/
def LifecycleFits : GameLifecycle → Prop
  | .waitingForPlayers => True
  | .inProgress startedAtMs gameEndAtMs turn =>
    Recordable startedAtMs ∧ (∀ gameEnd, gameEndAtMs = some gameEnd → Recordable gameEnd) ∧
    turn.currentSeatIndex ≤ 3 ∧ Recordable turn.startedAtMs ∧ Recordable turn.deadlineAtMs
  | .cancelled cancelledAtMs => Recordable cancelledAtMs
  | .finished startedAtMs gameEndAtMs => Recordable startedAtMs ∧ Recordable gameEndAtMs

theorem nullable_time {o out : Option ℤ} {label : String} :
    nullable (nullableJson .num o) (fun value => safeIntegerFrom0 value label) = .ok out ↔
      out = o ∧ ∀ time, o = some time → Recordable time :=
  nullable_nullableJson (fun _ => by simp) fun _ _ => safeIntegerFrom0_num

theorem hydrateLifecycle_stateFields {state : GameState} {lifecycle : GameLifecycle} :
    hydrateLifecycle (stateFields state) (turnFields state.lifecycle) = .ok lifecycle ↔
      lifecycle = state.lifecycle ∧ LifecycleFits state.lifecycle := by
  simp only [hydrateLifecycle, stateFields, Fields.get_cons_self, Fields.get_cons_ne, ne_eq,
    String.reduceEq, not_false_eq_true, Json.isText]
  cases state.lifecycle with
  | waitingForPlayers =>
    simp only [lifecycleText, turnFields, beq_self_eq_true, ↓reduceIte, exactKeys_eq_ok, bind_eq_ok,
      require_eq_ok, pure_eq_ok, exists_const, List.map_cons, List.map_nil, List.Perm.refl,
      Fields.get_cons_self, Json.isNull, GameLifecycle.startedAtMs, GameLifecycle.cancelledAtMs,
      lifecycleGameEndAtMs, nullableJson_none, LifecycleFits, true_and, and_true]
    exact eq_comm
  | inProgress startedAtMs gameEndAtMs turn =>
    simp only [lifecycleText, turnFields, String.reduceBEq, Bool.false_eq_true, ↓reduceIte,
      exactKeys_eq_ok, bind_eq_ok, require_eq_ok, pure_eq_ok, exists_const, List.map_cons,
      List.map_nil, List.Perm.refl, Fields.get_cons_self, Fields.get_cons_ne, ne_eq,
      String.reduceEq, not_false_eq_true, Json.isNull, GameLifecycle.startedAtMs,
      GameLifecycle.cancelledAtMs, lifecycleGameEndAtMs, nullableJson_none, nullableJson_some,
      LifecycleFits, true_and, nullable_time, safeIntegerFrom0_num, natural_natJson]
    constructor
    · rintro ⟨_, ⟨rfl, hs⟩, _, ⟨rfl, he⟩, _, ⟨rfl, -, -, hseat⟩, _, ⟨rfl, ht⟩, _, ⟨rfl, hd⟩, rfl⟩
      exact ⟨rfl, hs, he, hseat, ht, hd⟩
    · rintro ⟨rfl, hs, he, hseat, ht, hd⟩
      exact ⟨_, ⟨rfl, hs⟩, _, ⟨rfl, he⟩, _, ⟨rfl, by omega, Nat.zero_le _, hseat⟩, _, ⟨rfl, ht⟩,
        _, ⟨rfl, hd⟩, rfl⟩
  | cancelled cancelledAtMs =>
    simp only [lifecycleText, turnFields, String.reduceBEq, Bool.false_eq_true, ↓reduceIte,
      exactKeys_eq_ok, bind_eq_ok, require_eq_ok, pure_eq_ok, exists_const, List.map_cons,
      List.map_nil, List.Perm.refl, Fields.get_cons_self, Json.isNull, GameLifecycle.startedAtMs,
      GameLifecycle.cancelledAtMs, lifecycleGameEndAtMs, nullableJson_none, nullableJson_some,
      LifecycleFits, true_and, safeIntegerFrom0_num]
    constructor
    · rintro ⟨_, ⟨rfl, h⟩, rfl⟩
      exact ⟨rfl, h⟩
    · rintro ⟨rfl, h⟩
      exact ⟨_, ⟨rfl, h⟩, rfl⟩
  | finished startedAtMs gameEndAtMs =>
    simp only [lifecycleText, turnFields, String.reduceBEq, Bool.false_eq_true, ↓reduceIte,
      exactKeys_eq_ok, bind_eq_ok, require_eq_ok, pure_eq_ok, exists_const, List.map_cons,
      List.map_nil, List.Perm.refl, Fields.get_cons_self, Json.isNull, GameLifecycle.startedAtMs,
      GameLifecycle.cancelledAtMs, lifecycleGameEndAtMs, nullableJson_none, nullableJson_some,
      LifecycleFits, true_and, safeIntegerFrom0_num]
    constructor
    · rintro ⟨_, ⟨rfl, hs⟩, _, ⟨rfl, he⟩, rfl⟩
      exact ⟨rfl, hs, he⟩
    · rintro ⟨rfl, hs, he⟩
      exact ⟨_, ⟨rfl, hs⟩, _, ⟨rfl, he⟩, rfl⟩

/-- A lobby whose fields are within their ranges. -/
structure StateFits (state : GameState) : Prop where
  minimum : state.minimumPlayers = 2
  maximum : 2 ≤ state.maximumPlayers ∧ state.maximumPlayers ≤ 4
  length_seats : state.seats.length = 4
  seat : ∀ i seat, slotAt state.seats i = some seat → SeatFits i seat
  capacity : ∀ i seat, slotAt state.seats i = some seat → i < state.maximumPlayers
  version : 1 ≤ state.stateVersion ∧ state.stateVersion ≤ maxStateVersion
  gameId : validOpaqueId state.gameId = true
  creatorId : validOpaqueId state.creatorId = true
  bank : IsMatchCash state.bankCash
  pool : IsMatchCash state.freeParkingPool
  houses : state.housesRemaining ≤ 32
  hotels : state.hotelsRemaining ≤ 12
  created : Recordable state.createdAtMs
  limit : ∀ limit, state.timeLimitMs = some limit → 1 ≤ limit ∧ limit ≤ 86400000
  timeout : state.turnTimeoutMs = 90000
  rng : ValidRandomCheckpoint state.rng
  lifecycle : LifecycleFits state.lifecycle

/-- A lobby that passes the checks on a state whose fields have all been read. -/
def Coherent (state : GameState) : Prop := checkState state = .ok ()

theorem all_isNone_drop {seats : List (Option PlayerSeat)} {capacity : ℕ} :
    (seats.drop capacity).all Option.isNone = true ↔
      ∀ i seat, slotAt seats i = some seat → i < capacity := by
  simp only [List.all_eq_true, List.mem_iff_getElem?, List.getElem?_drop, slotAt_eq_some]
  constructor
  · intro h i seat hseat
    by_contra hge
    have hnone := h (some seat) ⟨i - capacity, by rw [← hseat]; congr 1; omega⟩
    cases hnone
  · rintro h (_ | seat) ⟨i, hi⟩
    · rfl
    · have hlt := h (capacity + i) seat hi
      omega

theorem nullableTimeLimit {o out : Option ℤ} :
    nullable (nullableJson .num o) (fun value => integer value "timeLimitMs" 1 86400000) = .ok out ↔
      out = o ∧ ∀ limit, o = some limit → IsSafeInteger limit ∧ 1 ≤ limit ∧ limit ≤ 86400000 :=
  nullable_nullableJson (fun _ => by simp) fun _ _ => integer_num

/-- The reader gives back the lobby that was written, when its fields are within their ranges and
its checks pass. -/
theorem hydrateState_stateJson {state state' : GameState} :
    hydrateState (stateJson state) = .ok state' ↔
      state' = state ∧ StateFits state ∧ Coherent state := by
  have hkeys : (List.map Prod.fst (stateFields state)).Perm stateKeys := List.Perm.refl _
  have hlifecycle := @hydrateLifecycle_stateFields state
  simp only [stateFields] at hlifecycle hkeys
  simp only [hydrateState, stateJson, stateFields, record_obj, bind_eq_ok, ok_eq_ok,
    exists_eq_left', exactKeys_eq_ok, hkeys, exists_const, true_and, Fields.get_cons_self,
    Fields.get_cons_ne, ne_eq, String.reduceEq, not_false_eq_true, isNumber_num,
    isNumber_natJson, isText_str,
    natural_natJson, array_arr, mapItems_map hydrateSeat_seatJson, rngFields_rngJson,
    readRng_rngEntries, exists_eq_left, integer_num, opaqueIdentifier_str, decimal_bigintJson,
    safeIntegerFrom0_num, nullableTimeLimit, require_eq_ok, pure_eq_ok, hlifecycle]
  have hsame : state.minimumPlayers = 2 →
      ({ state with minimumPlayers := 2 } : GameState) = state := fun hmin =>
    congrArg (fun n => ({ state with minimumPlayers := n } : GameState)) hmin.symm
  constructor
  · rintro ⟨hmin, _, ⟨rfl, -, hmax⟩, hlen, _, ⟨rfl, hseats⟩, hcapacity, _, ⟨rfl, -, hversion⟩, _,
      ⟨rfl, hgame⟩, _, ⟨rfl, hcreator⟩, _, ⟨rfl, hbank⟩, _, ⟨rfl, hpool⟩, _, ⟨rfl, -, -, hhouses⟩, _,
      ⟨rfl, -, -, hhotels⟩, _, ⟨rfl, hcreated⟩, _, ⟨rfl, hlimit⟩, _, ⟨rfl, -, htimeout⟩, _,
      ⟨rfl, hrng⟩, _, ⟨rfl, hfits⟩, _, hcheck, rfl⟩
    replace hsame := hsame (by exact_mod_cast hmin)
    exact ⟨hsame, {
      minimum := by exact_mod_cast hmin
      maximum := hmax
      length_seats := by simpa using hlen
      seat := fun i seat hseat => by
        simpa using hseats i _ (slotAt_eq_some.1 hseat) seat rfl
      capacity := all_isNone_drop.1 hcapacity
      version := hversion
      gameId := hgame
      creatorId := hcreator
      bank := hbank
      pool := hpool
      houses := hhouses
      hotels := hhotels
      created := hcreated
      limit := fun limit h => (hlimit limit h).2
      timeout := le_antisymm htimeout.2 htimeout.1
      rng := hrng
      lifecycle := hfits }, (congrArg checkState hsame).symm.trans hcheck⟩
  · rintro ⟨rfl, h, hcheck⟩
    replace hsame := hsame h.minimum
    have hversion : IsSafeInteger state'.stateVersion := by
      have hmax : maxStateVersion ≤ 9007199254740991 := by decide
      have hversion := h.version
      omega
    have hmaximum := h.maximum
    have hhouses := h.houses
    have hhotels := h.hotels
    refine ⟨by exact_mod_cast h.minimum, _, ⟨rfl, by omega, hmaximum⟩, by simpa using h.length_seats,
      _, ⟨rfl, fun i slot hslot seat hseat => ?_⟩, all_isNone_drop.2 h.capacity, _,
      ⟨rfl, hversion, h.version⟩, _, ⟨rfl, h.gameId⟩, _, ⟨rfl, h.creatorId⟩, _, ⟨rfl, h.bank⟩, _,
      ⟨rfl, h.pool⟩, _, ⟨rfl, by omega, Nat.zero_le _, hhouses⟩, _,
      ⟨rfl, by omega, Nat.zero_le _, hhotels⟩, _, ⟨rfl, h.created⟩, _, ⟨rfl, fun limit hlimit => ?_⟩,
      _, ⟨rfl, ?_, ?_⟩, _, ⟨rfl, h.rng⟩, _, ⟨rfl, h.lifecycle⟩, (), ?_, hsame⟩
    · subst hseat
      simpa using h.seat i seat (slotAt_eq_some.2 hslot)
    · have hrange := h.limit limit hlimit
      exact ⟨by omega, hrange⟩
    · rw [h.timeout]
      decide
    · rw [h.timeout]
      decide
    · exact (congrArg checkState hsame).trans hcheck

theorem SeatFits.plain {index : ℕ} {seat : PlayerSeat} (h : SeatFits index seat) :
    Plain (seatJson seat) := by
  have hindex := h.seatIndex
  have hposition := h.position
  refine .obj (by simp) ?_
  simp only [List.forall_mem_cons]
  exact ⟨plain_natJson (by omega), .str _, .str _, .str _, plain_natJson (by omega), .bool _,
    Recordable.plain h.joinedAt, by simp⟩

/-- The times of a lifecycle that fits are safe. -/
theorem LifecycleFits.times {lifecycle : GameLifecycle} (h : LifecycleFits lifecycle) {time : ℤ}
    (htime : lifecycle.startedAtMs = some time ∨ lifecycle.cancelledAtMs = some time ∨
      lifecycleGameEndAtMs lifecycle = some time) : Recordable time := by
  cases lifecycle with
  | waitingForPlayers => rcases htime with htime | htime | htime <;> cases htime
  | inProgress startedAtMs gameEndAtMs turn =>
    rcases htime with htime | htime | htime
    · cases htime
      exact h.1
    · cases htime
    · exact h.2.1 time htime
  | cancelled cancelledAtMs =>
    rcases htime with htime | htime | htime <;> cases htime
    exact h
  | finished startedAtMs gameEndAtMs =>
    rcases htime with htime | htime | htime <;> cases htime
    · exact h.1
    · exact h.2

theorem plain_turnFields {lifecycle : GameLifecycle} (h : LifecycleFits lifecycle) :
    Plain (.obj (turnFields lifecycle)) := by
  cases lifecycle with
  | inProgress startedAtMs gameEndAtMs turn =>
    obtain ⟨-, -, hseat, hstart, hdeadline⟩ := h
    refine .obj (by simp [turnFields]) ?_
    simp only [turnFields, List.forall_mem_cons]
    exact ⟨.str _, plain_natJson (by omega), hstart.plain, hdeadline.plain, by simp⟩
  | _ =>
    refine .obj (by simp [turnFields]) ?_
    simp only [turnFields, List.forall_mem_cons]
    exact ⟨.str _, by simp⟩

theorem StateFits.plain {state : GameState} (h : StateFits state) : Plain (stateJson state) := by
  have hmaximum := h.maximum
  have hhouses := h.houses
  have hhotels := h.hotels
  have hversion := h.version
  have hmax : maxStateVersion ≤ 9007199254740991 := by decide
  have hseats : Plain (.arr (state.seats.map (nullableJson seatJson))) := by
    refine .arr fun item hitem => ?_
    obtain ⟨slot, hslot, rfl⟩ := List.mem_map.1 hitem
    obtain ⟨i, hi⟩ := List.mem_iff_getElem?.1 hslot
    exact plain_nullableJson fun seat hseat =>
      (h.seat i seat (slotAt_eq_some.2 (hseat ▸ hi))).plain
  refine .obj (by simp [stateFields]) ?_
  simp only [stateFields, List.forall_mem_cons]
  exact ⟨.num (by decide), .str _, .num (by omega), .str _, .str _, .str _,
    plain_natJson (by have hmin := h.minimum; omega), plain_natJson (by omega), hseats, .str _,
    .str _, plain_natJson (by omega), plain_natJson (by omega), h.created.plain,
    plain_nullableJson fun _ htime => (h.lifecycle.times (.inl htime)).plain,
    plain_nullableJson fun _ htime => (h.lifecycle.times (.inr (.inl htime))).plain,
    plain_nullableJson fun limit hlimit => .num (by have hrange := h.limit limit hlimit; omega),
    plain_nullableJson fun _ htime => (h.lifecycle.times (.inr (.inr htime))).plain,
    .num (by rw [h.timeout]; decide), plain_turnFields h.lifecycle,
    plain_rngJson h.rng, by simp⟩

theorem SeatFits.length_le {index : ℕ} {seat : PlayerSeat} (h : SeatFits index seat) :
    (render (seatJson seat)).length ≤ 1500 := by
  have hindex := h.seatIndex
  have hposition := h.position
  have hstatus : (render (.str (statusText seat.status))).length ≤ 12 := by
    cases seat.status <;> decide
  have hinJail : (render (.bool seat.inJail)).length ≤ 5 := by
    cases seat.inJail <;> decide
  exact (length_render_obj_le
    ["seatIndex", "playerId", "status", "cash", "position", "inJail", "joinedAtMs"] rfl
    (.cons (length_natJson_le (by omega)) (.cons (length_id_le h.playerId) (.cons hstatus
      (.cons (length_bigintJson_le h.cash) (.cons (length_natJson_le (by omega)) (.cons hinJail
      (.cons (length_number_le h.joinedAt.1) .nil)))))))).trans (by decide +kernel)

/-- A time that may be missing. -/
theorem length_time_le {o : Option ℤ} (h : ∀ time, o = some time → IsSafeInteger time) :
    (render (nullableJson .num o)).length ≤ 17 :=
  length_nullableJson_le (by decide) fun time htime => length_number_le (h time htime)

theorem length_turnFields_le {lifecycle : GameLifecycle} (h : LifecycleFits lifecycle) :
    (render (.obj (turnFields lifecycle))).length ≤ 200 := by
  cases lifecycle with
  | inProgress startedAtMs gameEndAtMs turn =>
    obtain ⟨-, -, hseat, hstart, hdeadline⟩ := h
    have hphase : (render (.str "awaitingRoll")).length ≤ 14 := by decide
    exact (length_render_obj_le ["phase", "currentSeatIndex", "startedAtMs", "deadlineAtMs"] rfl
      (.cons hphase (.cons (length_natJson_le (by omega)) (.cons (length_number_le hstart.1)
        (.cons (length_number_le hdeadline.1) .nil))))).trans (by decide +kernel)
  | _ =>
    refine (length_render_obj_le ["phase"] rfl (.cons (length_quote_le _) .nil)).trans ?_
    decide

/-- The text of a lobby that fits is bounded: most of it is the state of the generator. -/
theorem StateFits.length_le {state : GameState} (h : StateFits state) :
    (render (stateJson state)).length ≤ 36000 := by
  have hminimum := h.minimum
  have hmaximum := h.maximum
  have hhouses := h.houses
  have hhotels := h.hotels
  have hversion := h.version
  have hmax : maxStateVersion ≤ 9007199254740991 := by decide
  have hlifecycle : (render (.str (lifecycleText state.lifecycle))).length ≤ 30 := by
    have hwords : ∀ word ∈ ["waitingForPlayers", "inProgress", "cancelled", "finished"],
        (render (.str word)).length ≤ 30 := by decide +kernel
    refine hwords _ ?_
    cases state.lifecycle <;> simp [lifecycleText]
  have hseats := length_render_arr_le (state.seats.map (nullableJson seatJson))
    fun item hitem => by
      obtain ⟨slot, hslot, rfl⟩ := List.mem_map.1 hitem
      obtain ⟨i, hi⟩ := List.mem_iff_getElem?.1 hslot
      exact length_nullableJson_le (by decide) fun seat hseat =>
        (h.seat i seat (slotAt_eq_some.2 (hseat ▸ hi))).length_le
  rw [List.length_map, h.length_seats] at hseats
  have hschema : (render (.num gameSchemaVersion)).length ≤ 1 := by decide
  have hruleset : (render (.str gameplayRulesetId)).length ≤ 30 := by decide +kernel
  have hstarted := length_time_le fun time htime => (h.lifecycle.times (.inl htime)).1
  have hcancelled := length_time_le fun time htime => (h.lifecycle.times (.inr (.inl htime))).1
  have hend := length_time_le fun time htime => (h.lifecycle.times (.inr (.inr htime))).1
  have hlimit : ∀ limit, state.timeLimitMs = some limit → IsSafeInteger limit := by
    intro limit hsome
    have hrange := h.limit limit hsome
    omega
  exact (length_render_obj_le stateKeys rfl
    (.cons hschema (.cons hruleset (.cons (length_number_le (by omega))
    (.cons (length_id_le h.gameId) (.cons (length_id_le h.creatorId) (.cons hlifecycle
    (.cons (length_natJson_le (by omega)) (.cons (length_natJson_le (by omega)) (.cons hseats
    (.cons (length_bigintJson_le h.bank) (.cons (length_bigintJson_le h.pool)
    (.cons (length_natJson_le (by omega)) (.cons (length_natJson_le (by omega))
    (.cons (length_number_le h.created.1) (.cons hstarted (.cons hcancelled
    (.cons (length_time_le hlimit) (.cons hend
    (.cons (length_number_le (by rw [h.timeout]; decide)) (.cons (length_turnFields_le h.lifecycle)
    (.cons (length_rngJson_le h.rng) .nil)))))))))))))))))))))).trans (by decide +kernel)

variable {localeCompare : String → String → ℤ} {state : GameState}

/-- A lobby within its ranges that passes its checks has a snapshot, which is parsed to it. -/
theorem parseSnapshot_serializeSnapshot (hfits : StateFits state) (hcheck : Coherent state) :
    ∃ text, serializeSnapshot localeCompare state = .ok text ∧
      parseSnapshot localeCompare text = .ok state := by
  have hread : hydrateState (stateJson state) = .ok state :=
    hydrateState_stateJson.2 ⟨rfl, hfits, hcheck⟩
  obtain ⟨text, htext⟩ : ∃ text, lobbyFormat.serialize localeCompare state = .ok text :=
    SnapshotFormat.serialize_isOk.2 ⟨state, hread⟩
  exact ⟨text, htext, SnapshotFormat.parse_of_serialize hread hfits.plain (by decide) hfits.version
    htext⟩

/-- Only such a lobby has a snapshot. -/
theorem fits_of_serializeSnapshot {text : String}
    (h : serializeSnapshot localeCompare state = .ok text) :
    StateFits state ∧ Coherent state ∧ parseSnapshot localeCompare text = .ok state := by
  obtain ⟨_, hread⟩ := SnapshotFormat.serialize_isOk.1 ⟨text, h⟩
  obtain ⟨rfl, hfits, hcheck⟩ := hydrateState_stateJson.1 hread
  exact ⟨hfits, hcheck, SnapshotFormat.parse_of_serialize hread hfits.plain (by decide)
    hfits.version h⟩

end Pootown.Snapshot
