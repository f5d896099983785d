import Mathlib.Tactic
import Pootown.Library.CanonicalJson
import Pootown.Transition.Gameplay
import Pootown.Transition.Lifecycle

/-!
# What a room exchanges

The commands a room handles, and what it answers and publishes.

* `RoomCommand`: a command of a player or of the clock, under a request id; `RoomCommand.toJson` and
  `canonicalJson`, the text its fingerprint is taken of;
* `canonicalJson_injective`: the text determines the command;
* `eventId`, `tradeId`: the ids derived from a request id;
* `CommandAcknowledgement`, `CommandRejection`, `RoomEvent`, `ServerError`.
-/

namespace Pootown.Server

open CanonicalJson

/-! ### Commands -/

inductive RoomCommandBody
  | lifecycle (body : GameCommandBody)
  | gameplay (body : GameplayCommandBody)

/-- A command as it is persisted: a player's, or one the room dispatches itself. -/
structure RoomCommand where
  requestId : String
  expectedStateVersion : ℤ
  body : RoomCommandBody

/-- The commands of the internal schema, which no client can send. -/
def RoomCommandBody.isInternal : RoomCommandBody → Bool
  | .gameplay (.turn .resolveRandomDice) => true
  | .gameplay (.card (.resolveRandomCard _)) => true
  | .gameplay (.trade .cleanupExpiredTrades) => true
  | .gameplay (.timeout _) => true
  | _ => false

def deckText : CardDeck → String
  | .chance => "chance"
  | .communityChest => "communityChest"

def buildingText : BuildingType → String
  | .house => "house"
  | .hotel => "hotel"

theorem deckText_inj {deck deck' : CardDeck} (h : deckText deck = deckText deck') :
    deck = deck' := by
  cases deck <;> cases deck' <;> first | rfl | simp [deckText] at h

theorem buildingText_inj {building building' : BuildingType}
    (h : buildingText building = buildingText building') : building = building' := by
  cases building <;> cases building' <;> first | rfl | simp [buildingText] at h

/-- An amount as the decimal string of the wire. -/
def cashText (amount : ℤ) : String := String.ofList (number amount)

def positionField (name : String) (position : ℕ) : String × Json := (name, .num position)

def nullableNumber : Option ℤ → Json
  | none => .null
  | some value => .num value

def nullablePosition (name : String) (position : Option ℕ) : String × Json :=
  (name, nullableNumber (position.map Int.ofNat))

/-- The payload of a trade offer; its fields, like those of every payload, in key order. -/
def tradePayload (receiverId : String) : TradeTerms → List (String × Json)
  | .moneyOnly offeredCash requestedCash =>
    [("offeredCash", .str (cashText offeredCash)), ("receiverId", .str receiverId),
      ("requestedCash", .str (cashText requestedCash)), ("tradeType", .str "moneyOnly")]
  | .propertyOnly offered requested =>
    [nullablePosition "offeredPropertyPosition" offered, ("receiverId", .str receiverId),
      nullablePosition "requestedPropertyPosition" requested, ("tradeType", .str "propertyOnly")]
  | .moneyForProperty offeredCash requested =>
    [("offeredCash", .str (cashText offeredCash)), ("receiverId", .str receiverId),
      positionField "requestedPropertyPosition" requested, ("tradeType", .str "moneyForProperty")]
  | .propertyForMoney offered requestedCash =>
    [positionField "offeredPropertyPosition" offered, ("receiverId", .str receiverId),
      ("requestedCash", .str (cashText requestedCash)), ("tradeType", .str "propertyForMoney")]

/-- The type and the payload of a command. -/
def RoomCommandBody.wire : RoomCommandBody → String × List (String × Json)
  | .lifecycle (.createGame gameId maximumPlayers timeLimitMs) =>
    ("createGame", [("gameId", .str gameId), ("maximumPlayers", .num maximumPlayers),
      ("timeLimitMs", nullableNumber timeLimitMs)])
  | .lifecycle .joinGame => ("joinGame", [])
  | .lifecycle .leaveGame => ("leaveGame", [])
  | .lifecycle .cancelGame => ("cancelGame", [])
  | .lifecycle .startGame => ("startGame", [])
  | .gameplay (.turn .rollDice) => ("rollDice", [])
  | .gameplay (.turn .resolveRandomDice) => ("resolveRandomDice", [])
  | .gameplay (.turn .endTurn) => ("endTurn", [])
  | .gameplay (.property (.buyProperty position)) =>
    ("buyProperty", [positionField "position" position])
  | .gameplay (.property (.declineProperty position)) =>
    ("declineProperty", [positionField "position" position])
  | .gameplay (.property (.payRent position)) => ("payRent", [positionField "position" position])
  | .gameplay (.property (.buildHouse position)) =>
    ("buildHouse", [positionField "position" position])
  | .gameplay (.property (.buildHotel position)) =>
    ("buildHotel", [positionField "position" position])
  | .gameplay (.property (.sellBuilding position buildingType)) =>
    ("sellBuilding", [("buildingType", .str (buildingText buildingType)),
      positionField "position" position])
  | .gameplay (.property .payMevTax) => ("payMevTax", [])
  | .gameplay (.property .payPriorityFeeTax) => ("payPriorityFeeTax", [])
  | .gameplay (.jail .payJailFine) => ("payJailFine", [])
  | .gameplay (.jail .useJailCard) => ("useJailCard", [])
  | .gameplay (.card .drawChanceCard) => ("drawChanceCard", [])
  | .gameplay (.card .drawCommunityChestCard) => ("drawCommunityChestCard", [])
  | .gameplay (.card (.resolveRandomCard deck)) =>
    ("resolveRandomCard", [("deck", .str (deckText deck))])
  | .gameplay .declareBankruptcy => ("declareBankruptcy", [])
  | .gameplay (.trade (.createTrade receiverId terms)) =>
    ("createTrade", tradePayload receiverId terms)
  | .gameplay (.trade (.acceptTrade tradeId)) => ("acceptTrade", [("tradeId", .str tradeId)])
  | .gameplay (.trade (.rejectTrade tradeId)) => ("rejectTrade", [("tradeId", .str tradeId)])
  | .gameplay (.trade (.cancelTrade tradeId)) => ("cancelTrade", [("tradeId", .str tradeId)])
  | .gameplay (.trade .cleanupExpiredTrades) => ("cleanupExpiredTrades", [])
  | .gameplay (.timeout .warnTurnThirtySeconds) => ("warnTurnThirtySeconds", [])
  | .gameplay (.timeout .warnTurnTenSeconds) => ("warnTurnTenSeconds", [])
  | .gameplay (.timeout .handleTurnTimeout) => ("handleTurnTimeout", [])
  | .gameplay (.timeout .enforceGameTimeLimit) => ("enforceGameTimeLimit", [])

def RoomCommand.type (command : RoomCommand) : String := command.body.wire.1

def RoomCommand.toJson (command : RoomCommand) : Json :=
  .obj [("expectedStateVersion", .num command.expectedStateVersion),
    ("payload", .obj command.body.wire.2), ("requestId", .str command.requestId),
    ("type", .str command.type)]

/-- The text a command is fingerprinted by. -/
def RoomCommand.canonicalJson (command : RoomCommand) : String :=
  CanonicalJson.canonicalJson command.toJson

/-! ### Derived ids -/

/-- A request id without its dashes. -/
def compactRequestId (requestId : String) : String :=
  String.ofList (requestId.toList.filter fun c => c ≠ '-')

def eventId (requestId : String) (index : ℕ) : String :=
  "evt_" ++ compactRequestId requestId ++ "_" ++ toString index

def tradeId (requestId : String) : String := "trade_" ++ compactRequestId requestId

/-! ### Answers, events and errors -/

structure CommandAcknowledgement where
  requestId : String
  stateVersion : ℤ
  eventIds : List String
  deriving DecidableEq

structure CommandRejection where
  requestId : String
  stateVersion : ℤ
  error : GameCoreError

inductive RoomEventPayload
  | lifecycle (event : DomainEvent)
  | gameplay (gameId : String) (event : GameplayDomainEvent)

/-- An event as it is published and recorded. -/
structure RoomEvent where
  eventId : String
  stateVersion : ℤ
  occurredAtMs : ℤ
  payload : RoomEventPayload

inductive ServerErrorName
  | roomLeaseUnavailable | checkpointConflict | corruptCheckpoint | commandCommitConflict
  | commandIdempotencyConflict | invalidRoomCommand | ticketAuthentication | validation | database
  deriving DecidableEq

structure ServerError where
  name : ServerErrorName
  message : String
  deriving DecidableEq

/-! ### The text determines the command -/

theorem normaliseFields_eq {fields : List (String × Json)}
    (h : ∀ field ∈ fields, normalise field.2 = field.2) : normaliseFields fields = fields := by
  induction fields with
  | nil => rfl
  | cons field rest ih =>
    obtain ⟨key, value⟩ := field
    rw [normaliseFields, h _ (List.mem_cons_self ..),
      ih fun f hf => h f (List.mem_cons_of_mem _ hf)]

/-- The fields of a payload stand in key order. -/
theorem wire_sorted (body : RoomCommandBody) :
    body.wire.2.Pairwise fun a b => a.1 ≤ b.1 := by
  unfold RoomCommandBody.wire
  split
  case h_23 receiverId terms =>
    cases terms <;> simp [tradePayload, positionField, nullablePosition]
  all_goals simp [positionField]

/-- The fields of a payload hold no objects. -/
theorem wire_flat (body : RoomCommandBody) :
    ∀ field ∈ body.wire.2, normalise field.2 = field.2 := by
  have hnullable : ∀ value, normalise (nullableNumber value) = nullableNumber value := by
    intro value
    cases value <;> simp [nullableNumber, normalise]
  unfold RoomCommandBody.wire
  split
  case h_23 receiverId terms =>
    cases terms <;> simp [tradePayload, positionField, nullablePosition, hnullable, normalise]
  all_goals simp [positionField, hnullable, normalise]

theorem normalise_toJson (command : RoomCommand) : normalise command.toJson = command.toJson := by
  have hpayload : normalise (.obj command.body.wire.2) = .obj command.body.wire.2 := by
    rw [normalise, normaliseFields_eq (wire_flat _), (wire_sorted _).insertionSort_eq]
  rw [RoomCommand.toJson, normalise, normaliseFields_eq ?_, List.Pairwise.insertionSort_eq]
  · simp
  · simp only [List.forall_mem_cons, hpayload]
    simp [normalise]

theorem cashText_inj {amount amount' : ℤ} (h : cashText amount = cashText amount') :
    amount = amount' := by
  have hnone : Follows [] := by
    intro c hc
    cases hc
  have htext := String.ofList_injective h
  have htext' : number amount ++ [] = number amount' ++ [] := by rw [htext]
  exact (number_inj hnone hnone htext').1

theorem nullableNumber_inj {value value' : Option ℤ}
    (h : nullableNumber value = nullableNumber value') : value = value' := by
  cases value <;> cases value' <;> first | rfl | cases h
  rfl

theorem nullablePosition_inj {position position' : Option ℕ}
    (h : nullableNumber (position.map Int.ofNat) =
      nullableNumber (position'.map Int.ofNat)) : position = position' :=
  Option.map_injective (fun _ _ => Int.ofNat.inj) (nullableNumber_inj h)

theorem tradePayload_inj {receiverId receiverId' : String} {terms terms' : TradeTerms}
    (h : tradePayload receiverId terms = tradePayload receiverId' terms') :
    receiverId = receiverId' ∧ terms = terms' := by
  cases terms <;> cases terms' <;> simp [tradePayload, positionField, nullablePosition] at h ⊢
  · obtain ⟨hoffered, hreceiver, hrequested⟩ := h
    exact ⟨hreceiver, cashText_inj hoffered, cashText_inj hrequested⟩
  · obtain ⟨hoffered, hreceiver, hrequested⟩ := h
    exact ⟨hreceiver, nullablePosition_inj hoffered, nullablePosition_inj hrequested⟩
  · obtain ⟨hoffered, hreceiver, hrequested⟩ := h
    exact ⟨hreceiver, cashText_inj hoffered, hrequested⟩
  · obtain ⟨hoffered, hreceiver, hrequested⟩ := h
    exact ⟨hreceiver, hoffered, cashText_inj hrequested⟩

theorem wire_injective : Function.Injective RoomCommandBody.wire := by
  intro body body' h
  unfold RoomCommandBody.wire at h
  -- bodies of different types have different type names
  split at h <;> split at h <;> simp [positionField] at h
  all_goals try rfl
  case h_1 =>
    obtain ⟨rfl, rfl, hlimit⟩ := h
    rw [nullableNumber_inj hlimit]
  case h_14 =>
    obtain ⟨hbuilding, rfl⟩ := h
    rw [buildingText_inj hbuilding]
  case h_21 => rw [deckText_inj h]
  case h_23 =>
    obtain ⟨rfl, rfl⟩ := tradePayload_inj h
    rfl
  all_goals rw [h]

/-- Commands with the same canonical text are the same command. -/
theorem RoomCommand.canonicalJson_injective : Function.Injective RoomCommand.canonicalJson := by
  intro command command' h
  have hjson := canonicalJson_eq_iff.1 h
  rw [normalise_toJson, normalise_toJson] at hjson
  obtain ⟨requestId, version, body⟩ := command
  obtain ⟨requestId', version', body'⟩ := command'
  simp only [toJson, RoomCommand.type, Json.obj.injEq, List.cons.injEq, Prod.mk.injEq,
    Json.num.injEq, Json.str.injEq, true_and, and_true] at hjson
  obtain ⟨hversion, hpayload, hrequest, htype⟩ := hjson
  rw [hversion, hrequest, wire_injective (Prod.ext htype hpayload)]

end Pootown.Server
