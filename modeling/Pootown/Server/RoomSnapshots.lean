import Mathlib.Tactic
import Pootown.Invariants.Handover
import Pootown.Serialization.GameplaySnapshot
import Pootown.Server.ServedState

/-!
# Snapshots of rooms

The checkpoint of a room holds the snapshot of a lobby, or of a game.

* `serializeRoomState`, `parseCheckpointState`: the text of a room's state, and the state of a text;
* `roomCodec`: the codec of the rooms, by the order of field names and the digest;
* `parse_of_snapshotVersion`: a text the store accepts for a state is parsed to that state;
* `validSnapshot_lobby`: a text the store accepts.
-/

namespace Pootown.Server

open Fallible Snapshot

variable (localeCompare : String → String → ℤ)

/-- The text of a state, empty where the serializer throws: the store refuses both. -/
def serializeRoomState : RoomGameState → String
  | .lifecycle state => (serializeSnapshot localeCompare state).toOption.getD ""
  | .gameplay state => (serializeGameplaySnapshot localeCompare state).toOption.getD ""

def parseCheckpointState (serializedState : String) : Except ServerError RoomGameState :=
  match parseSnapshot localeCompare serializedState with
  | .ok state => .ok (.lifecycle state)
  | .error _ =>
    match parseGameplaySnapshot localeCompare serializedState with
    | .ok state => .ok (.gameplay state)
    | .error _ => .error (corruptCheckpoint "Room checkpoint cannot be restored")

def roomCodec (digest : String → List UInt8) : RoomCodec where
  digest := digest
  snapshotVersion text :=
    (parseCheckpointState localeCompare text).toOption.map RoomGameState.stateVersion
  serialize := serializeRoomState localeCompare

/-! ### What is read back -/

variable {localeCompare} {digest : String → List UInt8}

/-- A game that can be written is valid. -/
def RoomGameState.Valid : RoomGameState → Prop
  | .lifecycle _ => True
  | .gameplay state => isValidGameplayAggregateState state = true

theorem parseCheckpointState_valid {text : String} {state : RoomGameState}
    (h : parseCheckpointState localeCompare text = .ok state) : state.Valid := by
  unfold parseCheckpointState at h
  split at h
  next lobby _ =>
    cases h
    trivial
  next =>
    split at h
    next game hgame =>
      cases h
      exact valid_of_parseGameplaySnapshot hgame
    · cases h

theorem parseCheckpointState_empty : ∃ error,
    parseCheckpointState localeCompare "" = .error error := by
  have hlobby : parseSnapshot localeCompare "" = .error "snapshot is not valid JSON" := rfl
  have hgame : parseGameplaySnapshot localeCompare ""
      = .error "gameplay snapshot is not valid JSON" := rfl
  simp only [parseCheckpointState, hlobby, hgame]
  exact ⟨_, rfl⟩

theorem parseCheckpointState_gameplay {state : GameplayAggregateState} {text : String}
    (h : serializeGameplaySnapshot localeCompare state = .ok text) :
    parseCheckpointState localeCompare text = .ok (.gameplay state) := by
  have hvalid := valid_of_serializeGameplaySnapshot h
  have hfits := fits_of_valid hvalid
  have hsafe : IsSafeInteger (gameplayFormat.stateVersion state) := by
    have hversion := hfits.version
    have hmax : maxStateVersion ≤ 9007199254740991 := by decide
    exact ⟨by omega, by omega⟩
  obtain ⟨text', htext', hparse⟩ :=
    @parseGameplaySnapshot_serializeGameplaySnapshot localeCompare state hvalid
  rw [h] at htext'
  cases htext'
  -- the two formats differ in their schema version
  have hlobby : ∃ error, parseSnapshot localeCompare text = .error error :=
    SnapshotFormat.parse_of_other hfits.plain (by decide) hsafe (by decide) h
  obtain ⟨error, herror⟩ := hlobby
  simp only [parseCheckpointState, herror, hparse]

/-- A text the store accepts for a state is parsed to that state. -/
theorem parse_of_snapshotVersion {state : RoomGameState} {version : ℤ}
    (h : (roomCodec localeCompare digest).snapshotVersion (serializeRoomState localeCompare state)
      = some version) :
    parseCheckpointState localeCompare (serializeRoomState localeCompare state) = .ok state := by
  obtain ⟨error, hempty⟩ := @parseCheckpointState_empty localeCompare
  cases state with
  | lifecycle state =>
    simp only [serializeRoomState] at h ⊢
    cases htext : serializeSnapshot localeCompare state with
    | error _ =>
      simp [roomCodec, htext, Except.toOption, hempty] at h
    | ok text =>
      simp only [Except.toOption, Option.getD_some, parseCheckpointState,
        (fits_of_serializeSnapshot htext).2.2]
  | gameplay state =>
    simp only [serializeRoomState] at h ⊢
    cases htext : serializeGameplaySnapshot localeCompare state with
    | error _ =>
      simp [roomCodec, htext, Except.toOption, hempty] at h
    | ok text => exact parseCheckpointState_gameplay htext

/-- A lobby within its ranges that passes its checks has a snapshot, and the store accepts it. -/
theorem validSnapshot_lobby {lobby : GameState} (hfits : StateFits lobby)
    (hcoherent : Coherent lobby) :
    (∃ text, serializeSnapshot localeCompare lobby = .ok text ∧
      parseSnapshot localeCompare text = .ok lobby ∧
      (roomCodec localeCompare digest).serialize (.lifecycle lobby) = text) ∧
    ValidSnapshot (roomCodec localeCompare digest).toCodec
      ((roomCodec localeCompare digest).serialize (.lifecycle lobby)) lobby.stateVersion := by
  obtain ⟨text, htext, hparse⟩ := @parseSnapshot_serializeSnapshot localeCompare lobby hfits hcoherent
  have hroom : (roomCodec localeCompare digest).serialize (.lifecycle lobby) = text := by
    simp only [roomCodec, serializeRoomState, htext, Except.toOption, Option.getD_some]
  refine ⟨⟨text, htext, hparse, hroom⟩, ?_⟩
  rw [hroom]
  refine ⟨⟨?_, ?_⟩, ?_⟩
  · rw [Nat.pos_iff_ne_zero, Ne, String.utf8ByteSize_eq_zero_iff]
    rintro rfl
    cases hparse
  · have hserialized : text = String.ofList
        (CanonicalJson.render (lobbyFormat.envelope localeCompare lobby)) := by
      simp only [serializeSnapshot, SnapshotFormat.serialize, bind_eq_ok, pure_eq_ok] at htext
      obtain ⟨_, -, rfl⟩ := htext
      rfl
    have hversion : IsSafeInteger (lobbyFormat.stateVersion lobby) := by
      have hversion : 1 ≤ lobbyFormat.stateVersion lobby ∧
          lobbyFormat.stateVersion lobby ≤ maxStateVersion := hfits.version
      have hmax : maxStateVersion ≤ 9007199254740991 := by decide
      exact ⟨by omega, by omega⟩
    have hsize := utf8ByteSize_ofList_le
      (CanonicalJson.render (lobbyFormat.envelope localeCompare lobby))
    have henvelope := length_envelope_le localeCompare lobbyFormat lobby (by decide) hversion
    have hstate : (CanonicalJson.render (lobbyFormat.serializeValue lobby)).length ≤ 36000 :=
      hfits.length_le
    rw [hserialized]
    omega
  · show (parseCheckpointState localeCompare text).toOption.map RoomGameState.stateVersion = _
    simp only [parseCheckpointState, hparse, Except.toOption, Option.map_some]
    rfl

-- unification is not to run the serializer
attribute [irreducible] serializeRoomState

/-- The rooms of a host that orders names without regard to case. -/
def clockCodec : RoomCodec := roomCodec compareLetters strokeCodec.digest

end Pootown.Server
