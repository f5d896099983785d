import Mathlib.Tactic
import Pootown.Serialization.Fields

/-!
# The snapshot envelope

A state travels with its schema version, its state version and a checksum over all three.

* `canonicalStringify`, `checksum`: the sixty-four bit FNV-1a hash of the canonical text.  Fields
  are in the order of the `localeCompare` of the host, here a parameter;
* `SnapshotFormat`: a format by the writer and the reader of its state; `serialize`, `parse`;
* `SnapshotFormat.parse_of_serialize`: a text that was written from a state its reader gives back
  is parsed to that state; `SnapshotFormat.parse_of_other`: in another format, to none;
* `length_envelope_le`: the size of a text.
-/

namespace Pootown.Snapshot

open Fallible CanonicalJson JsonText

/-! ### Checksums -/

section Checksum

variable (localeCompare : String → String → ℤ)

mutual

/-- Every object with its fields in the order of their names. -/
def sortFields : Json → Json
  | .arr items => .arr (sortFieldsOfItems items)
  | .obj fields => .obj ((sortFieldsOfFields fields).mergeSort fun left right =>
      decide (localeCompare left.1 right.1 ≤ 0))
  | value => value

def sortFieldsOfItems : List Json → List Json
  | [] => []
  | item :: items => sortFields item :: sortFieldsOfItems items

def sortFieldsOfFields : Fields → Fields
  | [] => []
  | (key, value) :: fields => (key, sortFields value) :: sortFieldsOfFields fields

end

def canonicalStringify (value : Json) : List Char := render (sortFields localeCompare value)

/-- The FNV-1a hash over code points, in sixteen hexadecimal digits. -/
def checksum (value : Json) : String :=
  let hash := (canonicalStringify localeCompare value).foldl
    (fun hash character => (hash ^^^ character.toNat) * 0x100000001b3 % 2 ^ 64) 0xcbf29ce484222325
  String.ofList ((Nat.toDigits 16 hash).leftpad 16 '0')

end Checksum

/-! ### Formats -/

/-- A snapshot format: what its messages call it, its schema version, the writer and the reader of
its states. -/
structure SnapshotFormat (σ : Type) where
  label : String
  schemaVersion : ℤ
  stateVersion : σ → ℤ
  serializeValue : σ → Json
  hydrate : Json → Except SnapshotError σ

/-- What the checksum covers. -/
def signed (schemaVersion stateVersion state : Json) : Fields :=
  [("schemaVersion", schemaVersion), ("stateVersion", stateVersion), ("state", state)]

namespace SnapshotFormat

variable {σ : Type} (localeCompare : String → String → ℤ) (format : SnapshotFormat σ)

/-- The envelope of a state. -/
def envelope (state : σ) : Json :=
  let signed := signed (.num format.schemaVersion) (.num (format.stateVersion state))
    (format.serializeValue state)
  .obj (signed ++ [("checksum", .str (checksum localeCompare (.obj signed)))])

def serialize (state : σ) : Except SnapshotError String := do
  let _ ← format.hydrate (format.serializeValue state)
  return String.ofList (render (format.envelope localeCompare state))

def parse (serialized : String) : Except SnapshotError σ := do
  let parsed ← requireSome (parseJson serialized) (format.label ++ " is not valid JSON")
  let envelope ← record parsed format.label
  exactKeys envelope ["schemaVersion", "stateVersion", "state", "checksum"] format.label
  require (Json.isNumber (envelope.get "schemaVersion") format.schemaVersion = true)
    ("unsupported " ++ format.label ++ " schema version")
  let stateVersion ← integer (envelope.get "stateVersion") (format.label ++ " stateVersion") 1
    maxStateVersion
  let expectedChecksum := checksum localeCompare (.obj (signed (envelope.get "schemaVersion")
    (.num stateVersion) (envelope.get "state")))
  require (Json.isText (envelope.get "checksum") expectedChecksum = true)
    (format.label ++ " checksum mismatch")
  let state ← format.hydrate (envelope.get "state")
  require (format.stateVersion state = stateVersion) (format.label ++ " revision mismatch")
  return state

/-! ### Round trips -/

variable {localeCompare} {format}

/-- Only a state whose written form is read is serialized. -/
theorem serialize_isOk {state : σ} :
    (∃ text, format.serialize localeCompare state = .ok text) ↔
      ∃ state', format.hydrate (format.serializeValue state) = .ok state' := by
  simp only [serialize, bind_eq_ok, pure_eq_ok]
  constructor
  · rintro ⟨_, state', hstate, -⟩
    exact ⟨state', hstate⟩
  · rintro ⟨state', hstate⟩
    exact ⟨_, state', hstate, rfl⟩

/-- A parsed state was read by the reader of the format. -/
theorem hydrated_of_parse {text : String} {state : σ}
    (h : format.parse localeCompare text = .ok state) : ∃ value, format.hydrate value = .ok state := by
  simp only [parse, bind_eq_ok, require_eq_ok, exists_const, pure_eq_ok] at h
  obtain ⟨_, -, envelope, -, _, -, -, _, -, -, _, hstate, -, rfl⟩ := h
  exact ⟨_, hstate⟩

theorem plain_envelope {state : σ} (hplain : Plain (format.serializeValue state))
    (hschema : Safe format.schemaVersion) (hversion : Safe (format.stateVersion state)) :
    Plain (format.envelope localeCompare state) := by
  refine .obj (by simp [signed]) ?_
  simp only [signed, List.cons_append, List.nil_append, List.forall_mem_cons]
  exact ⟨.num hschema, .num hversion, hplain, .str _, by simp⟩

/-- A text that was written from a state its reader gives back is parsed to that state. -/
theorem parse_of_serialize {state : σ} {text : String}
    (hread : format.hydrate (format.serializeValue state) = .ok state)
    (hplain : Plain (format.serializeValue state)) (hschema : Safe format.schemaVersion)
    (hversion : 1 ≤ format.stateVersion state ∧ format.stateVersion state ≤ maxStateVersion)
    (h : format.serialize localeCompare state = .ok text) :
    format.parse localeCompare text = .ok state := by
  have hsafe : IsSafeInteger (format.stateVersion state) := by
    have hmax : maxStateVersion ≤ 9007199254740991 := by decide
    omega
  simp only [serialize, bind_eq_ok, pure_eq_ok] at h
  obtain ⟨_, -, rfl⟩ := h
  have hplain' : Plain (format.envelope localeCompare state) := plain_envelope hplain hschema hsafe
  have hparsed := parseJson_render hplain'
  simp only [parse, bind_eq_ok, require_eq_ok, exists_const, requireSome_eq_ok, hparsed,
    Option.some.injEq, exists_eq_left', pure_eq_ok]
  simp only [envelope, record_obj, ok_eq_ok, exists_eq_left', signed, List.cons_append,
    List.nil_append, exactKeys_eq_ok, List.map_cons, List.map_nil, List.Perm.refl, exists_const,
    true_and, Fields.get_cons_self, Fields.get_cons_ne, ne_eq, String.reduceEq, not_false_eq_true,
    Json.isNumber, Json.isText, beq_self_eq_true, integer_num]
  exact ⟨_, ⟨rfl, hsafe, hversion⟩, by simp, state, hread, rfl, rfl⟩

/-- A text that was written in one format is not parsed in another of a different schema. -/
theorem parse_of_other {τ : Type} {other : SnapshotFormat τ} {state : σ} {text : String}
    (hplain : Plain (format.serializeValue state)) (hschema : Safe format.schemaVersion)
    (hversion : Safe (format.stateVersion state))
    (hne : format.schemaVersion ≠ other.schemaVersion)
    (h : format.serialize localeCompare state = .ok text) :
    ∃ error, other.parse localeCompare text = .error error := by
  cases hparse : other.parse localeCompare text with
  | error error => exact ⟨error, rfl⟩
  | ok state' =>
    simp only [serialize, bind_eq_ok, pure_eq_ok] at h
    obtain ⟨_, -, rfl⟩ := h
    have hplain' : Plain (format.envelope localeCompare state) :=
      plain_envelope hplain hschema hversion
    have hparsed := parseJson_render hplain'
    simp only [parse, bind_eq_ok, require_eq_ok, exists_const, requireSome_eq_ok, hparsed,
      Option.some.injEq, exists_eq_left'] at hparse
    obtain ⟨fields, hfields, _, -, hnumber, -⟩ := hparse
    simp only [envelope, record_obj, ok_eq_ok] at hfields
    subst hfields
    simp only [signed, List.cons_append, Fields.get_cons_self, Json.isNumber, beq_iff_eq] at hnumber
    exact absurd hnumber hne

end SnapshotFormat

/-! ### Sizes -/

theorem utf8ByteSize_ofList_le (text : List Char) :
    (String.ofList text).utf8ByteSize ≤ 4 * text.length := by
  induction text with
  | nil => simp
  | cons c rest ih =>
    have hc := c.utf8Size_le_four
    rw [String.ofList_cons, String.utf8ByteSize_append, List.length_cons]
    simp only [String.utf8ByteSize_singleton]
    omega

theorem length_checksum (localeCompare : String → String → ℤ) (value : Json) :
    (checksum localeCompare value).toList.length = 16 := by
  have hlt : ∀ (text : List Char) (hash : ℕ), hash < 2 ^ 64 →
      text.foldl (fun hash character => (hash ^^^ character.toNat) * 0x100000001b3 % 2 ^ 64) hash
        < 2 ^ 64 := by
    intro text
    induction text with
    | nil => exact fun _ h => h
    | cons c rest ih => exact fun _ _ => ih _ (Nat.mod_lt _ (by decide))
  have hdigits : (Nat.toDigits 16 ((canonicalStringify localeCompare value).foldl
      (fun hash character => (hash ^^^ character.toNat) * 0x100000001b3 % 2 ^ 64)
      0xcbf29ce484222325)).length ≤ 16 :=
    (Nat.length_toDigits_le_iff (by decide) (by decide)).2 (hlt _ _ (by decide))
  simp only [checksum, String.toList_ofList, List.length_leftpad]
  exact max_eq_left hdigits

/-- An envelope is not much longer than its state. -/
theorem length_envelope_le {σ : Type} (localeCompare : String → String → ℤ)
    (format : SnapshotFormat σ) (state : σ) (hschema : IsSafeInteger format.schemaVersion)
    (hversion : IsSafeInteger (format.stateVersion state)) :
    (render (format.envelope localeCompare state)).length ≤
      (render (format.serializeValue state)).length + 200 := by
  have hchecksum : ∀ value, (render (.str (checksum localeCompare value))).length ≤ 98 := by
    intro value
    have hquote := length_quote_le (checksum localeCompare value)
    rwa [length_checksum] at hquote
  have hnames : (["schemaVersion", "stateVersion", "state", "checksum"].map fun name =>
      (quote name).length + 2).sum = 54 := by decide +kernel
  have hfields : (render (format.envelope localeCompare state)).length ≤ 54 +
      (17 + (17 + ((render (format.serializeValue state)).length + (98 + 0)))) + 2 := by
    rw [← hnames]
    exact length_render_obj_le _ rfl (.cons (length_number_le hschema)
      (.cons (length_number_le hversion) (.cons le_rfl (.cons (hchecksum _) .nil))))
  omega

end Pootown.Snapshot
