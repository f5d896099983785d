import Mathlib.Data.String.Basic
import Mathlib.Tactic
import Pootown.Api.Schema
import Pootown.Library.Base64
import Pootown.Library.IsoTime
import Pootown.Library.JsonText
import Pootown.Library.Pagination
import Pootown.Serialization.Fields

/-!
# Listings

The three listings with cursors: open sessions, the operations of an account, finished sessions.
A cursor holds the time of the last row shown, as the text of a date, and its id.

* `Listing`: what they differ in; `listSessions`, `listOperations`, `history`;
* `Listing.encodeCursor`, `Listing.decodeCursor`, and `decodeCursor_encodeCursor`;
* `Listing.list`: one page;
* `Listing.complete_iff`: when following the cursors lists every row once and in order.

The database counts microseconds, a date milliseconds: the cursor stands for the beginning of the
millisecond of its row.
-/

namespace Pootown.Api

open CanonicalJson IsoTime JsonText Pagination Tables

/-! ### Rows and cursors -/

/-- A row that the query of a listing matches: its time in microseconds, its id, its other
columns. -/
structure ListedRow (ι ν : Type) where
  timestamp : ℤ
  id : ι
  view : ν

/-- The date a time of the database is read as; what is below a millisecond is cut off. -/
def getTime (timestamp : ℤ) : ℤ := timestamp / 1000

/-- What the listings differ in. `δ` is the type of the ids as the cursor compares them, `γ` that of
the ids as `ORDER BY` does. -/
structure Listing (ι γ δ : Type) where
  /-- The name of the time in a cursor. -/
  timeField : String
  /-- The text of the failure on a cursor that is none. -/
  cursorMessage : String
  /-- The cursor must be the canonical text of its bytes. -/
  canonical : Bool
  idText : ι → String
  /-- The id of a text in a cursor. -/
  readId : String → Option ι
  orderKey : ι → γ
  idKey : ι → δ
  /-- The response schema on an id, where the response shows it. -/
  validId : ι → Bool

variable {ι ν γ δ : Type}

section Listing

variable [LinearOrder γ] [LinearOrder δ] (listing : Listing ι γ δ)

/-- `JSON.stringify`, and the bytes in base64. -/
def Listing.encodeCursor (row : ListedRow ι ν) : String :=
  Base64.encode (String.ofList (render (.obj [
    (listing.timeField, .str (toISOString (getTime row.timestamp))),
    ("id", .str (listing.idText row.id))]))).toUTF8.data.toList

/-- The time and the id of a cursor. Bytes that are no text are refused here. -/
def Listing.decodeCursor (cursor : String) : Option (String × ι) :=
  if listing.canonical ∧ Base64.encode (Base64.decode cursor) ≠ cursor then none
  else do
    let text ← String.fromUTF8? ⟨(Base64.decode cursor).toArray⟩
    match parseJson text with
    | some (.obj fields) =>
      match fields.length, fields.lookup listing.timeField, fields.lookup "id" with
      | 2, some (.str time), some (.str id) =>
        let date ← readISOString time
        if IsTime date ∧ toISOString date = time then
          (listing.readId id).map fun id => (time, id)
        else none
      | _, _, _ => none
    | _ => none

/-- `ORDER BY` time and id, both descending. -/
def Listing.orderedRows (rows : List (ListedRow ι ν)) : List (ListedRow ι ν) :=
  orderBy (fun row => OrderDual.toDual (toLex (row.timestamp, listing.orderKey row.id))) rows

/-- A time and an id as the condition of the query compares them. -/
def Listing.cursorKey (timestamp : ℤ) (id : ι) : ℤ ×ₗ δ := toLex (timestamp, listing.idKey id)

/-- The condition of the query; `timestamptz` reads the time of a text. -/
def Listing.boundary (timestamptz : String → Option ℤ) :
    Option String → Except Failure (ListedRow ι ν → Bool)
  | none => .ok fun _ => true
  | some cursor =>
    match listing.decodeCursor cursor with
    | none => .error (.http .requestInvalid 400 listing.cursorMessage)
    | some (time, id) =>
      match timestamptz time with
      | none => .error (.database "timestamptz")
      | some timestamp => .ok fun row =>
        decide (listing.cursorKey row.timestamp row.id < listing.cursorKey timestamp id)

/-- The response schema on an item: its time is that of a date, not before 1970. -/
def Listing.validItem (validView : ν → Bool) (row : ListedRow ι ν) : Bool :=
  decide (0 ≤ getTime row.timestamp ∧ IsTime (getTime row.timestamp)) && listing.validId row.id &&
    validView row.view

/-- The response schema on the items of a page. -/
def Listing.validItems (validView : ν → Bool) (items : List (ListedRow ι ν)) : Bool :=
  items.all (listing.validItem validView) && decide (items.length ≤ 100)

/-- One page of the matching rows. -/
def Listing.list (timestamptz : String → Option ℤ) (validView : ν → Bool)
    (rows : List (ListedRow ι ν)) (limit : ℕ) (cursor : Option String) :
    Except Failure (Page (ListedRow ι ν) String) := do
  let selects ← listing.boundary timestamptz cursor
  let result := ((listing.orderedRows rows).filter selects).take (limit + 1)
  let items := result.take limit
  if listing.validItems validView items then
    return ⟨items, if limit < result.length then
      items.getLast?.map listing.encodeCursor else none⟩
  else .error .contract

end Listing

/-! ### The three listings -/

section Listings

variable (collate : String ↪ γ)

/-- Sessions, by their creation. -/
def listSessions : Listing String γ γ where
  timeField := "createdAt"
  cursorMessage := "Session cursor is invalid"
  canonical := false
  idText := id
  readId := fun id => if validOpaqueId id then some id else none
  orderKey := collate
  idKey := collate
  validId := validOpaqueId

/-- The operations of an account, by their creation. -/
def listOperations : Listing String γ γ where
  timeField := "createdAt"
  cursorMessage := "Operation cursor is invalid"
  canonical := false
  idText := id
  readId := fun id => if utf16Length id ≠ 0 ∧ utf16Length id ≤ 128 then some id else none
  orderKey := collate
  idKey := collate
  validId := validOpaqueId

/-- The ids an identity column of type `bigint` hands out. -/
abbrev IdentityId : Type := { id : ℕ // 1 ≤ id ∧ id ≤ 9223372036854775807 }

/-- The text of an id, as `id::text` writes it. -/
def identityText (id : IdentityId) : String := String.ofList (Nat.toDigits 10 id.1)

def readIdentity (text : String) : Option IdentityId :=
  let value := Checksums.readDigits 10 0 text.toList
  if h : text.toList.all Char.isDigit ∧ text.toList.head? ≠ some '0' ∧
      1 ≤ text.toList.length ∧ text.toList.length ≤ 19 ∧
      1 ≤ value ∧ value ≤ 9223372036854775807 then
    some ⟨value, h.2.2.2.2⟩
  else none

/-- The finished sessions of a player. The query selects `id::text`, whose name is `id` as well, and
in `ORDER BY` a name is first that of a selected column: rows of one time come in the order of the
texts of their ids. The condition compares the ids themselves. -/
def history : Listing IdentityId γ ℕ where
  timeField := "finishedAt"
  cursorMessage := "History cursor is invalid"
  canonical := true
  idText := identityText
  readId := readIdentity
  orderKey := fun id => collate (identityText id)
  idKey := Subtype.val
  validId := fun _ => true

end Listings

/-! ### Cursors are read back -/

/-- What the law of a listing rests on: names in a cursor differ, an id that is shown is read back,
and keys tell ids apart. -/
structure Listing.Lawful (listing : Listing ι γ δ) : Prop where
  field_ne : listing.timeField ≠ "id"
  readId_idText : ∀ id, listing.validId id = true → listing.readId (listing.idText id) = some id
  orderKey_injective : Function.Injective listing.orderKey

/-- The database reads the text of a date as its time, when it reads it. -/
def ReadsDates (timestamptz : String → Option ℤ) : Prop :=
  ∀ time timestamp, IsTime time → timestamptz (toISOString time) = some timestamp →
    timestamp = 1000 * time

section Keys

variable [LinearOrder δ] (listing : Listing ι γ δ)

/-- A row as the condition of the query compares it. -/
def Listing.key (row : ListedRow ι ν) : ℤ ×ₗ δ := listing.cursorKey row.timestamp row.id

/-- Where the cursor of a row stands: at the beginning of its millisecond. -/
def Listing.cursorPlace (row : ListedRow ι ν) : ℤ ×ₗ δ :=
  listing.cursorKey (1000 * getTime row.timestamp) row.id

theorem cursorPlace_le (row : ListedRow ι ν) : listing.cursorPlace row ≤ listing.key row := by
  have hle : 1000 * getTime row.timestamp ≤ row.timestamp := Int.mul_ediv_self_le (by decide)
  refine Prod.Lex.toLex_le_toLex.2 ?_
  rcases hle.lt_or_eq with hlt | heq
  · exact .inl hlt
  · exact .inr ⟨heq, le_rfl⟩

end Keys

section Laws

variable {listing : Listing ι γ δ} {row : ListedRow ι ν} {rows : List (ListedRow ι ν)}
  {validView : ν → Bool} {timestamptz : String → Option ℤ} {limit : ℕ}

theorem validItem_date (h : listing.validItem validView row = true) :
    IsTime (getTime row.timestamp) ∧ listing.validId row.id = true := by
  simp only [Listing.validItem, Bool.and_eq_true, decide_eq_true_eq] at h
  exact ⟨h.1.1.2, h.1.2⟩

theorem decodeCursor_encodeCursor (hl : listing.Lawful)
    (hvalid : listing.validItem validView row = true) :
    listing.decodeCursor (listing.encodeCursor row) =
      some (toISOString (getTime row.timestamp), row.id) := by
  obtain ⟨htime, hid⟩ := validItem_date hvalid
  have hplain : Plain (.obj [
      (listing.timeField, .str (toISOString (getTime row.timestamp))),
      ("id", .str (listing.idText row.id))]) := by
    refine .obj (by simp [hl.field_ne]) fun field hfield => ?_
    simp only [List.mem_cons, List.not_mem_nil, or_false] at hfield
    rcases hfield with rfl | rfl
    · exact .str _
    · exact .str _
  have hid' : ("id" == listing.timeField) = false := by
    rw [beq_eq_false_iff_ne]
    exact hl.field_ne.symm
  rw [Listing.decodeCursor, Listing.encodeCursor, Base64.decode_encode, if_neg (by simp),
    Base64.fromUTF8_toUTF8]
  simp only [Option.bind_eq_bind, Option.bind_some, parseJson_render hplain, List.length_cons,
    List.length_nil, List.lookup_cons, beq_self_eq_true, hid', readISOString_toISOString htime]
  rw [if_pos ⟨htime, trivial⟩, hl.readId_idText row.id hid]
  rfl

theorem mem_orderedRows [LinearOrder γ] : row ∈ listing.orderedRows rows ↔ row ∈ rows :=
  mem_orderBy

theorem nodup_orderedRows [LinearOrder γ] (hnodup : (rows.map ListedRow.id).Nodup) :
    ((listing.orderedRows rows).map ListedRow.id).Nodup :=
  ((orderBy_perm _ rows).map _).nodup_iff.2 hnodup

theorem pairwise_orderedRows [LinearOrder γ] :
    (listing.orderedRows rows).Pairwise fun row later => later.timestamp < row.timestamp ∨
      later.timestamp = row.timestamp ∧ listing.orderKey later.id ≤ listing.orderKey row.id := by
  refine List.Pairwise.imp (fun {row later} h => ?_) (pairwise_orderBy
    (fun row => OrderDual.toDual (toLex (row.timestamp, listing.orderKey row.id))) rows)
  rwa [OrderDual.toDual_le_toDual, Prod.Lex.toLex_le_toLex] at h

/-- The pages can be served when every row is valid and no page is too long. -/
theorem served_iff [LinearOrder γ] (hvalid : ∀ row ∈ rows, listing.validItem validView row = true) :
    Served limit (listing.validItems validView) (listing.orderedRows rows) ↔
      min limit rows.length ≤ 100 := by
  have hlength : (listing.orderedRows rows).length = rows.length := (orderBy_perm _ rows).length_eq
  have hitems : ∀ k, listing.validItems validView
      (((listing.orderedRows rows).drop (k * limit)).take limit) = true ↔
        min limit (rows.length - k * limit) ≤ 100 := by
    intro k
    have hall : ∀ row ∈ ((listing.orderedRows rows).drop (k * limit)).take limit,
        listing.validItem validView row = true := fun row hrow =>
      hvalid row (mem_orderedRows.1 (List.mem_of_mem_drop (List.mem_of_mem_take hrow)))
    rw [Listing.validItems, List.all_eq_true.2 hall, Bool.true_and, decide_eq_true_eq,
      List.length_take, List.length_drop, hlength]
  constructor
  · intro hserved
    have hfirst := (hitems 0).1 (hserved 0 (.inl rfl))
    rwa [zero_mul, Nat.sub_zero] at hfirst
  · intro hshort k _
    exact (hitems k).2 ((min_le_min_left limit (Nat.sub_le ..)).trans hshort)

variable [LinearOrder δ]

theorem list_toOption [LinearOrder γ] (cursor : Option String) :
    (listing.list timestamptz validView rows limit cursor).toOption =
      keysetPage limit listing.encodeCursor
        (fun cursor => (listing.boundary timestamptz cursor).toOption)
        (listing.validItems validView) (listing.orderedRows rows) cursor := by
  unfold Listing.list keysetPage
  dsimp only
  cases (listing.boundary timestamptz cursor : Except Failure (ListedRow ι ν → Bool)) with
  | error failure => rfl
  | ok selects =>
    simp only [Except.toOption, Option.bind_some, bind, Except.bind]
    by_cases hserved : listing.validItems validView
        ((((listing.orderedRows rows).filter selects).take (limit + 1)).take limit) = true
    · simp only [if_pos hserved]
      rfl
    · simp only [if_neg hserved]

/-- The cursor of a row that was shown selects what lies below its place. -/
theorem boundary_encodeCursor (hl : listing.Lawful) (hread : ReadsDates timestamptz)
    (hvalid : listing.validItem validView row = true) :
    (listing.boundary timestamptz (some (listing.encodeCursor row)) :
        Except Failure (ListedRow ι ν → Bool)).toOption =
      (timestamptz (toISOString (getTime row.timestamp))).map fun _ other =>
        decide (listing.key other < listing.cursorPlace row) := by
  simp only [Listing.boundary, decodeCursor_encodeCursor hl hvalid]
  cases htimestamp : timestamptz (toISOString (getTime row.timestamp)) with
  | none => rfl
  | some timestamp =>
    obtain rfl := hread _ _ (validItem_date hvalid).1 htimestamp
    rfl

/-- What a cursor selects is closed downwards. -/
theorem boundary_mono {cursor : Option String} {selects : ListedRow ι ν → Bool}
    {other : ListedRow ι ν} (h : (listing.boundary timestamptz cursor).toOption = some selects)
    (hrow : selects row = true) (hle : listing.key other ≤ listing.key row) :
    selects other = true := by
  cases cursor with
  | none =>
    obtain rfl := Option.some.inj h
    rfl
  | some cursor =>
    simp only [Listing.boundary] at h
    split at h
    · exact nomatch h
    · split at h
      · exact nomatch h
      · obtain rfl := Option.some.inj h
        exact decide_eq_true (hle.trans_lt (of_decide_eq_true hrow))

theorem descends [LinearOrder γ] (hl : listing.Lawful) (hread : ReadsDates timestamptz)
    (hvalid : ∀ row ∈ rows, listing.validItem validView row = true) :
    Descends listing.encodeCursor
      (fun cursor => (listing.boundary timestamptz cursor).toOption)
      (listing.orderedRows rows) := by
  intro cursor selects row selects' row' hselect hrow hsel hselect' _ hsel'
  simp only [boundary_encodeCursor hl hread (hvalid row (mem_orderedRows.1 hrow)),
    Option.map_eq_some_iff] at hselect'
  obtain ⟨-, -, rfl⟩ := hselect'
  have hlt : listing.key row' < listing.cursorPlace row := of_decide_eq_true hsel'
  exact boundary_mono hselect hsel (hlt.trans_le (cursorPlace_le listing row)).le

end Laws

/-! ### When nothing is lost -/

section Complete

variable [LinearOrder γ] [LinearOrder δ] (listing : Listing ι γ δ)
  (timestamptz : String → Option ℤ) (validView : ν → Bool)
  (rows : List (ListedRow ι ν)) (limit : ℕ)

/-- Following the cursors from the first page until there is none lists every matching row once and
in the descending order of time and id, and every cursor on a page is accepted. -/
structure Listing.LosesNothing : Prop where
  complete : ∃ listed,
    Follows (fun cursor => (listing.list timestamptz validView rows limit cursor).toOption)
      none listed ∧
    listed.Perm rows ∧ listed.Pairwise fun row later => listing.key later < listing.key row
  accepted : ∀ cursor shown after,
    listing.list timestamptz validView rows limit cursor = .ok shown →
    shown.nextCursor = some after → (listing.decodeCursor after).isSome = true

/-- A row that fills a page: the number of rows down to it is a multiple of the limit. -/
def Listing.FillsPage (row : ListedRow ι ν) : Prop :=
  limit ∣ rows.countP fun other => decide (listing.key row ≤ listing.key other)

/-- What keeps a listing complete. -/
structure Listing.CutsCleanly : Prop where
  /-- Every row passes the response schema. -/
  valid : ∀ row ∈ rows, listing.validItem validView row = true
  /-- No page has more items than the response schema lets pass. -/
  short : min limit rows.length ≤ 100
  /-- Rows of one time have the order of their keys in `ORDER BY` as well. -/
  ties : ∀ row ∈ rows, ∀ other ∈ rows, row.timestamp = other.timestamp →
    listing.orderKey row.id < listing.orderKey other.id →
    listing.idKey row.id < listing.idKey other.id
  /-- Where rows are left after a page, the database reads the time of its last row from the cursor,
  and none of them lies behind the place of the cursor. -/
  cut : ∀ row ∈ rows, listing.FillsPage rows limit row → ∀ later ∈ rows,
    listing.key later < listing.key row →
    (timestamptz (toISOString (getTime row.timestamp))).isSome = true ∧
      listing.key later < listing.cursorPlace row

end Complete

section Complete

variable [LinearOrder γ] [LinearOrder δ] {listing : Listing ι γ δ} {row : ListedRow ι ν}
  {rows : List (ListedRow ι ν)}
  {validView : ν → Bool} {timestamptz : String → Option ℤ} {limit : ℕ}

/-- The rows come in the descending order of time and id when ties do. -/
theorem pairwise_key_iff (hl : listing.Lawful) (hnodup : (rows.map ListedRow.id).Nodup) :
    ((listing.orderedRows rows).Pairwise fun row later => listing.key later < listing.key row) ↔
      ∀ row ∈ rows, ∀ other ∈ rows, row.timestamp = other.timestamp →
        listing.orderKey row.id < listing.orderKey other.id →
        listing.idKey row.id < listing.idKey other.id := by
  have hordered : (listing.orderedRows rows).Pairwise _ := pairwise_orderedRows
  constructor
  · intro hkeys row hrow other hother htime horder
    have hrow' : row ∈ listing.orderedRows rows := mem_orderedRows.2 hrow
    have hother' : other ∈ listing.orderedRows rows := mem_orderedRows.2 hother
    obtain ⟨before, after, hsplit⟩ := List.append_of_mem hrow'
    rw [hsplit] at hkeys hordered hother'
    rcases List.mem_append.1 hother' with hbefore | hafter
    · have hlt : listing.key row < listing.key other :=
        (List.pairwise_append.1 hkeys).2.2 other hbefore row (List.mem_cons_self ..)
      rcases Prod.Lex.toLex_lt_toLex.1 hlt with hless | ⟨-, hid⟩
      · exact absurd htime hless.ne
      · exact hid
    · rcases List.mem_cons.1 hafter with rfl | hafter
      · exact absurd horder (lt_irrefl _)
      · rcases List.rel_of_pairwise_cons (List.pairwise_append.1 hordered).2.1 hafter with
          hlt | ⟨-, hle⟩
        · exact absurd htime.symm hlt.ne
        · exact absurd horder hle.not_gt
  · intro hties
    have hids : (listing.orderedRows rows).Pairwise _ :=
      List.pairwise_map.1 (nodup_orderedRows hnodup)
    refine (hordered.and hids).imp_of_mem fun {row later} hrow hlater h => ?_
    obtain ⟨htime | ⟨htime, horder⟩, hid⟩ := h
    · exact Prod.Lex.toLex_lt_toLex.2 (.inl htime)
    · have hlt := horder.lt_of_ne fun heq => hid (hl.orderKey_injective heq).symm
      exact Prod.Lex.toLex_lt_toLex.2 (.inr ⟨htime, hties later (mem_orderedRows.1 hlater) row
        (mem_orderedRows.1 hrow) htime hlt⟩)

theorem fillsPage_iff {i : ℕ} (hkeys : (listing.orderedRows rows).Pairwise fun row later =>
    listing.key later < listing.key row) (hrow : (listing.orderedRows rows)[i]? = some row) :
    listing.FillsPage rows limit row ↔ limit ∣ i + 1 := by
  have hcount := (orderBy_perm (fun row : ListedRow ι ν =>
    OrderDual.toDual (toLex (row.timestamp, listing.orderKey row.id))) rows).countP_eq
      fun other => decide (listing.key row ≤ listing.key other)
  rw [Listing.FillsPage, ← hcount]
  exact Eq.to_iff (congrArg (limit ∣ ·) (countP_key_le hkeys hrow))

/-- The cursor of a row selects the rows after it when all of these lie below its place. -/
theorem selects_rest_iff {i : ℕ} (hl : listing.Lawful) (hread : ReadsDates timestamptz)
    (hvalid : listing.validItem validView row = true)
    (hkeys : (listing.orderedRows rows).Pairwise fun row later =>
      listing.key later < listing.key row)
    (hrow : (listing.orderedRows rows)[i]? = some row) :
    (∃ selects, (listing.boundary timestamptz (some (listing.encodeCursor row))).toOption =
        some selects ∧
      (listing.orderedRows rows).filter selects = (listing.orderedRows rows).drop (i + 1)) ↔
    (timestamptz (toISOString (getTime row.timestamp))).isSome = true ∧
      ∀ later ∈ rows, listing.key later < listing.key row →
        listing.key later < listing.cursorPlace row := by
  have hfilter := filter_key_lt_eq_drop_iff hkeys hrow (cursorPlace_le listing row)
  simp only [mem_orderedRows] at hfilter
  rw [boundary_encodeCursor hl hread hvalid]
  cases timestamptz (toISOString (getTime row.timestamp)) with
  | none => simp
  | some timestamp =>
    simp only [Option.map_some, Option.some.injEq, exists_eq_left', Option.isSome_some, true_and]
    exact hfilter

/-- Every cursor on the way selects the rows after its own when every page is cut cleanly. -/
theorem selectsRest_iff (hl : listing.Lawful) (hread : ReadsDates timestamptz) (hlimit : 0 < limit)
    (hvalid : ∀ row ∈ rows, listing.validItem validView row = true)
    (hkeys : (listing.orderedRows rows).Pairwise fun row later =>
      listing.key later < listing.key row) :
    SelectsRest limit listing.encodeCursor
        (fun cursor => (listing.boundary timestamptz cursor).toOption)
        (listing.orderedRows rows) ↔
      ∀ row ∈ rows, listing.FillsPage rows limit row → ∀ later ∈ rows,
        listing.key later < listing.key row →
        (timestamptz (toISOString (getTime row.timestamp))).isSome = true ∧
          listing.key later < listing.cursorPlace row := by
  constructor
  · intro hrest row hrow hfills later hlater hlt
    have hmem : row ∈ listing.orderedRows rows := mem_orderedRows.2 hrow
    obtain ⟨i, hrow'⟩ := List.mem_iff_getElem?.1 hmem
    obtain ⟨k, hk⟩ := (fillsPage_iff hkeys hrow').1 hfills
    have hplace : k * limit = i + 1 := by rw [hk, mul_comm]
    have hafter := (key_lt_iff_mem_drop hkeys hrow' (mem_orderedRows.2 hlater)).1 hlt
    have hleft := List.length_pos_of_mem hafter
    rw [List.length_drop] at hleft
    have hpos : 0 < k := by
      refine Nat.pos_of_ne_zero fun hzero => ?_
      rw [hzero, zero_mul] at hplace
      exact absurd hplace (Nat.succ_ne_zero i).symm
    have hselected := hrest k row hpos (by omega) (by rwa [hplace])
    rw [hplace] at hselected
    obtain ⟨hreads, hall⟩ := (selects_rest_iff hl hread (hvalid row hrow) hkeys hrow').1 hselected
    exact ⟨hreads, hall later hlater hlt⟩
  · intro hcut k row hpos hlt hrow
    have hplace : k * limit = k * limit - 1 + 1 :=
      (Nat.sub_add_cancel (Nat.mul_pos hpos hlimit)).symm
    have hmem := mem_orderedRows.1 (List.mem_of_getElem? hrow)
    have hfills := (fillsPage_iff hkeys hrow).2 (hplace ▸ dvd_mul_left limit k)
    obtain ⟨later, hlater⟩ : ∃ later, later ∈ (listing.orderedRows rows).drop (k * limit) :=
      List.exists_mem_of_length_pos (by rw [List.length_drop]; omega)
    have hlater' := List.mem_of_mem_drop hlater
    rw [hplace] at hlater
    have hbelow := (key_lt_iff_mem_drop hkeys hrow hlater').2 hlater
    rw [hplace]
    refine (selects_rest_iff hl hread (hvalid row hmem) hkeys hrow).2 ⟨?_, ?_⟩
    · exact (hcut row hmem hfills later (mem_orderedRows.1 hlater') hbelow).1
    · exact fun later hlater hless => (hcut row hmem hfills later hlater hless).2

/-- The cursor on a page is accepted. -/
theorem accepted (hl : listing.Lawful) {cursor : Option String}
    {shown : Page (ListedRow ι ν) String} {after : String}
    (hvalid : ∀ row ∈ rows, listing.validItem validView row = true)
    (h : listing.list timestamptz validView rows limit cursor = .ok shown)
    (hafter : shown.nextCursor = some after) : (listing.decodeCursor after).isSome = true := by
  have hpage := (list_toOption cursor).symm.trans (congrArg Except.toOption h)
  obtain ⟨selects, -, hserved, rfl⟩ := keysetPage_eq_some hpage
  obtain ⟨-, hlast⟩ := Option.ite_none_right_eq_some.1 hafter
  obtain ⟨row, hrow, rfl⟩ := Option.map_eq_some_iff.1 hlast
  have hmem := List.mem_of_mem_filter (List.mem_of_mem_take (List.mem_of_getLast? hrow))
  rw [decodeCursor_encodeCursor hl (hvalid row (mem_orderedRows.1 hmem))]
  rfl

theorem complete_iff (hl : listing.Lawful) (hread : ReadsDates timestamptz) (hlimit : 0 < limit)
    (hnodup : (rows.map ListedRow.id).Nodup) :
    listing.LosesNothing timestamptz validView rows limit ↔
      listing.CutsCleanly timestamptz validView rows limit := by
  have hpage : (fun cursor => (listing.list timestamptz validView rows limit cursor).toOption) =
      keysetPage limit listing.encodeCursor
        (fun cursor => (listing.boundary timestamptz cursor).toOption)
        (listing.validItems validView) (listing.orderedRows rows) := funext list_toOption
  have hrows : (listing.orderedRows rows).Nodup := (nodup_orderedRows hnodup).of_map _
  have hperm : (listing.orderedRows rows).Perm rows := orderBy_perm _ rows
  constructor
  · rintro ⟨⟨listed, hfollows, hlisted, hkeys⟩, -⟩
    rw [hpage] at hfollows
    have hvalid : ∀ row ∈ rows, listing.validItem validView row = true := fun row hrow =>
      hfollows.forall_mem (P := fun row => listing.validItem validView row = true)
        (fun items hitems => List.all_eq_true.1 (Bool.and_eq_true_iff.1 hitems).1) row
        (hlisted.mem_iff.2 hrow)
    have hdescends := descends hl hread hvalid
    obtain rfl := hfollows.eq_of_perm hlimit hrows hdescends (hlisted.trans hperm.symm)
    obtain ⟨hserved, hrest⟩ := (exists_follows_perm_iff hlimit hrows rfl hdescends).1
      ⟨_, hfollows, .refl _⟩
    exact ⟨hvalid, (served_iff hvalid).1 hserved, (pairwise_key_iff hl hnodup).1 hkeys,
      (selectsRest_iff hl hread hlimit hvalid hkeys).1 hrest⟩
  · rintro ⟨hvalid, hshort, hties, hcut⟩
    have hkeys := (pairwise_key_iff hl hnodup).2 hties
    have hdescends := descends hl hread hvalid
    obtain ⟨listed, hfollows, hlisted⟩ := (exists_follows_perm_iff hlimit hrows rfl hdescends).2
      ⟨(served_iff hvalid).2 hshort, (selectsRest_iff hl hread hlimit hvalid hkeys).2 hcut⟩
    obtain rfl := hfollows.eq_of_perm hlimit hrows hdescends hlisted
    rw [← hpage] at hfollows
    exact ⟨⟨_, hfollows, hperm, hkeys⟩, fun cursor shown after => accepted hl hvalid⟩

end Complete

/-! ### The three listings are lawful -/

theorem lawful_listSessions (collate : String ↪ γ) : (listSessions collate).Lawful where
  field_ne := by simp [listSessions]
  readId_idText := fun _ hid => if_pos hid
  orderKey_injective := collate.injective

theorem lawful_listOperations (collate : String ↪ γ) : (listOperations collate).Lawful where
  field_ne := by simp [listOperations]
  readId_idText := fun id hid => by
    obtain ⟨hpos, hle⟩ := Snapshot.validOpaqueId_length hid
    exact if_pos ⟨(Nat.lt_of_succ_le hpos).ne', hle⟩
  orderKey_injective := collate.injective

theorem readIdentity_identityText (id : IdentityId) : readIdentity (identityText id) = some id := by
  obtain ⟨id, hpos, hle⟩ := id
  have hread := Checksums.readDigits_toDigits (by decide) (by decide : 10 ≤ 16) id
  have hlength : (Nat.toDigits 10 id).length ≤ 19 :=
    (Nat.length_toDigits_le_iff (by decide) (by decide)).2 (hle.trans_lt (by decide))
  have hdigits : (Nat.toDigits 10 id).all Char.isDigit = true :=
    List.all_eq_true.2 fun _ hdigit => Nat.isDigit_of_mem_toDigits (by decide) (by decide) hdigit
  simp only [readIdentity, identityText, String.toList_ofList, hread]
  exact dif_pos ⟨hdigits, head_toDigits_ne_zero hpos, Nat.length_toDigits_pos, hlength, hpos, hle⟩

theorem lawful_history (collate : String ↪ γ) : (history collate).Lawful where
  field_ne := by simp [history]
  readId_idText := fun id _ => readIdentity_identityText id
  orderKey_injective := collate.injective.comp fun id id' h =>
    Option.some.inj ((readIdentity_identityText id).symm.trans
      ((congrArg readIdentity h).trans (readIdentity_identityText id')))

/-! ### What the cursors lose -/

/-- Following the cursors of a listing loses nothing exactly when every page is cut cleanly. -/
theorem pagination_loses_nothing_iff [LinearOrder γ] (collate : String ↪ γ)
    (timestamptz : String → Option ℤ) (validView : ν → Bool) (limit : ℕ)
    (hread : ReadsDates timestamptz) (hlimit : 1 ≤ limit) :
    (∀ rows : List (ListedRow String ν), (rows.map ListedRow.id).Nodup →
      ((listSessions collate).LosesNothing timestamptz validView rows limit ↔
        (listSessions collate).CutsCleanly timestamptz validView rows limit)) ∧
    (∀ rows : List (ListedRow String ν), (rows.map ListedRow.id).Nodup →
      ((listOperations collate).LosesNothing timestamptz validView rows limit ↔
        (listOperations collate).CutsCleanly timestamptz validView rows limit)) ∧
    (∀ rows : List (ListedRow IdentityId ν), (rows.map ListedRow.id).Nodup →
      ((history collate).LosesNothing timestamptz validView rows limit ↔
        (history collate).CutsCleanly timestamptz validView rows limit)) :=
  ⟨fun _ => complete_iff (lawful_listSessions collate) hread hlimit,
    fun _ => complete_iff (lawful_listOperations collate) hread hlimit,
    fun _ => complete_iff (lawful_history collate) hread hlimit⟩

theorem readsDates_readISOString :
    ReadsDates fun text => (readISOString text).map (1000 * ·) := by
  intro time timestamp htime htimestamp
  simp only [readISOString_toISOString htime, Option.map_some, Option.some.injEq] at htimestamp
  exact htimestamp.symm

/-- Two operations of different milliseconds, one a page. -/
theorem pagination_loses_nothing_iff_apart :
    (listOperations (.refl String)).LosesNothing
      (fun text => (readISOString text).map (1000 * ·)) (fun _ => true)
      [⟨200200, "grant", ()⟩, ⟨100100, "reserve", ()⟩] 1 := by
  refine ((pagination_loses_nothing_iff (.refl String) _ _ 1 readsDates_readISOString le_rfl).2.1
    _ (by decide)).2 ⟨by decide, by decide, ?_, ?_⟩
  · intro row hrow other hother htime horder
    simp only [List.mem_cons, List.not_mem_nil, or_false] at hrow hother
    rcases hrow with rfl | rfl <;> rcases hother with rfl | rfl
    · exact absurd horder (lt_irrefl _)
    · exact absurd htime (by decide)
    · exact absurd htime (by decide)
    · exact absurd horder (lt_irrefl _)
  · intro row hrow _ later hlater hlt
    simp only [List.mem_cons, List.not_mem_nil, or_false] at hrow hlater
    rcases hrow with rfl | rfl <;> rcases hlater with rfl | rfl
    · exact absurd hlt (lt_irrefl _)
    · rw [readISOString_toISOString (by decide)]
      exact ⟨rfl, Prod.Lex.toLex_lt_toLex.2 (.inl (by decide))⟩
    · exact absurd (Prod.Lex.toLex_lt_toLex.1 hlt) (by decide)
    · exact absurd hlt (lt_irrefl _)

/-- Two operations of one millisecond, one a page: the cursor of the first skips the second. -/
theorem not_listOperations_losesNothing :
    ¬ (listOperations (.refl String)).LosesNothing
      (fun text => (readISOString text).map (1000 * ·)) (fun _ => true)
      [⟨100200, "grant", ()⟩, ⟨100100, "reserve", ()⟩] 1 := by
  rw [complete_iff (lawful_listOperations _) readsDates_readISOString one_pos (by decide)]
  rintro ⟨-, -, -, hcut⟩
  obtain ⟨-, hplace⟩ := hcut ⟨100200, "grant", ()⟩ (by simp) (one_dvd _) ⟨100100, "reserve", ()⟩
    (by simp) (Prod.Lex.toLex_lt_toLex.2 (.inl (by decide)))
  exact absurd (Prod.Lex.toLex_lt_toLex.1 hplace) (by decide)

end Pootown.Api
