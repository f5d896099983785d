import Mathlib.Tactic

/-!
# Pages behind cursors

A listing hands out the first rows of a table in its order, and with them a cursor made from the
last one; the next page takes the rows that the cursor selects.

* `Follows`: the pages from a cursor on, as long as there is a next one;
* `keysetPage`: a page of at most `limit` rows, with one more read ahead;
* `exists_follows_perm_iff`: following the cursors lists every row exactly once if and only if
  every page is served and every cursor on the way selects the rows after its own;
* `countP_key_le`, `filter_key_lt_eq_drop_iff`: rows in the descending order of a key.
-/

namespace Pagination

variable {ρ κ : Type*}

structure Page (ρ κ : Type*) where
  items : List ρ
  nextCursor : Option κ

/-- `listed` is what the pages from `cursor` on show, up to one without a next cursor. -/
inductive Follows (page : Option κ → Option (Page ρ κ)) : Option κ → List ρ → Prop
  | last {cursor : Option κ} {shown : Page ρ κ} : page cursor = some shown →
      shown.nextCursor = none → Follows page cursor shown.items
  | next {cursor : Option κ} {shown : Page ρ κ} {after : κ} {listed : List ρ} :
      page cursor = some shown → shown.nextCursor = some after →
      Follows page (some after) listed → Follows page cursor (shown.items ++ listed)

section Keyset

variable (limit : ℕ) (encode : ρ → κ) (select : Option κ → Option (ρ → Bool))
  (served : List ρ → Bool) (rows : List ρ)

/-- The page at a cursor: none when the cursor is refused, or the page cannot be served. -/
def keysetPage (cursor : Option κ) : Option (Page ρ κ) :=
  (select cursor).bind fun selects =>
    let result := (rows.filter selects).take (limit + 1)
    let items := result.take limit
    if served items then
      some ⟨items, if limit < result.length then items.getLast?.map encode else none⟩
    else none

/-- Every page of the rows, cut into pages one after the other, can be served. -/
def Served : Prop :=
  ∀ k, k = 0 ∨ k * limit < rows.length → served ((rows.drop (k * limit)).take limit) = true

/-- Every cursor made at the end of a page, when rows are left, selects these. -/
def SelectsRest : Prop :=
  ∀ k row, 0 < k → k * limit < rows.length → rows[k * limit - 1]? = some row →
    ∃ selects, select (some (encode row)) = some selects ∧
      rows.filter selects = rows.drop (k * limit)

/-- What the cursor of a selected row selects is selected. -/
def Descends : Prop :=
  ∀ cursor selects row selects' row', select cursor = some selects → row ∈ rows →
    selects row = true → select (some (encode row)) = some selects' → row' ∈ rows →
    selects' row' = true → selects row' = true

end Keyset

section Following

variable {limit : ℕ} {encode : ρ → κ} {select : Option κ → Option (ρ → Bool)}
  {served : List ρ → Bool} {rows listed : List ρ} {cursor : Option κ} {shown : Page ρ κ}
  {selects : ρ → Bool} {start : ℕ}

/-- A page of the selected rows, with a cursor when there are more. -/
theorem keysetPage_eq (hselect : select cursor = some selects) :
    keysetPage limit encode select served rows cursor =
      if served ((rows.filter selects).take limit) then
        some ⟨(rows.filter selects).take limit,
          if limit < (rows.filter selects).length then
            ((rows.filter selects).take limit).getLast?.map encode
          else none⟩
      else none := by
  have htake : ((rows.filter selects).take (limit + 1)).take limit
      = (rows.filter selects).take limit := by
    rw [List.take_take, min_eq_left (Nat.le_succ limit)]
  have hmore : limit < ((rows.filter selects).take (limit + 1)).length ↔
      limit < (rows.filter selects).length := by
    rw [List.length_take]
    omega
  rw [keysetPage, hselect]
  simp only [Option.bind_some, htake, hmore]

theorem keysetPage_eq_some (h : keysetPage limit encode select served rows cursor = some shown) :
    ∃ selects, select cursor = some selects ∧
      served ((rows.filter selects).take limit) = true ∧
      shown = ⟨(rows.filter selects).take limit,
        if limit < (rows.filter selects).length then
          ((rows.filter selects).take limit).getLast?.map encode
        else none⟩ := by
  obtain ⟨selects, hselect, -⟩ := Option.bind_eq_some_iff.1 h
  rw [keysetPage_eq hselect] at h
  obtain ⟨hserved, h⟩ := Option.ite_none_right_eq_some.1 h
  exact ⟨selects, hselect, hserved, (Option.some.inj h).symm⟩

/-- The last row of the page that ends before place `start + limit`. -/
theorem getLast?_take_drop (hlimit : 0 < limit) (h : start + limit ≤ rows.length) :
    ((rows.drop start).take limit).getLast? = rows[start + limit - 1]? := by
  rw [List.getLast?_eq_getElem?, List.length_take, List.length_drop,
    min_eq_left (by omega), List.getElem?_take_of_lt (by omega), List.getElem?_drop]
  congr 1
  omega

/-! ### What is served is listed -/

theorem follows_drop (hlimit : 0 < limit) (hserved : Served limit served rows)
    (hrest : SelectsRest limit encode select rows) (k : ℕ)
    (hselect : select cursor = some selects)
    (hfilter : rows.filter selects = rows.drop (k * limit))
    (hk : k = 0 ∨ k * limit < rows.length) :
    Follows (keysetPage limit encode select served rows) cursor (rows.drop (k * limit)) := by
  induction hn : rows.length - k * limit using Nat.strongRecOn generalizing k cursor selects with
  | ind n ih =>
    have hpage : keysetPage limit encode select served rows cursor = _ := keysetPage_eq hselect
    rw [hfilter, if_pos (hserved k hk)] at hpage
    have hlength : (rows.drop (k * limit)).length = rows.length - k * limit := List.length_drop
    have hnext : (k + 1) * limit = k * limit + limit := by ring
    rcases Nat.lt_or_ge limit (rows.drop (k * limit)).length with hmore | hlast
    · have hlt : k * limit + limit < rows.length := by omega
      obtain ⟨row, hrow⟩ : ∃ row, rows[k * limit + limit - 1]? = some row :=
        ⟨_, List.getElem?_eq_getElem (by omega)⟩
      rw [if_pos hmore, getLast?_take_drop hlimit hlt.le, hrow] at hpage
      obtain ⟨selects', hselect', hfilter'⟩ := hrest (k + 1) row (Nat.succ_pos k)
        (hnext ▸ hlt) (hnext ▸ hrow)
      have htail := ih _ (by omega) (k + 1) hselect' hfilter' (.inr (hnext ▸ hlt)) rfl
      have hsplit := Follows.next hpage rfl htail
      rwa [hnext, ← List.drop_drop, List.take_append_drop] at hsplit
    · rw [if_neg (not_lt.2 hlast), List.take_of_length_le hlast] at hpage
      exact .last hpage rfl

/-! ### What is listed was served -/

theorem Follows.exists_select
    (h : Follows (keysetPage limit encode select served rows) cursor listed) :
    ∃ selects, select cursor = some selects := by
  cases h with
  | last hpage =>
    obtain ⟨selects, hselect, -⟩ := keysetPage_eq_some hpage
    exact ⟨selects, hselect⟩
  | next hpage =>
    obtain ⟨selects, hselect, -⟩ := keysetPage_eq_some hpage
    exact ⟨selects, hselect⟩

/-- The pages from a cursor on show rows that the cursor selects. -/
theorem Follows.selected (hdescends : Descends encode select rows)
    (h : Follows (keysetPage limit encode select served rows) cursor listed)
    (hselect : select cursor = some selects) :
    ∀ row ∈ listed, row ∈ rows ∧ selects row = true := by
  induction h generalizing selects with
  | @last cursor shown hpage hnone =>
    obtain ⟨selects', hselect', -, rfl⟩ := keysetPage_eq_some hpage
    obtain rfl : selects = selects' := Option.some.inj (hselect.symm.trans hselect')
    exact fun row hrow => List.mem_filter.1 (List.mem_of_mem_take hrow)
  | @next cursor shown after listed hpage hnext hrest ih =>
    obtain ⟨selects', hselect', -, rfl⟩ := keysetPage_eq_some hpage
    obtain rfl : selects = selects' := Option.some.inj (hselect.symm.trans hselect')
    obtain ⟨selects', hafter⟩ := hrest.exists_select
    have hitems : ∀ row ∈ (rows.filter selects).take limit, row ∈ rows ∧ selects row = true :=
      fun row hrow => List.mem_filter.1 (List.mem_of_mem_take hrow)
    intro row hrow
    rcases List.mem_append.1 hrow with hitem | hlater
    · exact hitems row hitem
    · obtain ⟨-, hnext⟩ := Option.ite_none_right_eq_some.1 hnext
      obtain ⟨last, hlast, rfl⟩ := Option.map_eq_some_iff.1 hnext
      obtain ⟨hmem, hsel⟩ := hitems last (List.mem_of_getLast? hlast)
      obtain ⟨hrow', hsel'⟩ := ih hafter row hlater
      exact ⟨hrow', hdescends cursor selects last selects' row hselect hmem hsel hafter hrow' hsel'⟩

/-- What holds of the rows of every page that is served holds of the rows listed. -/
theorem Follows.forall_mem {P : ρ → Prop}
    (hserved : ∀ items, served items = true → ∀ row ∈ items, P row)
    (h : Follows (keysetPage limit encode select served rows) cursor listed) :
    ∀ row ∈ listed, P row := by
  induction h with
  | last hpage =>
    obtain ⟨selects, -, hitems, rfl⟩ := keysetPage_eq_some hpage
    exact hserved _ hitems
  | next hpage hnext hrest ih =>
    obtain ⟨selects, -, hitems, rfl⟩ := keysetPage_eq_some hpage
    exact List.forall_mem_append.2 ⟨hserved _ hitems, ih⟩

/-- A list of the rows from `start` on shows that the cursor selected exactly those. -/
theorem Follows.filter_eq_drop (hlimit : 0 < limit) (hnodup : rows.Nodup)
    (hdescends : Descends encode select rows)
    (h : Follows (keysetPage limit encode select served rows) cursor listed)
    (hselect : select cursor = some selects) (hperm : listed.Perm (rows.drop start)) :
    rows.filter selects = rows.drop start := by
  have hsplit := List.filter_append (p := selects) (rows.take start) (rows.drop start)
  rw [List.take_append_drop] at hsplit
  have hlater : (rows.drop start).filter selects = rows.drop start :=
    List.filter_eq_self.2 fun row hrow =>
      (h.selected hdescends hselect row (hperm.mem_iff.2 hrow)).2
  rw [hlater] at hsplit
  rw [hsplit]
  cases hearlier : (rows.take start).filter selects with
  | nil => rfl
  | cons first rest =>
    -- an earlier row would be the first of the page, and listed again
    rw [hearlier] at hsplit
    have hfirst : first ∈ listed := by
      have hitem : first ∈ (rows.filter selects).take limit := by
        rw [hsplit, List.cons_append]
        exact List.mem_take_iff_getElem.2 ⟨0, by simp; omega, rfl⟩
      cases h with
      | last hpage =>
        obtain ⟨selects', hselect', -, rfl⟩ := keysetPage_eq_some hpage
        obtain rfl : selects = selects' := Option.some.inj (hselect.symm.trans hselect')
        exact hitem
      | next hpage =>
        obtain ⟨selects', hselect', -, rfl⟩ := keysetPage_eq_some hpage
        obtain rfl : selects = selects' := Option.some.inj (hselect.symm.trans hselect')
        exact List.mem_append_left _ hitem
    have hbefore : first ∈ rows.take start :=
      List.mem_of_mem_filter (hearlier ▸ List.mem_cons_self ..)
    have hdisjoint := List.disjoint_take_drop hnodup (le_refl start)
    exact absurd (hperm.mem_iff.1 hfirst) (fun hafter => hdisjoint hbefore hafter)

theorem Follows.of_perm (hlimit : 0 < limit) (hnodup : rows.Nodup)
    (hdescends : Descends encode select rows)
    (h : Follows (keysetPage limit encode select served rows) cursor listed)
    (hperm : listed.Perm (rows.drop start)) :
    listed = rows.drop start ∧
    (∀ k, k = 0 ∨ start + k * limit < rows.length →
      served ((rows.drop (start + k * limit)).take limit) = true) ∧
    ∀ k row, 0 < k → start + k * limit < rows.length →
      rows[start + k * limit - 1]? = some row → ∃ selects,
        select (some (encode row)) = some selects ∧
          rows.filter selects = rows.drop (start + k * limit) := by
  induction h generalizing start with
  | @last cursor shown hpage hnone =>
    obtain ⟨selects, hselect, hserved, rfl⟩ := keysetPage_eq_some hpage
    have hfilter := Follows.filter_eq_drop hlimit hnodup hdescends (.last hpage hnone) hselect hperm
    rw [hfilter] at hserved hnone ⊢
    have hshort : (rows.drop start).length ≤ limit := by
      by_contra hlong
      rw [if_pos (not_le.1 hlong), Option.map_eq_none_iff, List.getLast?_eq_none_iff] at hnone
      have hempty := congrArg List.length hnone
      rw [List.length_take, List.length_nil] at hempty
      omega
    have hend : ∀ k, 0 < k → ¬ start + k * limit < rows.length := by
      intro k hk hlt
      have hge : limit ≤ k * limit := Nat.le_mul_of_pos_left limit hk
      rw [List.length_drop] at hshort
      omega
    refine ⟨List.take_of_length_le hshort, fun k hk => ?_,
      fun k row hk hlt => absurd hlt (hend k hk)⟩
    rcases Nat.eq_zero_or_pos k with rfl | hpos
    · rwa [zero_mul, add_zero]
    · exact absurd (hk.resolve_left hpos.ne') (hend k hpos)
  | @next cursor shown after listed hpage hnext hrest ih =>
    obtain ⟨selects, hselect, hserved, rfl⟩ := keysetPage_eq_some hpage
    have hfilter := Follows.filter_eq_drop hlimit hnodup hdescends (.next hpage hnext hrest) hselect
      hperm
    rw [hfilter] at hserved hnext hperm ⊢
    obtain ⟨hlong, hlast⟩ := Option.ite_none_right_eq_some.1 hnext
    rw [List.length_drop] at hlong
    have hlt : start + limit < rows.length := by omega
    rw [getLast?_take_drop hlimit hlt.le] at hlast
    obtain ⟨row, hrow, rfl⟩ := Option.map_eq_some_iff.1 hlast
    have hperm' : listed.Perm (rows.drop (start + limit)) := by
      rw [← List.drop_drop]
      refine (List.perm_append_left_iff ((rows.drop start).take limit)).1 ?_
      rwa [List.take_append_drop]
    obtain ⟨hlisted, hserved', hrest'⟩ := ih hperm'
    obtain ⟨selects', hselect'⟩ := hrest.exists_select
    have hfilter' := hrest.filter_eq_drop hlimit hnodup hdescends hselect' hperm'
    have hshift : ∀ k, start + limit + k * limit = start + (k + 1) * limit := fun k => by ring
    refine ⟨?_, fun k hk => ?_, fun k row' hpos hk hrow' => ?_⟩
    · rw [hlisted, ← List.drop_drop, List.take_append_drop]
    · cases k with
      | zero => rwa [zero_mul, add_zero]
      | succ k =>
        have hlt' := hk.resolve_left (Nat.succ_ne_zero k)
        rw [← hshift] at hlt' ⊢
        exact hserved' k (.inr hlt')
    · obtain ⟨k, rfl⟩ : ∃ j, k = j + 1 := ⟨k - 1, by omega⟩
      rcases Nat.eq_zero_or_pos k with rfl | hk'
      · rw [zero_add, one_mul] at hrow' ⊢
        obtain rfl : row = row' := Option.some.inj (hrow.symm.trans hrow')
        exact ⟨selects', hselect', hfilter'⟩
      · rw [← hshift] at hk hrow' ⊢
        exact hrest' k row' hk' hk hrow'

/-- Following the cursors from the start lists every row once exactly when every page is served and
every cursor on the way selects the rows after its own; the rows then come in their order. -/
theorem exists_follows_perm_iff (hlimit : 0 < limit) (hnodup : rows.Nodup)
    (hstart : select none = some fun _ => true) (hdescends : Descends encode select rows) :
    (∃ listed, Follows (keysetPage limit encode select served rows) none listed ∧
      listed.Perm rows) ↔ Served limit served rows ∧ SelectsRest limit encode select rows := by
  constructor
  · rintro ⟨listed, hfollows, hperm⟩
    have hall : listed.Perm (rows.drop 0) := hperm
    obtain ⟨-, hserved, hrest⟩ := hfollows.of_perm hlimit hnodup hdescends hall
    simp only [zero_add] at hserved hrest
    exact ⟨hserved, hrest⟩
  · rintro ⟨hserved, hrest⟩
    have hfilter : (rows.filter fun _ => true) = rows.drop (0 * limit) := by
      rw [zero_mul, List.drop_zero, List.filter_true]
    have hfollows := follows_drop hlimit hserved hrest 0 hstart hfilter (.inl rfl)
    rw [zero_mul, List.drop_zero] at hfollows
    exact ⟨rows, hfollows, .refl rows⟩

theorem Follows.eq_of_perm (hlimit : 0 < limit) (hnodup : rows.Nodup)
    (hdescends : Descends encode select rows)
    (h : Follows (keysetPage limit encode select served rows) none listed)
    (hperm : listed.Perm rows) : listed = rows := by
  have hall : listed.Perm (rows.drop 0) := hperm
  exact (h.of_perm hlimit hnodup hdescends hall).1

end Following

/-! ### Rows in the order of a key -/

section Keys

variable {κ' : Type*} [LinearOrder κ'] {key : ρ → κ'} {rows : List ρ} {row other : ρ} {i : ℕ}

theorem nodup_of_pairwise_key (h : rows.Pairwise fun row later => key later < key row) :
    rows.Nodup := by
  refine List.Pairwise.imp (fun {row later} hlt heq => ?_) h
  rw [heq] at hlt
  exact lt_irrefl _ hlt

/-- The rows of smaller keys are those after the row. -/
theorem key_lt_iff_mem_drop (h : rows.Pairwise fun row later => key later < key row)
    (hrow : rows[i]? = some row) (hmem : other ∈ rows) :
    key other < key row ↔ other ∈ rows.drop (i + 1) := by
  obtain ⟨hi, hget⟩ := List.getElem?_eq_some_iff.1 hrow
  have hsplit : rows.take i ++ row :: rows.drop (i + 1) = rows := by
    rw [← hget, ← List.drop_eq_getElem_cons, List.take_append_drop]
  rw [← hsplit] at h hmem
  obtain ⟨-, hafter, hbefore⟩ := List.pairwise_append.1 h
  constructor
  · intro hlt
    rcases List.mem_append.1 hmem with hearlier | hlater
    · exact absurd (hbefore other hearlier row (List.mem_cons_self ..)) hlt.asymm
    · rcases List.mem_cons.1 hlater with rfl | hlater
      · exact absurd hlt (lt_irrefl _)
      · exact hlater
  · exact fun hlater => List.rel_of_pairwise_cons hafter hlater

/-- The place of a row is the number of rows whose keys are not below its own. -/
theorem countP_key_le (h : rows.Pairwise fun row later => key later < key row)
    (hrow : rows[i]? = some row) :
    rows.countP (fun other => decide (key row ≤ key other)) = i + 1 := by
  obtain ⟨hi, hget⟩ := List.getElem?_eq_some_iff.1 hrow
  have hnodup := nodup_of_pairwise_key h
  have hsplit : (rows.take (i + 1) ++ rows.drop (i + 1)).countP
      (fun other => decide (key row ≤ key other)) = _ := List.countP_append
  have htake : (rows.take (i + 1)).countP (fun other => decide (key row ≤ key other))
      = (rows.take (i + 1)).length := by
    rw [List.countP_eq_length]
    intro other hother
    refine decide_eq_true (not_lt.1 fun hlt => ?_)
    have hlater := (key_lt_iff_mem_drop h hrow (List.mem_of_mem_take hother)).1 hlt
    exact List.disjoint_take_drop hnodup le_rfl hother hlater
  have hdrop : (rows.drop (i + 1)).countP (fun other => decide (key row ≤ key other)) = 0 := by
    rw [List.countP_eq_zero]
    intro other hother
    rw [decide_eq_true_eq, not_le]
    exact (key_lt_iff_mem_drop h hrow (List.mem_of_mem_drop hother)).2 hother
  rw [List.take_append_drop, htake, hdrop, List.length_take, min_eq_left hi] at hsplit
  exact hsplit

/-- A key up to that of a row cuts off the rows after it, if all of these are below the key. -/
theorem filter_key_lt_eq_drop_iff (h : rows.Pairwise fun row later => key later < key row)
    (hrow : rows[i]? = some row) {boundary : κ'} (hboundary : boundary ≤ key row) :
    rows.filter (fun other => decide (key other < boundary)) = rows.drop (i + 1) ↔
      ∀ later ∈ rows, key later < key row → key later < boundary := by
  have hmem : ∀ other ∈ rows, key other < key row ↔ other ∈ rows.drop (i + 1) :=
    fun other => key_lt_iff_mem_drop h hrow
  constructor
  · intro hfilter later hlater hlt
    have hselected := (hmem later hlater).1 hlt
    rw [← hfilter] at hselected
    exact of_decide_eq_true (List.mem_filter.1 hselected).2
  · intro hall
    have hsplit := List.filter_append (p := fun other => decide (key other < boundary))
      (rows.take (i + 1)) (rows.drop (i + 1))
    have htake : (rows.take (i + 1)).filter (fun other => decide (key other < boundary)) = [] := by
      refine List.filter_eq_nil_iff.2 fun other hother hlt => ?_
      have hother' := List.mem_of_mem_take hother
      exact List.disjoint_take_drop (nodup_of_pairwise_key h) le_rfl hother
        ((hmem other hother').1 ((of_decide_eq_true hlt).trans_le hboundary))
    have hdrop : (rows.drop (i + 1)).filter (fun other => decide (key other < boundary))
        = rows.drop (i + 1) := by
      refine List.filter_eq_self.2 fun other hother => decide_eq_true ?_
      have hother' := List.mem_of_mem_drop hother
      exact hall other hother' ((hmem other hother').2 hother)
    rw [List.take_append_drop, htake, hdrop, List.nil_append] at hsplit
    exact hsplit

end Keys

end Pagination
