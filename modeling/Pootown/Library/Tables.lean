import Mathlib.Tactic

/-!
# Tables as lists of rows

* `find?_of_nodup`: where keys are unique, a row is found by its key;
* `updateWhere`: rewrite the rows that satisfy a condition; `orderBy`: the rows in the order of a key;
* `sumWhere`: the sum of a weight over the rows that satisfy a condition, and what an insert and
  the rewriting of one row add to it;
* `sum_countP_le`: groups that share no row count no more rows than there are.
-/

namespace Tables

variable {α β : Type*} {rows rows' : List α} {row : α}

section Keys

variable [DecidableEq β] {key : α → β}

/-- Where no two rows share a key, a row is found by its own. -/
theorem find?_of_nodup (h : (rows.map key).Nodup) (hmem : row ∈ rows) :
    (rows.find? fun other => key other = key row) = some row := by
  induction rows with
  | nil => cases hmem
  | cons first rest ih =>
    rw [List.map_cons, List.nodup_cons] at h
    rcases List.mem_cons.1 hmem with rfl | hrest
    · simp
    · have hne : key first ≠ key row := fun heq => h.1 (heq ▸ List.mem_map_of_mem hrest)
      simp [hne, ih h.2 hrest]

theorem find?_key_eq_some {k : β} (h : (rows.find? fun other => key other = k) = some row) :
    row ∈ rows ∧ key row = k :=
  ⟨List.mem_of_find?_eq_some h, by simpa using List.find?_some h⟩

/-- Where no two rows share a key, the key names the row. -/
theorem eq_of_key_eq (h : (rows.map key).Nodup) {other : α} (hmem : row ∈ rows)
    (hother : other ∈ rows) (heq : key other = key row) : other = row := by
  have hrow := find?_of_nodup h hmem
  rw [← heq, find?_of_nodup h hother] at hrow
  exact Option.some.inj hrow

/-- Where no two rows share a key, there is one row with the key of a row. -/
theorem filter_of_nodup (h : (rows.map key).Nodup) (hmem : row ∈ rows) :
    (rows.filter fun other => key other = key row) = [row] := by
  induction rows with
  | nil => cases hmem
  | cons first rest ih =>
    rw [List.map_cons, List.nodup_cons] at h
    rcases List.mem_cons.1 hmem with rfl | hrest
    · have hnone : (rest.filter fun other => key other = key row) = [] := by
        refine List.filter_eq_nil_iff.2 fun other hother => ?_
        rw [decide_eq_true_iff]
        exact fun heq => h.1 (heq ▸ List.mem_map_of_mem hother)
      rw [List.filter_cons_of_pos (by simp), hnone]
    · have hne : key first ≠ key row := fun heq => h.1 (heq ▸ List.mem_map_of_mem hrest)
      rw [List.filter_cons_of_neg (by simpa using hne), ih h.2 hrest]

omit [DecidableEq β] in
theorem nodup_append_key (h : (rows.map key).Nodup) (hnew : ∀ old ∈ rows, key old ≠ key row) :
    ((rows ++ [row]).map key).Nodup := by
  rw [List.map_append, List.map_singleton]
  refine h.append (List.nodup_singleton _) ?_
  intro k hk hnewk
  obtain ⟨old, hold, rfl⟩ := List.mem_map.1 hk
  exact hnew old hold (List.mem_singleton.1 hnewk)

end Keys

/-! ### Rewriting rows -/

/-- Rewrite by `f` the rows that satisfy `p`. -/
def updateWhere (p : α → Prop) [DecidablePred p] (f : α → α) (rows : List α) : List α :=
  rows.map fun row => if p row then f row else row

variable {p q : α → Prop} [DecidablePred p] [DecidablePred q] {f : α → α} {w : α → ℤ}

theorem mem_updateWhere :
    row ∈ updateWhere p f rows ↔ ∃ old ∈ rows, row = if p old then f old else old := by
  simp [updateWhere, eq_comm]

theorem map_updateWhere {γ : Type*} {g : α → γ} (h : ∀ row ∈ rows, p row → g (f row) = g row) :
    (updateWhere p f rows).map g = rows.map g := by
  rw [updateWhere, List.map_map]
  refine List.map_congr_left fun row hrow => ?_
  show g (if p row then f row else row) = g row
  split_ifs with hp
  · exact h row hrow hp
  · rfl

/-- A row that the condition leaves out stays. -/
theorem mem_updateWhere_of_not (hmem : row ∈ rows) (hp : ¬ p row) : row ∈ updateWhere p f rows :=
  mem_updateWhere.2 ⟨row, hmem, (if_neg hp).symm⟩

theorem mem_updateWhere_of (hmem : row ∈ rows) (hp : p row) : f row ∈ updateWhere p f rows :=
  mem_updateWhere.2 ⟨row, hmem, (if_pos hp).symm⟩

/-- Rewriting twice the rows with a property that the first rewriting keeps. -/
theorem updateWhere_updateWhere {g : α → α} (h : ∀ row ∈ rows, p row → p (f row)) :
    updateWhere p g (updateWhere p f rows) = updateWhere p (g ∘ f) rows := by
  rw [updateWhere, updateWhere, updateWhere, List.map_map]
  refine List.map_congr_left fun row hrow => ?_
  show (if p (if p row then f row else row) then g (if p row then f row else row)
    else if p row then f row else row) = if p row then g (f row) else row
  by_cases hp : p row
  · rw [if_pos hp, if_pos (h row hrow hp), if_pos hp]
  · rw [if_neg hp, if_neg hp, if_neg hp]

/-- The first row under a key, once rows are rewritten that keep their keys. -/
theorem find?_updateWhere {key : α → β} [DecidableEq β] {k : β}
    (h : ∀ row, key (f row) = key row) :
    (updateWhere p f rows).find? (fun row => key row = k) =
      (rows.find? fun row => key row = k).map fun row => if p row then f row else row := by
  have hkey : ∀ row, key (if p row then f row else row) = key row := fun row => by
    split_ifs
    · exact h row
    · rfl
  rw [updateWhere, List.find?_map]
  simp only [Function.comp_def, hkey]

/-! ### Sorting rows -/

/-- The rows in the order of a key. -/
def orderBy {κ : Type*} [LE κ] [DecidableLE κ] (key : α → κ) (rows : List α) : List α :=
  rows.insertionSort fun a b => key a ≤ key b

theorem orderBy_perm {κ : Type*} [LE κ] [DecidableLE κ] (key : α → κ) (rows : List α) :
    (orderBy key rows).Perm rows :=
  List.perm_insertionSort _ rows

theorem pairwise_orderBy {κ : Type*} [LinearOrder κ] (key : α → κ) (rows : List α) :
    (orderBy key rows).Pairwise fun a b => key a ≤ key b := by
  have htotal : Std.Total fun a b : α => key a ≤ key b := ⟨fun _ _ => le_total _ _⟩
  have htrans : IsTrans α fun a b => key a ≤ key b := ⟨fun _ _ _ => le_trans⟩
  exact List.pairwise_insertionSort _ _

theorem mem_orderBy {κ : Type*} [LE κ] [DecidableLE κ] {key : α → κ} :
    row ∈ orderBy key rows ↔ row ∈ rows :=
  (orderBy_perm key rows).mem_iff

/-! ### Sums -/

/-- The sum of `w` over the rows that satisfy `p`. -/
def sumWhere (p : α → Prop) [DecidablePred p] (w : α → ℤ) (rows : List α) : ℤ :=
  (rows.map fun row => if p row then w row else 0).sum

@[simp] theorem sumWhere_nil : sumWhere p w [] = 0 := rfl

@[simp] theorem sumWhere_cons :
    sumWhere p w (row :: rows) = (if p row then w row else 0) + sumWhere p w rows := by
  simp [sumWhere]

@[simp] theorem sumWhere_append :
    sumWhere p w (rows ++ rows') = sumWhere p w rows + sumWhere p w rows' := by
  simp [sumWhere]

theorem sumWhere_congr {w' : α → ℤ} (hpq : ∀ row ∈ rows, p row ↔ q row)
    (hw : ∀ row ∈ rows, q row → w row = w' row) : sumWhere p w rows = sumWhere q w' rows := by
  refine congrArg List.sum (List.map_congr_left fun row hrow => ?_)
  by_cases hq : q row
  · rw [if_pos hq, if_pos ((hpq row hrow).2 hq), hw row hrow hq]
  · rw [if_neg hq, if_neg fun hp => hq ((hpq row hrow).1 hp)]

theorem sumWhere_eq_zero (h : ∀ row ∈ rows, ¬ p row) : sumWhere p w rows = 0 := by
  induction rows with
  | nil => rfl
  | cons first rest ih =>
    rw [sumWhere_cons, if_neg (h first (List.mem_cons_self ..)),
      ih fun row hrow => h row (List.mem_cons_of_mem _ hrow), zero_add]

/-- Rewriting the one row with a key adds what that row's share has grown by. -/
theorem sumWhere_updateWhere [DecidableEq β] {key : α → β} (h : (rows.map key).Nodup)
    (hmem : row ∈ rows) :
    sumWhere p w (updateWhere (fun other => key other = key row) f rows) =
      sumWhere p w rows + ((if p (f row) then w (f row) else 0) - if p row then w row else 0) := by
  induction rows with
  | nil => cases hmem
  | cons first rest ih =>
    rw [List.map_cons, List.nodup_cons] at h
    show sumWhere p w ((if key first = key row then f first else first) ::
      updateWhere (fun other => key other = key row) f rest) = _
    rw [sumWhere_cons, sumWhere_cons]
    rcases List.mem_cons.1 hmem with rfl | hrest
    · have hkeep : updateWhere (fun other => key other = key row) f rest = rest := by
        refine (List.map_congr_left fun other hother => ?_).trans (List.map_id rest)
        exact if_neg fun heq : key other = key row => h.1 (heq ▸ List.mem_map_of_mem hother)
      rw [if_pos rfl, hkeep]
      omega
    · have hne : key first ≠ key row := fun heq => h.1 (heq ▸ List.mem_map_of_mem hrest)
      rw [if_neg hne, ih h.2 hrest]
      omega

/-- Of the rows with a key there is one. -/
theorem sumWhere_key [DecidableEq β] {key : α → β} (h : (rows.map key).Nodup) (hmem : row ∈ rows) :
    sumWhere (fun other => key other = key row) w rows = w row := by
  induction rows with
  | nil => cases hmem
  | cons first rest ih =>
    rw [List.map_cons, List.nodup_cons] at h
    rw [sumWhere_cons]
    rcases List.mem_cons.1 hmem with rfl | hrest
    · have hrest : ∀ other ∈ rest, key other ≠ key row :=
        fun other hother heq => h.1 (heq ▸ List.mem_map_of_mem hother)
      rw [if_pos rfl, sumWhere_eq_zero hrest, add_zero]
    · rw [if_neg fun heq : key first = key row => h.1 (heq ▸ List.mem_map_of_mem hrest), ih h.2 hrest,
        zero_add]

theorem sumWhere_or (h : ∀ row ∈ rows, p row → ¬ q row) :
    sumWhere (fun row => p row ∨ q row) w rows = sumWhere p w rows + sumWhere q w rows := by
  induction rows with
  | nil => rfl
  | cons first rest ih =>
    have hfirst := h first (List.mem_cons_self ..)
    rw [sumWhere_cons, sumWhere_cons, sumWhere_cons,
      ih fun row hrow => h row (List.mem_cons_of_mem _ hrow)]
    by_cases hp : p first
    · rw [if_pos (.inl hp), if_pos hp, if_neg (hfirst hp)]
      omega
    · by_cases hq : q first
      · rw [if_pos (.inr hq), if_neg hp, if_pos hq]
        omega
      · rw [if_neg (by tauto), if_neg hp, if_neg hq]
        omega

theorem sumWhere_add_not :
    sumWhere p w rows + sumWhere (fun row => ¬ p row) w rows = (rows.map w).sum := by
  rw [← sumWhere_or fun _ _ hp hnot => hnot hp]
  exact congrArg List.sum (List.map_congr_left fun row _ => if_pos (em (p row)))

/-- Summing by groups: each row counts in the groups that it is in. -/
theorem sum_sumWhere {κ : Type*} {groups : List κ} {r : κ → α → Prop} [∀ k, DecidablePred (r k)]
    (h : ∀ row ∈ rows, sumWhere (fun k => r k row) (fun _ => w row) groups =
      if p row then w row else 0) :
    (groups.map fun k => sumWhere (r k) w rows).sum = sumWhere p w rows := by
  induction rows with
  | nil => simp
  | cons first rest ih =>
    have hfirst := h first (List.mem_cons_self ..)
    simp only [sumWhere_cons, List.sum_map_add]
    rw [ih fun row hrow => h row (List.mem_cons_of_mem _ hrow), ← hfirst]
    rfl

theorem sumWhere_map {γ : Type*} {g : γ → α} {rows : List γ} :
    sumWhere p w (rows.map g) = sumWhere (fun row => p (g row)) (fun row => w (g row)) rows := by
  simp [sumWhere, Function.comp_def]

/-- Rows that weigh nothing may be left out. -/
theorem sumWhere_filter (h : ∀ row ∈ rows, ¬ q row → w row = 0) :
    sumWhere p w (rows.filter fun row => q row) = sumWhere p w rows := by
  induction rows with
  | nil => rfl
  | cons first rest ih =>
    have hrest := ih fun row hrow => h row (List.mem_cons_of_mem _ hrow)
    by_cases hq : q first
    · rw [List.filter_cons_of_pos (by simpa using hq), sumWhere_cons, sumWhere_cons, hrest]
    · rw [List.filter_cons_of_neg (by simpa using hq), sumWhere_cons, hrest,
        h first (List.mem_cons_self ..) hq, ite_self, zero_add]

theorem sumWhere_const {c : ℤ} (h : ∀ row ∈ rows, p row → w row = c) :
    sumWhere p w rows = (rows.countP fun row => p row) * c := by
  induction rows with
  | nil => simp
  | cons first rest ih =>
    rw [sumWhere_cons, ih fun row hrow => h row (List.mem_cons_of_mem _ hrow), List.countP_cons]
    by_cases hp : p first
    · rw [if_pos hp, if_pos (by simpa using hp), h first (List.mem_cons_self ..) hp]
      push_cast
      ring
    · rw [if_neg hp, if_neg (by simpa using hp)]
      push_cast
      ring

/-! ### Counting -/

section Counting

variable {κ : Type*} {groups : List κ} {r : κ → α → Prop} [∀ k, DecidablePred (r k)]

theorem sum_countP_cons :
    (groups.map fun k => (row :: rows).countP fun row => r k row).sum =
      (groups.map fun k => rows.countP fun row => r k row).sum + groups.countP fun k => r k row := by
  induction groups with
  | nil => rfl
  | cons k ks ih =>
    rw [List.map_cons, List.sum_cons, List.map_cons, List.sum_cons, ih, List.countP_cons,
      List.countP_cons]
    omega

theorem sum_countP_le (hone : ∀ row ∈ rows, (groups.countP fun k => r k row) ≤ 1) :
    (groups.map fun k => rows.countP fun row => r k row).sum ≤ rows.length := by
  induction rows with
  | nil => simp
  | cons first rest ih =>
    have hfirst := hone first (List.mem_cons_self ..)
    have hrest := ih fun row hrow => hone row (List.mem_cons_of_mem _ hrow)
    rw [sum_countP_cons, List.length_cons]
    omega

/-- Where the rows in some groups come to as many as there are rows, and no row is in two of the
groups, every row is in one. -/
theorem exists_group (hone : ∀ row ∈ rows, (groups.countP fun k => r k row) ≤ 1)
    (hcount : (groups.map fun k => rows.countP fun row => r k row).sum = rows.length) :
    ∀ row ∈ rows, ∃ k ∈ groups, r k row := by
  induction rows with
  | nil => exact List.forall_mem_nil _
  | cons first rest ih =>
    have honeRest : ∀ row ∈ rest, (groups.countP fun k => r k row) ≤ 1 :=
      fun row hrow => hone row (List.mem_cons_of_mem _ hrow)
    have hfirst := hone first (List.mem_cons_self ..)
    have hrest := sum_countP_le honeRest
    rw [sum_countP_cons, List.length_cons] at hcount
    rw [List.forall_mem_cons]
    refine ⟨?_, ih honeRest (by omega)⟩
    have hpos : 0 < groups.countP fun k => r k first := by omega
    simpa using List.countP_pos_iff.1 hpos

/-- At most one row has the key of another. -/
theorem countP_le_one [DecidableEq β] {key : α → β} (h : (rows.map key).Nodup)
    (hsame : ∀ row ∈ rows, ∀ other ∈ rows, p row → p other → key other = key row) :
    (rows.countP fun row => p row) ≤ 1 := by
  by_cases hex : ∃ row ∈ rows, p row
  · obtain ⟨row, hmem, hp⟩ := hex
    calc (rows.countP fun other => p other)
        ≤ rows.countP fun other => key other = key row := List.countP_mono_left
          fun other hother hpo => by
            simpa using hsame row hmem other hother hp (by simpa using hpo)
      _ = 1 := by rw [List.countP_eq_length_filter, filter_of_nodup h hmem, List.length_singleton]
  · rw [List.countP_eq_zero.2 fun row hmem hp => hex ⟨row, hmem, by simpa using hp⟩]
    exact Nat.zero_le 1

end Counting

end Tables
