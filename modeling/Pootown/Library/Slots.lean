import Mathlib.Tactic

/-!
# Tables of optional slots

A table is a list of slots, each empty (`none`) or holding an occupant.

* `slotAt`, `mapSlots`, `updateSlot`: reading a slot, rewriting every occupant, rewriting one;
* `mergeSlots`: a table merged with replacements of its occupants;
* `everyIdx`, `everySlot`: decidable "all entries", "all occupants";
* `total w`: the sum of a weight over the occupants, and how one update moves it;
* `updateKey`: the same for a list whose entries carry their own distinct keys;
* `cyclicNext n p i`: the first index after `i`, counting cyclically below `n`, that satisfies `p`.
-/

namespace Slots

variable {α β γ : Type}

/-! ### Reading and rewriting -/

/-- The occupant of slot `i`; `none` for an empty slot and beyond the end of the table. -/
def slotAt (t : List (Option α)) (i : ℕ) : Option α := (t[i]?).join

/-- Rewrite every occupant, knowing its index. -/
def mapSlots (f : ℕ → α → β) (t : List (Option α)) : List (Option β) :=
  t.mapIdx fun i o => o.map (f i)

/-- Rewrite the occupant of slot `k` only. -/
def updateSlot (k : ℕ) (f : α → α) (t : List (Option α)) : List (Option α) :=
  mapSlots (fun i a => if i = k then f a else a) t

theorem slotAt_eq_some {t : List (Option α)} {i : ℕ} {a : α} :
    slotAt t i = some a ↔ t[i]? = some (some a) := by
  simp [slotAt, Option.join_eq_some_iff]

@[simp] theorem slotAt_nil (i : ℕ) : slotAt ([] : List (Option α)) i = none := rfl

@[simp] theorem slotAt_cons_zero (o : Option α) (t : List (Option α)) :
    slotAt (o :: t) 0 = o := rfl

@[simp] theorem slotAt_cons_succ (o : Option α) (t : List (Option α)) (i : ℕ) :
    slotAt (o :: t) (i + 1) = slotAt t i := rfl

theorem lt_length_of_slotAt {t : List (Option α)} {i : ℕ} {a : α} (h : slotAt t i = some a) :
    i < t.length := by
  rw [slotAt_eq_some] at h
  exact (List.getElem?_eq_some_iff.1 h).1

@[simp] theorem length_mapSlots (f : ℕ → α → β) (t : List (Option α)) :
    (mapSlots f t).length = t.length := by
  simp [mapSlots]

@[simp] theorem length_updateSlot (k : ℕ) (f : α → α) (t : List (Option α)) :
    (updateSlot k f t).length = t.length :=
  length_mapSlots _ t

@[simp] theorem slotAt_mapSlots (f : ℕ → α → β) (t : List (Option α)) (i : ℕ) :
    slotAt (mapSlots f t) i = (slotAt t i).map (f i) := by
  unfold slotAt mapSlots
  rw [List.getElem?_mapIdx]
  cases t[i]? with
  | none => rfl
  | some o => rfl

theorem slotAt_updateSlot (k : ℕ) (f : α → α) (t : List (Option α)) (i : ℕ) :
    slotAt (updateSlot k f t) i = if i = k then (slotAt t i).map f else slotAt t i := by
  unfold updateSlot
  rw [slotAt_mapSlots]
  split_ifs with h <;> simp [h]

@[simp] theorem slotAt_updateSlot_self (k : ℕ) (f : α → α) (t : List (Option α)) :
    slotAt (updateSlot k f t) k = (slotAt t k).map f := by
  rw [slotAt_updateSlot, if_pos rfl]

theorem slotAt_updateSlot_of_ne {k i : ℕ} (h : i ≠ k) (f : α → α) (t : List (Option α)) :
    slotAt (updateSlot k f t) i = slotAt t i := by
  rw [slotAt_updateSlot, if_neg h]

theorem mapSlots_cons (f : ℕ → α → β) (o : Option α) (t : List (Option α)) :
    mapSlots f (o :: t) = o.map (f 0) :: mapSlots (fun i => f (i + 1)) t := by
  simp [mapSlots, List.mapIdx_cons]

theorem mapSlots_congr {f g : ℕ → α → β} {t : List (Option α)}
    (h : ∀ i a, slotAt t i = some a → f i a = g i a) : mapSlots f t = mapSlots g t := by
  induction t generalizing f g with
  | nil => rfl
  | cons o t ih =>
    rw [mapSlots_cons, mapSlots_cons, ih fun i a ha => h (i + 1) a ha]
    cases o with
    | none => rfl
    | some a => rw [Option.map_some, Option.map_some, h 0 a rfl]

theorem mapSlots_id {f : ℕ → α → α} {t : List (Option α)}
    (h : ∀ i a, slotAt t i = some a → f i a = a) : mapSlots f t = t := by
  induction t generalizing f with
  | nil => rfl
  | cons o t ih =>
    rw [mapSlots_cons, ih fun i a ha => h (i + 1) a ha]
    cases o with
    | none => rfl
    | some a => rw [Option.map_some, h 0 a rfl]

@[simp] theorem mapSlots_mapSlots (f : ℕ → α → β) (g : ℕ → β → γ) (t : List (Option α)) :
    mapSlots g (mapSlots f t) = mapSlots (fun i a => g i (f i a)) t := by
  induction t generalizing f g with
  | nil => rfl
  | cons o t ih => simp only [mapSlots_cons, Option.map_map, ih]; rfl

/-- Two tables with the same length and the same occupants are equal. -/
theorem ext_slotAt {s t : List (Option α)} (hl : s.length = t.length)
    (h : ∀ i, slotAt s i = slotAt t i) : s = t := by
  refine List.ext_getElem hl fun i h₁ h₂ => ?_
  have := h i
  simpa [slotAt, List.getElem?_eq_getElem h₁, List.getElem?_eq_getElem h₂] using this

/-! ### Merging -/

/-- Merge a slot with its replacement; none unless both are empty or both occupied. -/
def mergeSlot (combine : α → β → α) : Option (Option α) → Option β → Option (Option α)
  | some none, none => some none
  | some (some a), some b => some (some (combine a b))
  | _, _ => none

/-- Merge a table with the replacements of its occupants, slot by slot. -/
def mergeSlots (combine : α → β → α) (t : List (Option α)) (resolved : List (Option β)) :
    Option (List (Option α)) :=
  (resolved.mapIdx fun i b => mergeSlot combine t[i]? b).mapM id

theorem mergeSlots_mapSlots (combine : α → β → α) (f : ℕ → α → β) (t : List (Option α)) :
    mergeSlots combine t (mapSlots f t) = some (mapSlots (fun i a => combine a (f i a)) t) := by
  induction t generalizing f with
  | nil => rfl
  | cons o t ih =>
    have ht := ih fun i => f (i + 1)
    unfold mergeSlots at ht ⊢
    rw [mapSlots_cons, mapSlots_cons, List.mapIdx_cons, List.mapM_cons]
    simp only [List.getElem?_cons_succ, List.getElem?_cons_zero, ht]
    cases o <;> rfl

/-! ### Occupants -/

/-- The occupants in slot order. -/
def occupants (t : List (Option α)) : List α := t.filterMap id

@[simp] theorem occupants_nil : occupants ([] : List (Option α)) = [] := rfl

@[simp] theorem occupants_cons_none (t : List (Option α)) :
    occupants (none :: t) = occupants t := rfl

@[simp] theorem occupants_cons_some (a : α) (t : List (Option α)) :
    occupants (some a :: t) = a :: occupants t := rfl

theorem mem_occupants {t : List (Option α)} {a : α} :
    a ∈ occupants t ↔ ∃ i, slotAt t i = some a := by
  simp only [slotAt_eq_some, ← List.mem_iff_getElem?]
  simp [occupants]

theorem occupants_mapSlots (f : α → β) (t : List (Option α)) :
    occupants (mapSlots (fun _ => f) t) = (occupants t).map f := by
  induction t with
  | nil => rfl
  | cons o t ih =>
    rw [mapSlots_cons]
    cases o with
    | none => simpa using ih
    | some a => simpa using ih

theorem slotAt_set {t : List (Option α)} {i j : ℕ} {o : Option α} (hi : i < t.length) :
    slotAt (t.set i o) j = if i = j then o else slotAt t j := by
  unfold slotAt
  rw [List.getElem?_set]
  split_ifs with h
  · rfl
  · rfl

/-- Emptying a slot leaves the other occupants in their order. -/
theorem occupants_set_none (t : List (Option α)) (i : ℕ) :
    (occupants (t.set i none)).Sublist (occupants t) := by
  induction t generalizing i with
  | nil => exact List.Sublist.refl _
  | cons o t ih =>
    cases i with
    | zero => cases o <;> simp
    | succ i => cases o <;> simp [ih]

theorem length_occupants_le (t : List (Option α)) : (occupants t).length ≤ t.length :=
  List.length_filterMap_le ..

/-- An emptied slot counts no longer. -/
theorem length_occupants_set_none {t : List (Option α)} {i : ℕ} (hi : i < t.length) :
    (occupants (t.set i none)).length < t.length := by
  induction t generalizing i with
  | nil => simp at hi
  | cons o t ih =>
    cases i with
    | zero => exact Nat.lt_succ_of_le (length_occupants_le t)
    | succ i =>
      have hrest := ih (Nat.lt_of_succ_lt_succ hi)
      cases o with
      | none => exact hrest.trans (Nat.lt_succ_self _)
      | some a => exact Nat.succ_lt_succ hrest

/-- Filling an empty slot adds one occupant. -/
theorem occupants_set_some {t : List (Option α)} {i : ℕ} (a : α) (hi : i < t.length)
    (hfree : slotAt t i = none) : (occupants (t.set i (some a))).Perm (a :: occupants t) := by
  induction t generalizing i with
  | nil => simp at hi
  | cons o t ih =>
    cases i with
    | zero =>
      obtain rfl : o = none := hfree
      exact List.Perm.refl _
    | succ i =>
      have hrest := ih (by simpa using hi) hfree
      cases o with
      | none => exact hrest
      | some b => exact (hrest.cons b).trans (List.Perm.swap a b _)

/-- Where the occupants have different keys, a key is on one slot. -/
theorem slot_unique {key : α → β} {t : List (Option α)} {i j : ℕ} {a b : α}
    (hkeys : ((occupants t).map key).Nodup) (hi : slotAt t i = some a) (hj : slotAt t j = some b)
    (hkey : key a = key b) : i = j := by
  have mem_keys : ∀ {rest : List (Option α)} {k : ℕ} {c : α}, slotAt rest k = some c →
      key c ∈ (occupants rest).map key := fun hc =>
    List.mem_map_of_mem (mem_occupants.2 ⟨_, hc⟩)
  induction t generalizing i j with
  | nil => cases hi
  | cons o rest ih =>
    have hrest : ((occupants rest).map key).Nodup := by
      cases o with
      | none => exact hkeys
      | some c => exact (List.nodup_cons.1 hkeys).2
    rcases i with _ | i <;> rcases j with _ | j
    · rfl
    · obtain rfl : o = some a := hi
      exact absurd (hkey ▸ mem_keys hj) (List.nodup_cons.1 hkeys).1
    · obtain rfl : o = some b := hj
      exact absurd (hkey ▸ mem_keys hi) (List.nodup_cons.1 hkeys).1
    · rw [ih hrest hi hj]

/-! ### Decidable quantifiers -/

/-- Every entry passes the test, which is told its index. -/
def everyIdx (f : ℕ → α → Bool) (l : List α) : Bool := (l.mapIdx f).all id

theorem everyIdx_eq_true {f : ℕ → α → Bool} {l : List α} :
    everyIdx f l = true ↔ ∀ i a, l[i]? = some a → f i a = true := by
  simp only [everyIdx, List.all_eq_true, List.mem_iff_getElem?, List.getElem?_mapIdx, id,
    Option.map_eq_some_iff, forall_exists_index, and_imp]
  constructor
  · intro h i a ha
    exact h _ i a ha rfl
  · rintro h _ i a ha rfl
    exact h i a ha

/-- Every occupant passes the test, which is told its index. -/
def everySlot (f : ℕ → α → Bool) (t : List (Option α)) : Bool :=
  everyIdx (fun i o => o.all (f i)) t

theorem everySlot_eq_true {f : ℕ → α → Bool} {t : List (Option α)} :
    everySlot f t = true ↔ ∀ i a, slotAt t i = some a → f i a = true := by
  simp only [everySlot, everyIdx_eq_true, slotAt_eq_some]
  constructor
  · intro h i a ha
    simpa using h i _ ha
  · intro h i o ho
    cases o with
    | none => rfl
    | some a => simpa using h i a ho

/-! ### Totals -/

/-- The sum of the weight `w` over the occupants. -/
def total (w : α → ℤ) (t : List (Option α)) : ℤ := ((occupants t).map w).sum

@[simp] theorem total_nil (w : α → ℤ) : total w [] = 0 := rfl

@[simp] theorem total_cons_none (w : α → ℤ) (t : List (Option α)) :
    total w (none :: t) = total w t := rfl

@[simp] theorem total_cons_some (w : α → ℤ) (a : α) (t : List (Option α)) :
    total w (some a :: t) = w a + total w t := by
  simp [total]

theorem total_mapSlots_of_eq {w : β → ℤ} {v : α → ℤ} {f : ℕ → α → β} {t : List (Option α)}
    (h : ∀ i a, slotAt t i = some a → w (f i a) = v a) :
    total w (mapSlots f t) = total v t := by
  induction t generalizing f with
  | nil => rfl
  | cons o t ih =>
    have ht := ih (f := fun i => f (i + 1)) fun i a ha => h (i + 1) a ha
    rw [mapSlots_cons]
    cases o with
    | none => simpa using ht
    | some a => simp [ht, h 0 a rfl]

/-- Two rewritings that weigh the same slot by slot have the same total. -/
theorem total_mapSlots_congr {w : β → ℤ} {v : γ → ℤ} {f : ℕ → α → β} {g : ℕ → α → γ}
    {t : List (Option α)} (h : ∀ i a, slotAt t i = some a → w (f i a) = v (g i a)) :
    total w (mapSlots f t) = total v (mapSlots g t) := by
  induction t generalizing f g with
  | nil => rfl
  | cons o t ih =>
    have ht := ih (f := fun i => f (i + 1)) (g := fun i => g (i + 1)) fun i a ha => h (i + 1) a ha
    rw [mapSlots_cons, mapSlots_cons]
    cases o with
    | none => simpa using ht
    | some a => simp [ht, h 0 a rfl]

/-- One update moves a total by the change at the updated slot. -/
theorem total_updateSlot {w : α → ℤ} {k : ℕ} {f : α → α} {t : List (Option α)} {a : α}
    (h : slotAt t k = some a) : total w (updateSlot k f t) = total w t - w a + w (f a) := by
  induction t generalizing k with
  | nil => simp at h
  | cons o t ih =>
    unfold updateSlot
    rw [mapSlots_cons]
    cases k with
    | zero =>
      rw [slotAt_cons_zero] at h
      subst h
      have hrest : mapSlots (fun i b => if i + 1 = 0 then f b else b) t = t :=
        mapSlots_id fun i b _ => if_neg (Nat.succ_ne_zero i)
      simp only [Option.map_some, if_true, hrest, total_cons_some]
      ring
    | succ k =>
      rw [slotAt_cons_succ] at h
      have hrest : mapSlots (fun i b => if i + 1 = k + 1 then f b else b) t = updateSlot k f t :=
        mapSlots_congr fun i b _ => by simp only [Nat.add_right_cancel_iff]
      rw [hrest]
      cases o with
      | none => simpa using ih h
      | some b =>
        simp only [Option.map_some, (Nat.succ_ne_zero k).symm, if_false, total_cons_some, ih h]
        ring

/-- A rewriting that matters in two slots moves a total by the changes there. -/
theorem total_mapSlots_pair {w : α → ℤ} {f : ℕ → α → α} {t : List (Option α)} {j k : ℕ} {a b : α}
    (hjk : j ≠ k) (hj : slotAt t j = some a) (hk : slotAt t k = some b)
    (hrest : ∀ i c, i ≠ j → i ≠ k → slotAt t i = some c → w (f i c) = w c) :
    total w (mapSlots f t) = total w t - w a + w (f j a) - w b + w (f k b) := by
  have hstep : total w (mapSlots f t) = total w (updateSlot k (f k) (updateSlot j (f j) t)) := by
    unfold updateSlot
    rw [mapSlots_mapSlots]
    refine total_mapSlots_congr fun i c hi => ?_
    by_cases hij : i = j
    · subst hij
      rw [if_pos rfl, if_neg hjk]
    · by_cases hik : i = k
      · subst hik
        rw [if_neg hij, if_pos rfl]
      · rw [if_neg hij, if_neg hik]
        exact hrest i c hij hik hi
  have hk' : slotAt (updateSlot j (f j) t) k = some b := by
    rw [slotAt_updateSlot_of_ne (Ne.symm hjk), hk]
  rw [hstep, total_updateSlot hk', total_updateSlot hj]

theorem total_nonneg {w : α → ℤ} {t : List (Option α)}
    (h : ∀ i a, slotAt t i = some a → 0 ≤ w a) : 0 ≤ total w t := by
  refine List.sum_nonneg fun x hx => ?_
  obtain ⟨a, ha, rfl⟩ := List.mem_map.1 hx
  obtain ⟨i, hi⟩ := mem_occupants.1 ha
  exact h i a hi

theorem total_le_total {w v : α → ℤ} {t : List (Option α)}
    (h : ∀ i a, slotAt t i = some a → w a ≤ v a) : total w t ≤ total v t := by
  refine List.sum_le_sum fun a ha => ?_
  obtain ⟨i, hi⟩ := mem_occupants.1 ha
  exact h i a hi

/-- A positive total has a positive part. -/
theorem exists_of_total_pos {w : α → ℤ} {t : List (Option α)} (h : 0 < total w t) :
    ∃ i a, slotAt t i = some a ∧ 0 < w a := by
  obtain ⟨a, ha, hpos⟩ := List.exists_lt_of_sum_lt (fun _ => 0) w (l := occupants t)
    (by simpa [total] using h)
  obtain ⟨i, hi⟩ := mem_occupants.1 ha
  exact ⟨i, a, hi, hpos⟩

theorem le_total {w : α → ℤ} {t : List (Option α)} {k : ℕ} {a : α}
    (h : ∀ i b, slotAt t i = some b → 0 ≤ w b) (ha : slotAt t k = some a) : w a ≤ total w t := by
  refine List.single_le_sum (fun x hx => ?_) _ (List.mem_map_of_mem (mem_occupants.2 ⟨k, ha⟩))
  obtain ⟨b, hb, rfl⟩ := List.mem_map.1 hx
  obtain ⟨i, hi⟩ := mem_occupants.1 hb
  exact h i b hi

/-- Counting occupants is totalling an indicator. -/
theorem length_filter_occupants (p : α → Bool) (t : List (Option α)) :
    (((occupants t).filter p).length : ℤ) = total (fun a => if p a then 1 else 0) t := by
  induction t with
  | nil => rfl
  | cons o t ih =>
    cases o with
    | none => simpa using ih
    | some a =>
      rw [occupants_cons_some, List.filter_cons, total_cons_some]
      split_ifs with hp
      · rw [List.length_cons]; push_cast; rw [ih]; ring
      · rw [ih]; ring

/-! ### Keyed lists -/

/-- Rewrite the entries whose key is `k`. -/
def updateKey (key : α → ℕ) (k : ℕ) (f : α → α) (l : List α) : List α :=
  l.map fun a => if key a = k then f a else a

theorem updateKey_of_forall_ne {key : α → ℕ} {k : ℕ} (f : α → α) {l : List α}
    (h : ∀ a ∈ l, key a ≠ k) : updateKey key k f l = l := by
  unfold updateKey
  rw [List.map_congr_left fun a ha => if_neg (h a ha)]
  exact List.map_id' l

/-- One update of a list with distinct keys moves a sum by the change at the updated entry. -/
theorem sum_updateKey {key : α → ℕ} {k : ℕ} {f : α → α} {w : α → ℤ} {l : List α} {a : α}
    (hkeys : (l.map key).Nodup) (ha : a ∈ l) (hk : key a = k) :
    ((updateKey key k f l).map w).sum = (l.map w).sum - w a + w (f a) := by
  induction l with
  | nil => cases ha
  | cons b l ih =>
    rw [List.map_cons, List.nodup_cons] at hkeys
    have hcons : updateKey key k f (b :: l)
        = (if key b = k then f b else b) :: updateKey key k f l := rfl
    rw [hcons, List.map_cons, List.map_cons, List.sum_cons, List.sum_cons]
    rcases List.mem_cons.1 ha with rfl | ha
    · have hrest : updateKey key k f l = l := updateKey_of_forall_ne f fun b hb hbk =>
        hkeys.1 (List.mem_map.2 ⟨b, hb, hbk.trans hk.symm⟩)
      rw [if_pos hk, hrest]
      ring
    · have hne : key b ≠ k := fun hbk => hkeys.1 (List.mem_map.2 ⟨a, ha, hk.trans hbk.symm⟩)
      rw [if_neg hne, ih hkeys.2 ha]
      ring

/-! ### The next index around a cycle -/

/-- The first index after `i`, counting cyclically below `n` and ending at `i` itself, that
satisfies `p`. -/
def cyclicNext (n : ℕ) (p : ℕ → Bool) (i : ℕ) : Option ℕ :=
  ((List.range n).map fun offset => (i + (offset + 1)) % n).find? p

theorem cyclicNext_spec {n i j : ℕ} {p : ℕ → Bool} (h : cyclicNext n p i = some j) :
    p j = true ∧ j < n := by
  refine ⟨List.find?_some h, ?_⟩
  obtain ⟨o, ho, rfl⟩ := List.mem_map.1 (List.mem_of_find?_eq_some h)
  exact Nat.mod_lt _ (Nat.zero_lt_of_lt (List.mem_range.1 ho))

/-- Every index below `n` is some offset away. -/
theorem exists_offset {n i j : ℕ} (hi : i < n) (hj : j < n) :
    ∃ o < n, (i + (o + 1)) % n = j := by
  rcases Nat.lt_or_ge i j with h | h
  · refine ⟨j - i - 1, by omega, ?_⟩
    have hij : i + (j - i - 1 + 1) = j := by omega
    rw [hij, Nat.mod_eq_of_lt hj]
  · refine ⟨n - i + j - 1, by omega, ?_⟩
    have hij : i + (n - i + j - 1 + 1) = j + n := by omega
    rw [hij, Nat.add_mod_right, Nat.mod_eq_of_lt hj]

theorem exists_cyclicNext {n i j : ℕ} {p : ℕ → Bool} (hi : i < n) (hj : j < n) (hp : p j = true) :
    ∃ k, cyclicNext n p i = some k := by
  obtain ⟨o, ho, rfl⟩ := exists_offset hi hj
  refine Option.isSome_iff_exists.1 (List.find?_isSome.2 ⟨_, ?_, hp⟩)
  exact List.mem_map.2 ⟨o, List.mem_range.2 ho, rfl⟩

/-- With a second candidate the search does not come back to its start. -/
theorem cyclicNext_ne {n i j k : ℕ} {p : ℕ → Bool} (hi : i < n) (hj : j < n) (hji : j ≠ i)
    (hp : p j = true) (h : cyclicNext n p i = some k) : k ≠ i := by
  rintro rfl
  obtain ⟨o, ho, rfl⟩ := exists_offset hi hj
  unfold cyclicNext at h
  rw [List.find?_eq_some_iff_getElem] at h
  obtain ⟨-, m, hm, hget, hbefore⟩ := h
  simp only [List.length_map, List.length_range] at hm
  simp only [List.getElem_map, List.getElem_range] at hget
  -- only the last offset, a full turn, returns to the start
  have hlast : m + 1 = n := by
    rcases Nat.lt_or_ge (k + (m + 1)) n with hlt | hge
    · rw [Nat.mod_eq_of_lt hlt] at hget; omega
    · rw [Nat.mod_eq_sub_mod hge, Nat.mod_eq_of_lt (by omega)] at hget; omega
  have hom : o < m := by
    by_contra hcon
    have : o = m := by omega
    subst this
    exact hji hget
  have := hbefore o hom
  simp only [List.getElem_map, List.getElem_range, hp] at this
  exact absurd this (by simp)

/-- A search goes no further when only other indices drop out. -/
theorem cyclicNext_mono {n i j : ℕ} {p q : ℕ → Bool} (h : cyclicNext n p i = some j)
    (hsub : ∀ k, q k = true → p k = true) (hj : q j = true) : cyclicNext n q i = some j := by
  unfold cyclicNext at h ⊢
  rw [List.find?_eq_some_iff_append] at h ⊢
  obtain ⟨-, before, after, heq, hbefore⟩ := h
  refine ⟨hj, before, after, heq, fun k hk => ?_⟩
  have hp := hbefore k hk
  rw [Bool.not_eq_true'] at hp ⊢
  exact Bool.eq_false_iff.2 fun hq => Bool.eq_false_iff.1 hp (hsub k hq)

/-! ### The first of a sorted list -/

/-- The head of a sorted list comes from the list and stands before all of it. -/
theorem head?_insertionSort {r : α → α → Prop} [DecidableRel r] [Std.Total r] [IsTrans α r]
    {l : List α} {a : α} (h : (l.insertionSort r).head? = some a) :
    a ∈ l ∧ ∀ b ∈ l, r a b := by
  have hsorted := List.pairwise_insertionSort r l
  have hperm := List.perm_insertionSort r l
  obtain ⟨rest, hrest⟩ := List.head?_eq_some_iff.1 h
  rw [hrest] at hsorted hperm
  refine ⟨hperm.subset (List.mem_cons_self ..), fun b hb => ?_⟩
  obtain rfl | hb := List.mem_cons.1 (hperm.symm.subset hb)
  · exact (Std.Total.total b b).elim id id
  · exact (List.pairwise_cons.1 hsorted).1 b hb

end Slots
