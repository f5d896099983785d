import Mathlib.Tactic
import Pootown.Library.Slots

/-!
# A token passed around a ring

`n` places stand in a ring.  A token rests, or goes to the next live place; live places may die, and
none comes back to life.

* `NextLive n live a b`: `b` is the first live place after `a`; `nextLive_of_cyclicNext`;
* `ahead n a x`: how far `x` is ahead of `a`, and what a pass does to it;
* `Passing n token live i j`: the moves of the token between the times `i` and `j`;
* `Passing.exists_unique_arrival`: between two consecutive arrivals at a place, the token arrives
  exactly once at every other place that stays live.
-/

namespace Rotation

open Slots

/-- `b` is the first live place after `a`, counting cyclically below `n` and ending at `a`. -/
def NextLive (n : ℕ) (live : ℕ → Prop) (a b : ℕ) : Prop :=
  ∃ offset < n, b = (a + (offset + 1)) % n ∧ live b ∧
    ∀ o < offset, ¬ live ((a + (o + 1)) % n)

/-- How far `x` is ahead of `a` around a ring of `n` places. -/
def ahead (n a x : ℕ) : ℕ := (x + n - a) % n

variable {n : ℕ} {live live' : ℕ → Prop} {a b c x : ℕ}

theorem nextLive_of_cyclicNext {p : ℕ → Bool} (h : cyclicNext n p a = some b) :
    NextLive n (fun i => p i = true) a b := by
  unfold cyclicNext at h
  rw [List.find?_eq_some_iff_getElem] at h
  obtain ⟨hlive, offset, hlt, hget, hbefore⟩ := h
  simp only [List.length_map, List.length_range] at hlt
  simp only [List.getElem_map, List.getElem_range] at hget hbefore
  refine ⟨offset, hlt, hget.symm, hlive, fun o ho => ?_⟩
  simpa using hbefore o ho

theorem NextLive.lt (h : NextLive n live a b) : b < n := by
  obtain ⟨offset, hlt, rfl, -⟩ := h
  exact Nat.mod_lt _ (Nat.zero_lt_of_lt hlt)

theorem NextLive.isLive (h : NextLive n live a b) : live b := by
  obtain ⟨offset, -, -, hlive, -⟩ := h
  exact hlive

/-- The first live place stays the first when others die. -/
theorem NextLive.mono (h : NextLive n live a b) (hsub : ∀ c, live' c → live c) (hb : live' b) :
    NextLive n live' a b := by
  obtain ⟨offset, hlt, heq, -, hbefore⟩ := h
  exact ⟨offset, hlt, heq, hb, fun o ho hlive => hbefore o ho (hsub _ hlive)⟩

/-! ### Distances -/

theorem ahead_self : ahead n a a = 0 := by
  unfold ahead
  rw [Nat.add_sub_cancel_left, Nat.mod_self]

theorem ahead_eq (ha : a < n) (hx : x < n) :
    ahead n a x = if a ≤ x then x - a else x + n - a := by
  unfold ahead
  split_ifs with h
  · have hsplit : x + n - a = x - a + n := by omega
    rw [hsplit, Nat.add_mod_right, Nat.mod_eq_of_lt (by omega)]
  · rw [Nat.mod_eq_of_lt (by omega)]

theorem ahead_inj (ha : a < n) (hb : b < n) (hx : x < n) (h : ahead n a x = ahead n a b) :
    x = b := by
  rw [ahead_eq ha hx, ahead_eq ha hb] at h
  split_ifs at h <;> omega

/-- `step` places after `x`, as long as that does not reach `a`. -/
theorem ahead_add {step : ℕ} (ha : a < n) (hx : x < n) (h : ahead n a x + step < n) :
    ahead n a ((x + step) % n) = ahead n a x + step := by
  have hmod : (x + step) % n < n := Nat.mod_lt _ (by omega)
  rw [ahead_eq ha hx] at h ⊢
  rw [ahead_eq ha hmod]
  rcases Nat.lt_or_ge (x + step) n with hlt | hge
  · rw [Nat.mod_eq_of_lt hlt]
    split_ifs at h ⊢ <;> omega
  · rw [Nat.mod_eq_sub_mod hge, Nat.mod_eq_of_lt (by split_ifs at h <;> omega)]
    split_ifs at h ⊢ <;> omega

/-- A pass does not jump over a live place that is ahead. -/
theorem NextLive.ahead_le (h : NextLive n live x b) (ha : a < n) (hx : x < n) (hc : c < n)
    (hlive : live c) (hlt : ahead n a x < ahead n a c) :
    ahead n a x < ahead n a b ∧ ahead n a b ≤ ahead n a c := by
  obtain ⟨offset, hoffset, rfl, -, hbefore⟩ := h
  have hcn : ahead n a c < n := Nat.mod_lt _ (by omega)
  obtain ⟨gap, hgap⟩ := Nat.exists_eq_add_of_lt hlt
  have hat : (x + (gap + 1)) % n = c := by
    refine ahead_inj ha hc (Nat.mod_lt _ (by omega)) ?_
    rw [ahead_add ha hx (by omega), hgap]
    omega
  have hle : offset ≤ gap := by
    by_contra hcon
    exact hbefore gap (by omega) (hat ▸ hlive)
  rw [ahead_add ha hx (by omega)]
  omega

/-- With `a` live, a pass goes to `a` or further ahead of it. -/
theorem NextLive.ahead_lt (h : NextLive n live x b) (ha : a < n) (hx : x < n) (hlive : live a) :
    b = a ∨ ahead n a x < ahead n a b := by
  obtain ⟨offset, hoffset, rfl, -, hbefore⟩ := h
  have hxn : ahead n a x < n := Nat.mod_lt _ (by omega)
  rcases Nat.lt_or_ge (ahead n a x + (offset + 1)) n with hlt | hge
  · right
    rw [ahead_add ha hx hlt]
    omega
  · left
    -- `a` itself stands `n - ahead n a x` places after `x`
    have hat : ∀ gap, ahead n a x + (gap + 1) = n → (x + (gap + 1)) % n = a := by
      intro gap hgap
      rw [ahead_eq ha hx] at hgap
      split_ifs at hgap with hax
      · have hwrap : x + (gap + 1) = a + n := by omega
        rw [hwrap, Nat.add_mod_right, Nat.mod_eq_of_lt ha]
      · have hwrap : x + (gap + 1) = a := by omega
        rw [hwrap, Nat.mod_eq_of_lt ha]
    obtain ⟨gap, hgap⟩ : ∃ gap, ahead n a x + (gap + 1) = n := ⟨n - ahead n a x - 1, by omega⟩
    rcases Nat.lt_or_ge gap offset with hbetween | hlast
    · exact absurd hlive (hat gap hgap ▸ hbefore gap hbetween)
    · have hsame : offset = gap := by omega
      rw [hsame]
      exact hat gap hgap

/-! ### Runs of the token -/

/-- Between the times `i` and `j` the token stays on the ring, and rests or goes to the next live
place, while live places may die. -/
structure Passing (n : ℕ) (token : ℕ → ℕ) (live : ℕ → ℕ → Prop) (i j : ℕ) : Prop where
  lt : ∀ k, i ≤ k → k ≤ j → token k < n
  dies : ∀ k, i ≤ k → k < j → ∀ c, live (k + 1) c → live k c
  step : ∀ k, i ≤ k → k < j →
    token (k + 1) = token k ∨ NextLive n (live (k + 1)) (token k) (token (k + 1))

/-- The token comes to `c` at the time `k`. -/
def Arrives (token : ℕ → ℕ) (c k : ℕ) : Prop := token k = c ∧ token (k - 1) ≠ c

namespace Passing

variable {token : ℕ → ℕ} {live : ℕ → ℕ → Prop} {i j k l : ℕ}
  (h : Passing n token live i j)
include h

/-- What is live at a time was live before. -/
theorem live_of_le (hik : i ≤ k) (hkl : k ≤ l) (hlj : l ≤ j) (hlive : live l c) : live k c := by
  obtain ⟨d, rfl⟩ := Nat.exists_eq_add_of_le hkl
  clear hkl
  induction d with
  | zero => exact hlive
  | succ d ih => exact ih (by omega) (h.dies (k + d) (by omega) (by omega) c hlive)

/-- The token arrives at live places only. -/
theorem live_of_arrives (hik : i < k) (hkj : k ≤ j) (harr : Arrives token c k) : live k c := by
  obtain ⟨hat, hbefore⟩ := harr
  obtain ⟨m, rfl⟩ : ∃ m, k = m + 1 := ⟨k - 1, by omega⟩
  rw [Nat.add_sub_cancel] at hbefore
  rcases h.step m (by omega) (by omega) with hrest | hnext
  · exact absurd (hrest.symm.trans hat) hbefore
  · exact hat ▸ hnext.isLive

/-- Until it arrives at a live place `c` ahead of it, the token stays behind `c`. -/
theorem ahead_lt_of_ne (ha : a < n) (hc : c < n) (hij : i ≤ l) (hlj : l ≤ j) (hlive : live j c)
    (hstart : ahead n a (token i) < ahead n a c) (hne : ∀ k, i < k → k ≤ l → token k ≠ c) :
    ahead n a (token l) < ahead n a c := by
  obtain ⟨d, rfl⟩ := Nat.exists_eq_add_of_le hij
  clear hij
  induction d with
  | zero => exact hstart
  | succ d ih =>
    have hbehind := ih (by omega) fun k hik hk => hne k hik (by omega)
    have hnot := hne (i + d + 1) (by omega) (by omega)
    rcases h.step (i + d) (by omega) (by omega) with hrest | hnext
    · show ahead n a (token (i + d + 1)) < _
      rwa [hrest]
    · have hclive := h.live_of_le (k := i + d + 1) (by omega) (by omega) le_rfl hlive
      obtain ⟨-, hle⟩ := hnext.ahead_le ha (h.lt (i + d) (by omega) (by omega)) hc hclive hbehind
      refine lt_of_le_of_ne hle fun heq => hnot ?_
      exact ahead_inj ha hc hnext.lt heq

/-- Away from a live place `a`, the token only moves further ahead of it. -/
theorem ahead_le_ahead (ha : a < n) (hik : i ≤ k) (hkl : k ≤ l) (hlj : l ≤ j) (hlive : live j a)
    (hne : ∀ m, k < m → m ≤ l → token m ≠ a) :
    ahead n a (token k) ≤ ahead n a (token l) := by
  obtain ⟨d, rfl⟩ := Nat.exists_eq_add_of_le hkl
  clear hkl
  induction d with
  | zero => exact le_rfl
  | succ d ih =>
    have hsofar := ih (by omega) fun m hkm hm => hne m hkm (by omega)
    rcases h.step (k + d) (by omega) (by omega) with hrest | hnext
    · show _ ≤ ahead n a (token (k + d + 1))
      rwa [hrest]
    · have halive := h.live_of_le (k := k + d + 1) (by omega) (by omega) le_rfl hlive
      rcases hnext.ahead_lt ha (h.lt (k + d) (by omega) (by omega)) halive with hback | hmore
      · exact absurd hback (hne (k + d + 1) (by omega) (by omega))
      · exact hsofar.trans hmore.le

omit h in
/-- Between two consecutive arrivals at `a` the token stays away once it has left. -/
theorem ne_of_no_arrival (hik : i < k) (hlj : l < j) (hka : token k ≠ a)
    (hnone : ∀ m, i < m → m < j → ¬ Arrives token a m) :
    ∀ m, k ≤ m → m ≤ l → token m ≠ a := by
  intro m hkm
  obtain ⟨d, rfl⟩ := Nat.exists_eq_add_of_le hkm
  clear hkm
  induction d with
  | zero => exact fun _ => hka
  | succ d ih =>
    intro hml hat
    exact hnone (k + (d + 1)) (by omega) (by omega) ⟨hat, ih (by omega)⟩

/-- Between two consecutive arrivals of the token at one place, it arrives exactly once at every
other place that stays live. -/
theorem exists_unique_arrival (hij : i < j) (ha : token i = a) (hback : Arrives token a j)
    (hnone : ∀ m, i < m → m < j → ¬ Arrives token a m) (hc : c < n) (hca : c ≠ a)
    (hlive : live j c) : ∃! k, (i < k ∧ k < j) ∧ Arrives token c k := by
  have han : a < n := ha ▸ h.lt i le_rfl hij.le
  have halive : live j a := h.live_of_arrives hij le_rfl hback
  have hstart : ahead n a (token i) < ahead n a c := by
    rw [ha, ahead_self]
    refine Nat.pos_of_ne_zero fun hzero => hca ?_
    exact ahead_inj han han hc (by rw [hzero, ahead_self])
  -- the token cannot come back to `a` without stopping at `c`
  have hvisit : ∃ k, (i < k ∧ k < j) ∧ token k = c := by
    by_contra hcon
    have hne : ∀ k, i < k → k ≤ j - 1 → token k ≠ c := fun k hik hk hat =>
      hcon ⟨k, ⟨hik, by omega⟩, hat⟩
    have hbehind := h.ahead_lt_of_ne han hc (l := j - 1) (by omega) (by omega) hlive hstart hne
    obtain ⟨m, rfl⟩ : ∃ m, j = m + 1 := ⟨j - 1, by omega⟩
    rw [Nat.add_sub_cancel] at hbehind
    obtain ⟨hat, hbefore⟩ := hback
    rw [Nat.add_sub_cancel] at hbefore
    rcases h.step m (by omega) (by omega) with hrest | hnext
    · exact hbefore (hrest ▸ hat)
    · obtain ⟨hmore, -⟩ := hnext.ahead_le han (h.lt m (by omega) (by omega)) hc hlive hbehind
      rw [hat, ahead_self] at hmore
      exact Nat.not_lt_zero _ hmore
  classical
  obtain ⟨⟨hik, hkj⟩, hat⟩ := Nat.find_spec hvisit
  have hfirst := fun m hm => Nat.find_min hvisit (m := m) hm
  refine ⟨Nat.find hvisit, ⟨⟨hik, hkj⟩, hat, fun hbefore => ?_⟩, ?_⟩
  · -- the first visit is an arrival
    rcases Nat.eq_or_lt_of_le hik with heq | hlt
    · rw [← heq] at hbefore
      exact hca (hbefore.symm.trans ha)
    · exact hfirst (Nat.find hvisit - 1) (by omega) ⟨⟨by omega, by omega⟩, hbefore⟩
  · -- after it the token is beyond `c` until it is back at `a`
    rintro l ⟨⟨hil, hlj⟩, hlat, hlbefore⟩
    by_contra hdiff
    have hle : Nat.find hvisit ≤ l := Nat.find_min' hvisit ⟨⟨hil, hlj⟩, hlat⟩
    have hlt : Nat.find hvisit ≤ l - 1 := by omega
    have haway := ne_of_no_arrival hik hlj (by rw [hat]; exact hca) hnone
    have hfar := h.ahead_le_ahead han hik.le hlt (by omega) halive
      fun m hm hml => haway m hm.le (by omega)
    have hstep := h.step (l - 1) (by omega) (by omega)
    have hsucc : l - 1 + 1 = l := by omega
    rw [hsucc] at hstep
    rcases hstep with hrest | hnext
    · exact hlbefore (hrest ▸ hlat)
    · have hal := h.live_of_le (k := l) (by omega) hlj.le le_rfl halive
      rcases hnext.ahead_lt han (h.lt (l - 1) (by omega) (by omega)) hal with hreturn | hmore
      · exact haway l hle le_rfl hreturn
      · rw [hlat, ← hat] at hmore
        exact absurd hmore (Nat.not_lt.2 hfar)

end Passing

end Rotation
