import Mathlib.Tactic

/-!
# Chains of checks

A function that validates its input before it acts is a computation in `Except ε`: a chain of
checks, each of which may reject with its own `ε`, ending in a value.

* `require`, `requireSome`: one check;
* the `_eq_ok` lemmas: a chain returns a value exactly when its checks pass, so that
  `simp only` turns "this call was accepted" into the list of the guards it went through;
* `RejectsOnly P x`: every rejection of `x` satisfies `P`, with one rule per connective.
-/

namespace Fallible

variable {ε α β : Type}

/-- Reject with `e` unless `p` holds. -/
def require (p : Prop) [Decidable p] (e : ε) : Except ε Unit :=
  if p then .ok () else .error e

/-- The value of `o`; reject with `e` when there is none. -/
def requireSome (o : Option α) (e : ε) : Except ε α :=
  match o with
  | some a => .ok a
  | none => .error e

/-! ### Accepted chains -/

theorem bind_eq_ok {x : Except ε α} {f : α → Except ε β} {b : β} :
    (x >>= f) = .ok b ↔ ∃ a, x = .ok a ∧ f a = .ok b := by
  cases x with
  | error e => simp [bind, Except.bind]
  | ok a => simp [bind, Except.bind]

theorem require_eq_ok {p : Prop} [Decidable p] {e : ε} {u : Unit} :
    require p e = .ok u ↔ p := by
  unfold require
  split_ifs with h <;> simp [h]

theorem requireSome_eq_ok {o : Option α} {e : ε} {a : α} :
    requireSome o e = .ok a ↔ o = some a := by
  cases o <;> simp [requireSome]

theorem pure_eq_ok {a b : α} : (pure a : Except ε α) = .ok b ↔ a = b := by
  simp [pure, Except.pure]

theorem ok_eq_ok {a b : α} : (.ok a : Except ε α) = .ok b ↔ a = b := by
  simp

theorem error_eq_ok {e : ε} {b : α} : (.error e : Except ε α) = .ok b ↔ False := by
  simp

theorem ite_eq_ok {p : Prop} [Decidable p] {x y : Except ε α} {b : α} :
    (if p then x else y) = .ok b ↔ (p ∧ x = .ok b) ∨ (¬p ∧ y = .ok b) := by
  split_ifs with h <;> simp [h]

/-- A traversal has a result when every step has one. -/
theorem exists_mapM_eq_some {f : α → Option β} {l : List α} (h : ∀ a ∈ l, ∃ b, f a = some b) :
    ∃ bs, l.mapM f = some bs := by
  induction l with
  | nil => exact ⟨[], rfl⟩
  | cons a rest ih =>
    obtain ⟨b, hb⟩ := h a (List.mem_cons_self ..)
    obtain ⟨bs, hbs⟩ := ih fun a' ha' => h a' (List.mem_cons_of_mem _ ha')
    rw [List.mapM_cons, hb, hbs]
    exact ⟨b :: bs, rfl⟩

/-- A traversal whose steps all have results collects them. -/
theorem mapM_eq_ok {f : α → Except ε β} {g : α → β} {l : List α}
    (h : ∀ a ∈ l, f a = .ok (g a)) : l.mapM f = .ok (l.map g) := by
  induction l with
  | nil => rfl
  | cons a rest ih =>
    rw [List.mapM_cons, h a (List.mem_cons_self ..),
      ih fun a' ha' => h a' (List.mem_cons_of_mem _ ha')]
    rfl

/-- A traversal that knows its index, beside the list `r` its results are taken from. -/
theorem mapM_zipIdx_eq_ok {γ : Type} {f : α × ℕ → Except ε γ} {g : α → β → γ} {l : List α}
    {r : List β} {start : ℕ} (hlength : r.length = l.length)
    (h : ∀ i a b, l[i]? = some a → r[i]? = some b → f (a, start + i) = .ok (g a b)) :
    (l.zipIdx start).mapM f = .ok (List.zipWith g l r) := by
  induction l generalizing r start with
  | nil => rfl
  | cons a rest ih =>
    cases r with
    | nil => simp at hlength
    | cons b others =>
      have hrest : (rest.zipIdx (start + 1)).mapM f = .ok (List.zipWith g rest others) :=
        ih (by simpa using hlength) fun i a' b' ha hb => by
          rw [Nat.add_right_comm, Nat.add_assoc]
          exact h (i + 1) a' b' ha hb
      have hfirst : f (a, start) = .ok (g a b) := h 0 a b rfl rfl
      rw [List.zipIdx_cons, List.mapM_cons, hfirst, hrest]
      rfl

/-! ### Rejections -/

/-- Every rejection of `x` satisfies `P`. -/
def RejectsOnly (P : ε → Prop) (x : Except ε α) : Prop := ∀ e, x = .error e → P e

variable {P : ε → Prop}

theorem RejectsOnly.pure (a : α) : RejectsOnly P (Pure.pure a : Except ε α) := by
  intro e h; cases h

theorem RejectsOnly.ok (a : α) : RejectsOnly P (.ok a : Except ε α) := by
  intro e h; cases h

theorem RejectsOnly.error {e : ε} (he : P e) : RejectsOnly P (.error e : Except ε α) := by
  intro e' h; cases h; exact he

theorem RejectsOnly.require {p : Prop} [Decidable p] {e : ε} (he : P e) :
    RejectsOnly P (require p e) := by
  intro e' h
  unfold Fallible.require at h
  split_ifs at h
  cases h; exact he

theorem RejectsOnly.requireSome {o : Option α} {e : ε} (he : P e) :
    RejectsOnly P (requireSome o e) := by
  intro e' h
  cases o with
  | some a => cases h
  | none => cases h; exact he

theorem RejectsOnly.bind {x : Except ε α} {f : α → Except ε β} (hx : RejectsOnly P x)
    (hf : ∀ a, RejectsOnly P (f a)) : RejectsOnly P (x >>= f) := by
  intro e h
  cases x with
  | error e' => cases h; exact hx _ rfl
  | ok a => exact hf a e h

theorem RejectsOnly.map {x : Except ε α} (f : α → β) (h : RejectsOnly P x) :
    RejectsOnly P (x.map f) := by
  intro e he
  cases x with
  | error e' => cases he; exact h _ rfl
  | ok a => cases he

/-- A check that passes rejects nothing. -/
theorem RejectsOnly.require_of {p : Prop} [Decidable p] {e : ε} (h : p) :
    RejectsOnly P (Fallible.require p e) := by
  intro e' he
  unfold Fallible.require at he
  rw [if_pos h] at he
  cases he

theorem RejectsOnly.requireSome_of {o : Option α} {e : ε} {a : α} (h : o = some a) :
    RejectsOnly P (Fallible.requireSome o e) := by
  intro e' he
  rw [requireSome_eq_ok.2 h] at he
  cases he

/-- The rest of a chain may use what its first check has established. -/
theorem RejectsOnly.bind_of {x : Except ε α} {f : α → Except ε β} (hx : RejectsOnly P x)
    (hf : ∀ a, x = .ok a → RejectsOnly P (f a)) : RejectsOnly P (x >>= f) := by
  intro e h
  cases x with
  | error e' => cases h; exact hx _ rfl
  | ok a => exact hf a rfl e h

theorem RejectsOnly.ite {p : Prop} [Decidable p] {x y : Except ε α} (hx : RejectsOnly P x)
    (hy : RejectsOnly P y) : RejectsOnly P (if p then x else y) := by
  split_ifs <;> assumption

end Fallible
