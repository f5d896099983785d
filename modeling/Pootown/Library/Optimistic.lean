import Mathlib.Tactic

/-!
# Optimistic concurrency

Attempts against a shared state name the version they were made for.  One that does not fit the
version at its turn is refused and changes nothing; one that is accepted moves the version on.

* `System`: such a state, with the attempts on it;
* `System.acceptedOf`, `System.after`: which of some attempts are accepted, and where they lead;
* `System.expected_acceptedOf`: in any order of arrival the accepted ones name the versions from the
  first one on, each of them once.
-/

namespace Optimistic

universe u v

/-- A versioned state and the attempts on it. -/
structure System (σ : Type u) (α : Type v) where
  version : σ → ℤ
  expected : α → ℤ
  /-- Whether the attempt is accepted, and the state after it. -/
  submit : σ → α → Bool × σ
  accepted : ∀ s a, (submit s a).1 = true →
    expected a = version s ∧ version (submit s a).2 = version s + 1
  refused : ∀ s a, (submit s a).1 = false → (submit s a).2 = s

namespace System

variable {σ : Type u} {α : Type v} (S : System σ α)

/-- The state after some attempts, in the order of their arrival. -/
def after : σ → List α → σ
  | s, [] => s
  | s, a :: rest => after (S.submit s a).2 rest

/-- The attempts that are accepted, in that order. -/
def acceptedOf : σ → List α → List α
  | _, [] => []
  | s, a :: rest =>
    if (S.submit s a).1 then a :: acceptedOf (S.submit s a).2 rest
    else acceptedOf (S.submit s a).2 rest

/-- The versions of the accepted attempts follow each other without a gap. -/
theorem expected_acceptedOf (s : σ) (attempts : List α) :
    (S.acceptedOf s attempts).map S.expected =
      (List.range (S.acceptedOf s attempts).length).map fun i : ℕ => S.version s + i := by
  induction attempts generalizing s with
  | nil => rfl
  | cons a rest ih =>
    cases hsubmit : (S.submit s a).1 with
    | true =>
      obtain ⟨hexpected, hversion⟩ := S.accepted s a hsubmit
      have hrest := ih (S.submit s a).2
      simp only [acceptedOf, hsubmit, if_true, List.map_cons, List.length_cons,
        List.range_succ_eq_map, hrest, hexpected, hversion, List.map_map, Nat.cast_zero, add_zero]
      refine congrArg _ (List.map_congr_left fun i _ => ?_)
      simp only [Function.comp_apply, Nat.succ_eq_add_one, Nat.cast_add, Nat.cast_one]
      omega
    | false =>
      have hrest := ih (S.submit s a).2
      rw [S.refused s a hsubmit] at hrest
      simpa only [acceptedOf, hsubmit, Bool.false_eq_true, if_false, S.refused s a hsubmit]
        using hrest

/-- No version is named by two accepted attempts. -/
theorem nodup_expected (s : σ) (attempts : List α) :
    ((S.acceptedOf s attempts).map S.expected).Nodup := by
  rw [S.expected_acceptedOf]
  refine List.nodup_range.map fun i j hij => ?_
  have hij : S.version s + (i : ℤ) = S.version s + (j : ℤ) := hij
  omega

/-- The version counts the accepted attempts. -/
theorem version_after (s : σ) (attempts : List α) :
    S.version (S.after s attempts) = S.version s + ((S.acceptedOf s attempts).length : ℤ) := by
  induction attempts generalizing s with
  | nil => simp [after, acceptedOf]
  | cons a rest ih =>
    cases hsubmit : (S.submit s a).1 with
    | true =>
      obtain ⟨-, hversion⟩ := S.accepted s a hsubmit
      simp only [after, acceptedOf, hsubmit, if_true, List.length_cons, ih, hversion]
      push_cast
      omega
    | false =>
      simp only [after, acceptedOf, hsubmit, Bool.false_eq_true, if_false, ih,
        S.refused s a hsubmit]

end System

end Optimistic
