import Mathlib.Tactic

/-!
# Transactions

A transaction reads and writes a state, and either returns a value or fails; a transaction that
fails leaves the state as it was, because only a returned state is ever installed.

* `Tx σ ε α`: transactions on the state `σ` with failures `ε`, a monad;
* `read`, `write`, `check`, `checkSome`, `fail`: the primitive statements;
* `Table κ ρ`: rows by primary key, and `insertRow`, which fails on a key that is taken;
* the `_eq_ok` lemmas: a transaction returns exactly when its checks pass, statement by statement;
* `Within R tx`: whatever `tx` does stays within the relation `R`, with one rule per connective;
* `Triple P tx Q`: pre- and postconditions of a transaction, with the same rules and one for loops;
  `Keeps P tx`: an invariant.
-/

namespace Transactions

/-- A transaction: from a state to a value and the next state, or to a failure. -/
def Tx (σ ε α : Type) : Type := σ → Except ε (α × σ)

variable {σ ε α β ρ : Type}

instance : Monad (Tx σ ε) where
  pure a s := .ok (a, s)
  bind x f s := match x s with
    | .ok (a, s') => f a s'
    | .error e => .error e

/-- The current state. -/
def read : Tx σ ε σ := fun s => .ok (s, s)

/-- Change the state. -/
def write (f : σ → σ) : Tx σ ε Unit := fun s => .ok ((), f s)

/-- Fail with `e`. -/
def fail (e : ε) : Tx σ ε α := fun _ => .error e

/-- Fail with `e` unless `p` holds. -/
def check (p : Prop) [Decidable p] (e : ε) : Tx σ ε Unit := if p then pure () else fail e

/-- The value of `o`; fail with `e` when there is none. -/
def checkSome (o : Option α) (e : ε) : Tx σ ε α :=
  match o with
  | some a => pure a
  | none => fail e

/-- The rows of a table by their primary key. -/
abbrev Table (κ ρ : Type) : Type := κ → Option ρ

/-- Insert `row` under `key` into the table that `get` reads and `set` replaces; fail with `e` when
the key is taken. -/
def insertRow {κ : Type} [DecidableEq κ] (get : σ → Table κ ρ) (set : Table κ ρ → σ → σ)
    (key : κ) (row : ρ) (e : ε) : Tx σ ε Unit := do
  let s ← read
  check ((get s key).isNone = true) e
  write (set (Function.update (get s) key (some row)))

/-! ### What a transaction that returns has done -/

section Inversion

variable {a : α} {b : β} {s s' : σ} {e : ε}

theorem pure_eq_ok {a' : α} : (pure a : Tx σ ε α) s = .ok (a', s') ↔ a = a' ∧ s = s' := by
  show (Except.ok (a, s) : Except ε (α × σ)) = .ok (a', s') ↔ _
  rw [Except.ok.injEq, Prod.mk.injEq]

theorem bind_eq_ok {x : Tx σ ε α} {f : α → Tx σ ε β} :
    (x >>= f) s = .ok (b, s') ↔ ∃ a m, x s = .ok (a, m) ∧ f a m = .ok (b, s') := by
  show (match x s with
    | .ok (a, s') => f a s'
    | .error e => .error e) = .ok (b, s') ↔ _
  cases x s with
  | error e => simp
  | ok result =>
    obtain ⟨a, m⟩ := result
    simp

theorem read_eq_ok {t : σ} : (read : Tx σ ε σ) s = .ok (t, s') ↔ t = s ∧ s' = s := by
  simp only [read, Except.ok.injEq, Prod.mk.injEq]
  exact ⟨fun ⟨h, h'⟩ => ⟨h.symm, h'.symm⟩, fun ⟨h, h'⟩ => ⟨h.symm, h'.symm⟩⟩

theorem write_eq_ok {f : σ → σ} {u : Unit} :
    (write f : Tx σ ε Unit) s = .ok (u, s') ↔ s' = f s := by
  simp [write, eq_comm]

theorem fail_eq_ok : (fail e : Tx σ ε α) s = .ok (a, s') ↔ False := by
  simp [fail]

theorem check_eq_ok {p : Prop} [Decidable p] {u : Unit} :
    (check p e : Tx σ ε Unit) s = .ok (u, s') ↔ p ∧ s' = s := by
  unfold check
  split_ifs with h
  · rw [pure_eq_ok]
    simp [h, eq_comm]
  · simp [fail_eq_ok, h]

theorem checkSome_eq_ok {o : Option α} :
    (checkSome o e : Tx σ ε α) s = .ok (a, s') ↔ o = some a ∧ s' = s := by
  cases o with
  | none => simp [checkSome, fail_eq_ok]
  | some a' =>
    show (pure a' : Tx σ ε α) s = .ok (a, s') ↔ _
    rw [pure_eq_ok]
    simp [eq_comm]

theorem ite_eq_ok {p : Prop} [Decidable p] {x y : Tx σ ε α} :
    (if p then x else y) s = .ok (a, s') ↔
      (p ∧ x s = .ok (a, s')) ∨ (¬ p ∧ y s = .ok (a, s')) := by
  split_ifs with h <;> simp [h]

/-! Chains, read statement by statement. -/

theorem bind_bind {x : Tx σ ε α} {f : α → Tx σ ε β} {γ : Type} {g : β → Tx σ ε γ} :
    (x >>= f >>= g) s = (x >>= fun a => f a >>= g) s := by
  show (match (match x s with
      | .ok (a, s') => f a s'
      | .error e => .error e) with
    | .ok (a, s') => g a s'
    | .error e => .error e) = _
  show _ = (match x s with
    | .ok (a, s') => (f a >>= g) s'
    | .error e => .error e)
  cases x s with
  | error e => rfl
  | ok result => rfl

theorem read_bind {f : σ → Tx σ ε β} : (read >>= f) s = f s s := rfl

theorem write_bind {g : σ → σ} {f : Unit → Tx σ ε β} : (write g >>= f) s = f () (g s) := rfl

theorem check_bind_eq_ok {p : Prop} [Decidable p] {f : Unit → Tx σ ε β} {r : β × σ} :
    (check p e >>= f) s = .ok r ↔ p ∧ f () s = .ok r := by
  obtain ⟨b, s'⟩ := r
  rw [bind_eq_ok]
  constructor
  · rintro ⟨_, m, hcheck, hf⟩
    obtain ⟨hp, rfl⟩ := check_eq_ok.1 hcheck
    exact ⟨hp, hf⟩
  · rintro ⟨hp, hf⟩
    exact ⟨(), s, check_eq_ok.2 ⟨hp, rfl⟩, hf⟩

theorem check_of {p : Prop} [Decidable p] (h : p) : (check p e : Tx σ ε Unit) s = .ok ((), s) := by
  rw [check, if_pos h]
  rfl

theorem check_of_not {p : Prop} [Decidable p] (h : ¬ p) :
    (check p e : Tx σ ε Unit) s = .error e := by
  rw [check, if_neg h]
  rfl

theorem bind_of_ok {x : Tx σ ε α} {f : α → Tx σ ε β} (h : x s = .ok (a, s')) :
    (x >>= f) s = f a s' := by
  show (match x s with
    | .ok (a, s') => f a s'
    | .error e => .error e) = _
  rw [h]

theorem bind_of_error {x : Tx σ ε α} {f : α → Tx σ ε β} (h : x s = .error e) :
    (x >>= f) s = .error e := by
  show (match x s with
    | .ok (a, s') => f a s'
    | .error e => .error e) = _
  rw [h]

theorem checkSome_bind_eq_ok {o : Option α} {f : α → Tx σ ε β} {r : β × σ} :
    (checkSome o e >>= f) s = .ok r ↔ ∃ a, o = some a ∧ f a s = .ok r := by
  obtain ⟨b, s'⟩ := r
  rw [bind_eq_ok]
  constructor
  · rintro ⟨a, m, hcheck, hf⟩
    obtain ⟨ha, rfl⟩ := checkSome_eq_ok.1 hcheck
    exact ⟨a, ha, hf⟩
  · rintro ⟨a, ha, hf⟩
    exact ⟨a, s, checkSome_eq_ok.2 ⟨ha, rfl⟩, hf⟩

theorem insertRow_eq_ok {κ : Type} [DecidableEq κ] {get : σ → Table κ ρ}
    {set : Table κ ρ → σ → σ} {key : κ} {row : ρ} {u : Unit} :
    (insertRow get set key row e : Tx σ ε Unit) s = .ok (u, s') ↔
      get s key = none ∧ s' = set (Function.update (get s) key (some row)) s := by
  simp only [insertRow, read_bind, check_bind_eq_ok, write_eq_ok, Option.isNone_iff_eq_none]

theorem toList_forM_eq_ok {o : Option ρ} {f : ρ → Tx σ ε PUnit} {u : PUnit} :
    (o.toList.forM f) s = .ok (u, s') ↔
      (o = none ∧ s' = s) ∨ ∃ r, o = some r ∧ f r s = .ok (u, s') := by
  cases o with
  | none =>
    show (pure PUnit.unit : Tx σ ε PUnit) s = .ok (u, s') ↔ _
    rw [pure_eq_ok]
    simp [eq_comm]
  | some r =>
    show (f r >>= fun _ => pure PUnit.unit) s = .ok (u, s') ↔ _
    simp only [bind_eq_ok, pure_eq_ok, reduceCtorEq, false_and, false_or, Option.some.injEq]
    constructor
    · rintro ⟨_, _, h, -, rfl⟩
      exact ⟨r, rfl, h⟩
    · rintro ⟨_, rfl, h⟩
      exact ⟨_, _, h, trivial, rfl⟩

end Inversion

/-! ### Relations that a transaction stays within -/

/-- Whenever `tx` returns, its states are related by `R`. -/
def Within (R : σ → σ → Prop) (tx : Tx σ ε α) : Prop :=
  ∀ s a s', tx s = .ok (a, s') → R s s'

section Within

variable {R S : σ → σ → Prop}

theorem Within.mono (hRS : ∀ s s', R s s' → S s s') {tx : Tx σ ε α} (h : Within R tx) :
    Within S tx :=
  fun s a s' hs => hRS s s' (h s a s' hs)

theorem Within.fail (e : ε) : Within R (fail e : Tx σ ε α) := by
  intro s a s' h
  cases h

theorem Within.write {f : σ → σ} (h : ∀ s, R s (f s)) : Within R (write f : Tx σ ε Unit) := by
  intro s u s' hs
  rw [write_eq_ok.1 hs]
  exact h s

theorem Within.pure [Std.Refl R] (a : α) : Within R (Pure.pure a : Tx σ ε α) := by
  intro s a' s' h
  rw [(pure_eq_ok.1 h).2]
  exact Std.Refl.refl s'

theorem Within.read [Std.Refl R] : Within R (read : Tx σ ε σ) := by
  intro s t s' h
  rw [(read_eq_ok.1 h).2]
  exact Std.Refl.refl s

theorem Within.check [Std.Refl R] (p : Prop) [Decidable p] (e : ε) :
    Within R (check p e : Tx σ ε Unit) := by
  intro s u s' h
  rw [(check_eq_ok.1 h).2]
  exact Std.Refl.refl s

theorem Within.checkSome [Std.Refl R] (o : Option α) (e : ε) :
    Within R (checkSome o e : Tx σ ε α) := by
  intro s a s' h
  rw [(checkSome_eq_ok.1 h).2]
  exact Std.Refl.refl s

theorem Within.bind [IsTrans σ R] {x : Tx σ ε α} {f : α → Tx σ ε β} (hx : Within R x)
    (hf : ∀ a, Within R (f a)) : Within R (x >>= f) := by
  intro s b s' h
  obtain ⟨a, m, hxm, hfm⟩ := bind_eq_ok.1 h
  exact IsTrans.trans _ _ _ (hx s a m hxm) (hf a m b s' hfm)

theorem Within.ite {p : Prop} [Decidable p] {x y : Tx σ ε α} (hx : Within R x)
    (hy : Within R y) : Within R (if p then x else y) := by
  split_ifs
  · exact hx
  · exact hy

theorem Within.forM [Std.Refl R] [IsTrans σ R] {l : List ρ} {f : ρ → Tx σ ε PUnit}
    (hf : ∀ r ∈ l, Within R (f r)) : Within R (l.forM f) := by
  induction l with
  | nil => exact .pure _
  | cons r rest ih =>
    exact .bind (hf r (List.mem_cons_self ..)) fun _ =>
      ih fun r' hr' => hf r' (List.mem_cons_of_mem _ hr')

/-- Each round of a loop has run, between two states of it. -/
theorem Within.round [Std.Refl R] [IsTrans σ R] {l : List ρ} {f : ρ → Tx σ ε PUnit}
    (hf : ∀ r ∈ l, Within R (f r)) {s s' : σ} {u : PUnit} (h : l.forM f s = .ok (u, s')) {r : ρ}
    (hr : r ∈ l) : ∃ t t' v, R s t ∧ f r t = .ok (v, t') ∧ R t' s' := by
  induction l generalizing s with
  | nil => cases hr
  | cons first rest ih =>
    obtain ⟨v, t, hfirst, hrest⟩ := bind_eq_ok.1 h
    have hkept : R t s' :=
      Within.forM (fun r' hr' => hf r' (List.mem_cons_of_mem _ hr')) _ _ _ hrest
    rcases List.mem_cons.1 hr with rfl | hr
    · exact ⟨s, t, v, Std.Refl.refl s, hfirst, hkept⟩
    · obtain ⟨t', t'', v', hbefore, hround, hafter⟩ :=
        ih (fun r' hr' => hf r' (List.mem_cons_of_mem _ hr')) hrest hr
      exact ⟨t', t'', v', IsTrans.trans _ _ _ (hf first (List.mem_cons_self ..) _ _ _ hfirst)
        hbefore, hround, hafter⟩

end Within

/-! ### Pre- and postconditions -/

/-- From a state that satisfies `P`, whenever `tx` returns, its value and state satisfy `Q`. -/
def Triple (P : σ → Prop) (tx : Tx σ ε α) (Q : α → σ → Prop) : Prop :=
  ∀ s a s', P s → tx s = .ok (a, s') → Q a s'

/-- `tx` keeps `P`. -/
abbrev Keeps (P : σ → Prop) (tx : Tx σ ε α) : Prop := Triple P tx fun _ => P

section Triple

variable {P P' : σ → Prop} {Q Q' : α → σ → Prop}

theorem Triple.conseq {tx : Tx σ ε α} (h : Triple P tx Q) (hP : ∀ s, P' s → P s)
    (hQ : ∀ a s, Q a s → Q' a s) : Triple P' tx Q' :=
  fun s a s' hs hrun => hQ a s' (h s a s' (hP s hs) hrun)

theorem Triple.pre {tx : Tx σ ε α} (h : Triple P tx Q) (hP : ∀ s, P' s → P s) : Triple P' tx Q :=
  h.conseq hP fun _ _ => id

theorem Triple.post {tx : Tx σ ε α} (h : Triple P tx Q) (hQ : ∀ a s, Q a s → Q' a s) :
    Triple P tx Q' :=
  h.conseq (fun _ => id) hQ

/-- What the precondition says of no state in particular may be assumed. -/
theorem Triple.assuming {p : Prop} {tx : Tx σ ε α} (h : p → Triple P tx Q) :
    Triple (fun s => p ∧ P s) tx Q :=
  fun s a s' hs => h hs.1 s a s' hs.2

theorem Triple.pure {a : α} (h : ∀ s, P s → Q a s) : Triple P (Pure.pure a : Tx σ ε α) Q := by
  intro s a' s' hs hrun
  obtain ⟨rfl, rfl⟩ := pure_eq_ok.1 hrun
  exact h s hs

theorem Triple.fail {e : ε} : Triple P (fail e : Tx σ ε α) Q := by
  intro s a s' _ hrun
  cases hrun

theorem Triple.bind {R : α → σ → Prop} {Q : β → σ → Prop} {x : Tx σ ε α} {f : α → Tx σ ε β}
    (hx : Triple P x R) (hf : ∀ a, Triple (R a) (f a) Q) : Triple P (x >>= f) Q := by
  intro s b s' hs hrun
  obtain ⟨a, m, hxm, hfm⟩ := bind_eq_ok.1 hrun
  exact hf a m b s' (hx s a m hs hxm) hfm

theorem Triple.check {p : Prop} [Decidable p] {e : ε} :
    Triple P (check p e : Tx σ ε Unit) fun _ s => p ∧ P s := by
  intro s u s' hs hrun
  obtain ⟨hp, rfl⟩ := check_eq_ok.1 hrun
  exact ⟨hp, hs⟩

theorem Triple.checkSome {o : Option α} {e : ε} :
    Triple P (checkSome o e : Tx σ ε α) fun a s => o = some a ∧ P s := by
  intro s a s' hs hrun
  obtain ⟨ha, rfl⟩ := checkSome_eq_ok.1 hrun
  exact ⟨ha, hs⟩

theorem Triple.ite {p : Prop} [Decidable p] {x y : Tx σ ε α} (hx : p → Triple P x Q)
    (hy : ¬ p → Triple P y Q) : Triple P (if p then x else y) Q := by
  split_ifs with hp
  · exact hx hp
  · exact hy hp

/-- What each round of a loop keeps, of the rows that are left, the loop keeps. -/
theorem Triple.forM {I : List ρ → σ → Prop} {f : ρ → Tx σ ε PUnit} {l : List ρ}
    (hround : ∀ r rest, Triple (I (r :: rest)) (f r) fun _ => I rest) :
    Triple (I l) (l.forM f) fun _ => I [] := by
  induction l with
  | nil => exact .pure fun _ => id
  | cons r rest ih => exact .bind (hround r rest) fun _ => ih

theorem Keeps.forM {f : ρ → Tx σ ε PUnit} {l : List ρ} (hround : ∀ r ∈ l, Keeps P (f r)) :
    Keeps P (l.forM f) := by
  induction l with
  | nil => exact .pure fun _ => id
  | cons r rest ih =>
    exact .bind (hround r (List.mem_cons_self ..)) fun _ =>
      ih fun r' hr' => hround r' (List.mem_cons_of_mem _ hr')

/-- What a relation carries along, a transaction within the relation keeps. -/
theorem Within.keeps {R : σ → σ → Prop} {tx : Tx σ ε α} (h : Within R tx)
    (hP : ∀ s s', R s s' → P s → P s') : Keeps P tx :=
  fun s a s' hs hrun => hP s s' (h s a s' hrun) hs

end Triple

end Transactions
