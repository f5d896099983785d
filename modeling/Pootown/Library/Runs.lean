import Mathlib.Tactic

/-!
# Runs of a labelled transition system

A system is a relation `step s l s'` between states, labelled by what was done and observed.

* `Run step s ls s'`: the labels `ls` lead from `s` to `s'`;
* `Run.invariant`, `Reachable.invariant`: what one step preserves holds along every run;
* `Run.history`: the same for what also speaks of the labels so far;
* `Run.related`: a transitive relation between the ends of every step holds between the ends of a
  run; `Run.split`: a run around one of its labels;
* `Run.cost_add_le`: a measure that pays for every step bounds what a run costs, and
  `Run.length_add_le` its length;
* `Run.stays_or_leaves`: the first step of a run that does not keep what held at its start;
* `Guarded C step`: the steps whose start and label satisfy `C`, for invariants under a condition;
* `Run.last_of_final`, `Run.quiet`: final states, which have no steps, are entered by the last step
  of a run, and what only such a step puts out is put out by no other;
* `replay`: an executable run of a deterministic system, and `run_of_replay`.
-/

namespace Runs

universe u v w

variable {σ : Type u} {ε : Type v}

/-- The labels `ls`, in order, lead from `s` to `s'`. -/
inductive Run (step : σ → ε → σ → Prop) : σ → List ε → σ → Prop
  | nil (s : σ) : Run step s [] s
  | cons {s m s' : σ} {l : ε} {ls : List ε} :
      step s l m → Run step m ls s' → Run step s (l :: ls) s'

/-- `s` is the end of a run from an initial state. -/
def Reachable (init : σ → Prop) (step : σ → ε → σ → Prop) (s : σ) : Prop :=
  ∃ s₀ ls, init s₀ ∧ Run step s₀ ls s

/-- The steps that start in a state, and carry a label, which satisfy `C`. -/
def Guarded (C : σ → ε → Prop) (step : σ → ε → σ → Prop) (s : σ) (l : ε) (s' : σ) : Prop :=
  step s l s' ∧ C s l

variable {step step' : σ → ε → σ → Prop} {init I final : σ → Prop} {s s' : σ} {ls ls' : List ε}

theorem Run.append {s'' : σ} (h : Run step s ls s') (h' : Run step s' ls' s'') :
    Run step s (ls ++ ls') s'' := by
  induction h with
  | nil => exact h'
  | cons hstep _ ih => exact .cons hstep (ih h')

theorem Run.snoc {l : ε} {s'' : σ} (h : Run step s ls s') (hstep : step s' l s'') :
    Run step s (ls ++ [l]) s'' :=
  h.append (.cons hstep (.nil s''))

theorem Run.of_append (h : Run step s (ls ++ ls') s') :
    ∃ m, Run step s ls m ∧ Run step m ls' s' := by
  induction ls generalizing s with
  | nil => exact ⟨s, .nil s, h⟩
  | cons l rest ih =>
    cases h with
    | cons hfirst hrest =>
      obtain ⟨m, hm, hafter⟩ := ih hrest
      exact ⟨m, .cons hfirst hm, hafter⟩

theorem Run.mono (hle : ∀ s l s', step s l s' → step' s l s') (h : Run step s ls s') :
    Run step' s ls s' := by
  induction h with
  | nil => exact .nil _
  | cons hstep _ ih => exact .cons (hle _ _ _ hstep) ih

/-- A run whose labels satisfy the condition wherever they are done is a guarded run. -/
theorem Run.guarded {C : σ → ε → Prop} (h : Run step s ls s') (hC : ∀ l ∈ ls, ∀ s, C s l) :
    Run (Guarded C step) s ls s' := by
  induction h with
  | nil => exact .nil _
  | cons hstep _ ih =>
    exact .cons ⟨hstep, hC _ (List.mem_cons_self ..) _⟩
      (ih fun l hl => hC l (List.mem_cons_of_mem _ hl))

/-- What every step preserves, a run preserves. -/
theorem Run.invariant (hstep : ∀ s l s', I s → step s l s' → I s') (h : Run step s ls s')
    (hI : I s) : I s' := by
  induction h with
  | nil => exact hI
  | cons hfirst _ ih => exact ih (hstep _ _ _ hI hfirst)

/-- A transitive relation that every step stays within, a run stays within. -/
theorem Run.related {R : σ → σ → Prop} [Std.Refl R] [IsTrans σ R]
    (hstep : ∀ s l s', step s l s' → R s s') (h : Run step s ls s') : R s s' := by
  induction h with
  | nil s => exact Std.Refl.refl s
  | cons hfirst _ ih => exact IsTrans.trans _ _ _ (hstep _ _ _ hfirst) ih

/-- What holds of a state and of the labels that led there holds at the end of a run. -/
theorem Run.history {J : List ε → σ → Prop} {past : List ε}
    (hstep : ∀ past s l s', J past s → step s l s' → J (past ++ [l]) s') (h : Run step s ls s')
    (hJ : J past s) : J (past ++ ls) s' := by
  induction h generalizing past with
  | nil => simpa using hJ
  | @cons s m s' l ls hfirst _ ih =>
    have hnext := ih (hstep past s l m hJ hfirst)
    rwa [List.append_assoc, List.singleton_append] at hnext

/-- A run passes through a step for each of its labels. -/
theorem Run.split {l : ε} (h : Run step s ls s') (hl : l ∈ ls) :
    ∃ before after m m', ls = before ++ l :: after ∧ Run step s before m ∧ step m l m' ∧
      Run step m' after s' := by
  induction h with
  | nil => cases hl
  | @cons s m s' first rest hfirst hrest ih =>
    rcases List.mem_cons.1 hl with rfl | hmem
    · exact ⟨[], rest, s, m, rfl, .nil s, hfirst, hrest⟩
    · obtain ⟨before, after, m₁, m₂, rfl, hbefore, hat, hafter⟩ := ih hmem
      exact ⟨first :: before, after, m₁, m₂, rfl, .cons hfirst hbefore, hat, hafter⟩

/-- Where a step keeps `I` or leaves it, a run keeps it throughout or up to a first step that
leaves. -/
theorem Run.stays_or_leaves {stay leave : σ → ε → σ → Prop}
    (hstep : ∀ s l s', I s → step s l s' → (stay s l s' ∧ I s') ∨ leave s l s')
    (h : Run step s ls s') (hI : I s) : Run stay s ls s' ∨
      ∃ before l after m m', ls = before ++ l :: after ∧ Run stay s before m ∧ leave m l m' ∧
        Run step m' after s' := by
  induction h with
  | nil s => exact .inl (.nil s)
  | @cons s m s' l ls hfirst hrest ih =>
    obtain ⟨hstay, hm⟩ | hleave := hstep s l m hI hfirst
    · obtain hall | ⟨before, l', after, m₁, m₂, rfl, hbefore, hleave, hafter⟩ := ih hm
      · exact .inl (.cons hstay hall)
      · exact .inr ⟨l :: before, l', after, m₁, m₂, rfl, .cons hstay hbefore, hleave, hafter⟩
    · exact .inr ⟨[], l, ls, s, m, rfl, .nil s, hleave, hrest⟩

/-- Where a measure pays for the label of every step, its fall bounds what the labels of a run
cost. -/
theorem Run.cost_add_le {μ : σ → ℤ} {cost : ε → ℤ} (hstep : ∀ s l s', I s → step s l s' → I s')
    (hμ : ∀ s l s', I s → step s l s' → cost l + μ s' ≤ μ s) (h : Run step s ls s') (hI : I s) :
    (ls.map cost).sum + μ s' ≤ μ s := by
  induction h with
  | nil => simp
  | @cons s m s' l ls hfirst _ ih =>
    have hfall := hμ s l m hI hfirst
    have hrest := ih (hstep s l m hI hfirst)
    rw [List.map_cons, List.sum_cons]
    omega

/-- Where every step lowers a measure, its fall bounds the length of a run. -/
theorem Run.length_add_le {μ : σ → ℤ} (hstep : ∀ s l s', I s → step s l s' → I s')
    (hμ : ∀ s l s', I s → step s l s' → μ s' + 1 ≤ μ s) (h : Run step s ls s') (hI : I s) :
    (ls.length : ℤ) + μ s' ≤ μ s := by
  have hcost : ∀ s l s', I s → step s l s' → (fun _ : ε => (1 : ℤ)) l + μ s' ≤ μ s :=
    fun s l s' hI hfirst => (add_comm _ _).trans_le (hμ s l s' hI hfirst)
  have hsum : (ls.map fun _ => (1 : ℤ)).sum = ls.length := by simp
  exact hsum ▸ h.cost_add_le hstep hcost hI

theorem Reachable.initial (h : init s) : Reachable init step s := ⟨s, [], h, .nil s⟩

theorem Reachable.snoc {l : ε} (h : Reachable init step s) (hstep : step s l s') :
    Reachable init step s' := by
  obtain ⟨s₀, ls, h₀, hrun⟩ := h
  exact ⟨s₀, ls ++ [l], h₀, hrun.snoc hstep⟩

theorem Reachable.run (h : Reachable init step s) (hrun : Run step s ls s') :
    Reachable init step s' := by
  obtain ⟨s₀, ls₀, h₀, hrun₀⟩ := h
  exact ⟨s₀, ls₀ ++ ls, h₀, hrun₀.append hrun⟩

/-- What holds initially and is preserved by every step holds in every reachable state. -/
theorem Reachable.invariant (hinit : ∀ s, init s → I s)
    (hstep : ∀ s l s', I s → step s l s' → I s') (h : Reachable init step s) : I s := by
  obtain ⟨s₀, ls, h₀, hrun⟩ := h
  exact hrun.invariant hstep (hinit s₀ h₀)

/-! ### Final states -/

/-- Where final states have no steps, a run that ends in one gets there with its last step. -/
theorem Run.last_of_final (hstop : ∀ s l s', final s → ¬ step s l s') (h : Run step s ls s')
    (hs : ¬ final s) (hs' : final s') :
    ∃ before m l, ls = before ++ [l] ∧ Run step s before m ∧ ¬ final m ∧ step m l s' := by
  induction h with
  | nil => exact absurd hs' hs
  | @cons s m s' l ls hstep hrest ih =>
    by_cases hm : final m
    · cases hrest with
      | nil => exact ⟨[], s, l, rfl, .nil s, hs, hstep⟩
      | cons hnext _ => exact absurd hnext (hstop _ _ _ hm)
    · obtain ⟨before, m', l', rfl, hbefore, hm', hlast⟩ := ih hm hs'
      exact ⟨l :: before, m', l', rfl, .cons hstep hbefore, hm', hlast⟩

/-- What only the steps to final states put out, a run that ends elsewhere does not. -/
theorem Run.quiet {β : Type w} {out : ε → List β} (hstop : ∀ s l s', final s → ¬ step s l s')
    (hquiet : ∀ s l s', step s l s' → ¬ final s' → out l = []) (h : Run step s ls s')
    (hs' : ¬ final s') : ls.flatMap out = [] := by
  induction h with
  | nil => rfl
  | @cons s m s' l ls hstep hrest ih =>
    have hm : ¬ final m := by
      intro hm
      cases hrest with
      | nil => exact hs' hm
      | cons hnext _ => exact hstop _ _ _ hm hnext
    rw [List.flatMap_cons, hquiet s l m hstep hm, ih hs', List.append_nil]

/-! ### Deterministic systems -/

/-- Apply the inputs in order; none as soon as one is refused. -/
def replay {ι : Type v} (next : σ → ι → Option σ) : σ → List ι → Option σ
  | s, [] => some s
  | s, i :: rest => (next s i).bind fun s' => replay next s' rest

/-- A replay whose every accepted input is a step is a run. -/
theorem run_of_replay {ι : Type v} {next : σ → ι → Option σ} {inputs : List ι} {s s' : σ}
    (hnext : ∀ s i s', next s i = some s' → ∃ l, step s l s')
    (h : replay next s inputs = some s') : ∃ ls, Run step s ls s' := by
  induction inputs generalizing s with
  | nil =>
    cases h
    exact ⟨[], .nil _⟩
  | cons i rest ih =>
    obtain ⟨m, hm, hrest⟩ := Option.bind_eq_some_iff.1 h
    obtain ⟨l, hstep⟩ := hnext s i m hm
    obtain ⟨ls, hrun⟩ := ih hrest
    exact ⟨l :: ls, .cons hstep hrun⟩

end Runs
