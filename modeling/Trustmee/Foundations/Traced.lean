import Mathlib.Data.List.Basic

/-!
# Computations that record their calls

A handler works on a state that others share, calls what it needs one after the other, and stops at
the first failure. What it did is the list of its calls with their answers, which stays when it
fails. A statement about the order of calls is one about this list: `Traced.run_bind_eq_ok` says how
the list of a sequence is put together, and `Traced.Meets.bind` what a sequence keeps of the state.
-/

namespace Trustmee

/-- How a run ends: its result, the calls that were made, and the state that is left. -/
structure Ending (σ κ ε α : Type) where
  result : Except ε α
  calls : List κ
  state : σ

/-- A computation over a state that can fail, with the calls that it makes. -/
def Traced (σ κ ε α : Type) : Type := σ → Ending σ κ ε α

namespace Traced

variable {σ κ ε α β γ : Type}

/-- The run from a state. -/
def run (x : Traced σ κ ε α) (s : σ) : Ending σ κ ε α := x s

/-- Sequencing: after a failure nothing is called. -/
def bind (x : Traced σ κ ε α) (f : α → Traced σ κ ε β) : Traced σ κ ε β := fun s =>
  match x s with
  | ⟨.ok a, calls, t⟩ => ⟨(f a t).result, calls ++ (f a t).calls, (f a t).state⟩
  | ⟨.error e, calls, t⟩ => ⟨.error e, calls, t⟩

instance : Monad (Traced σ κ ε) where
  pure a := fun s => ⟨.ok a, [], s⟩
  bind := bind

/-- A result that no call is needed for. -/
def lift (x : Except ε α) : Traced σ κ ε α := fun s => ⟨x, [], s⟩

/-- A call whose answer depends on the state and can change it. -/
def call (f : σ → Except ε α × σ) (record : Except ε α → κ) : Traced σ κ ε α := fun s =>
  ⟨(f s).1, [record (f s).1], (f s).2⟩

variable {x : Traced σ κ ε α} {f : α → Traced σ κ ε β} {s : σ}

@[simp] theorem run_pure (a : α) : (pure a : Traced σ κ ε α).run s = ⟨.ok a, [], s⟩ := rfl

@[simp] theorem run_lift (r : Except ε α) : (lift r : Traced σ κ ε α).run s = ⟨r, [], s⟩ := rfl

@[simp] theorem run_call (g : σ → Except ε α × σ) (record : Except ε α → κ) :
    (call g record).run s = ⟨(g s).1, [record (g s).1], (g s).2⟩ := rfl

/-- A sequence whose first part gives a value goes on with the second. -/
theorem run_bind_of_ok {a : α} {calls : List κ} {t : σ} (h : x.run s = ⟨.ok a, calls, t⟩) :
    (x >>= f).run s =
      ⟨((f a).run t).result, calls ++ ((f a).run t).calls, ((f a).run t).state⟩ := by
  change bind x f s = _
  change x s = _ at h
  rw [bind, h]
  rfl

/-- A sequence whose first part fails ends there. -/
theorem run_bind_of_error {e : ε} {calls : List κ} {t : σ} (h : x.run s = ⟨.error e, calls, t⟩) :
    (x >>= f).run s = ⟨.error e, calls, t⟩ := by
  change bind x f s = _
  change x s = _ at h
  rw [bind, h]

/-- A sequence gives a value exactly when both parts do, and it makes the calls of both. -/
theorem run_bind_eq_ok {b : β} {calls : List κ} {t : σ} :
    (x >>= f).run s = ⟨.ok b, calls, t⟩ ↔ ∃ a l u l', x.run s = ⟨.ok a, l, u⟩ ∧
      (f a).run u = ⟨.ok b, l', t⟩ ∧ calls = l ++ l' := by
  cases h : x.run s with
  | mk result l u =>
    cases result with
    | error e => simp [run_bind_of_error h]
    | ok a =>
      rw [run_bind_of_ok h]
      constructor
      · intro heq
        injection heq with hresult hcalls hstate
        refine ⟨a, l, u, ((f a).run u).calls, rfl, ?_, hcalls.symm⟩
        rw [← hresult, ← hstate]
      · rintro ⟨_, _, _, l', heq, hrun, rfl⟩
        cases heq
        rw [hrun]

/-- A sequence ends with its first part, or with its second. -/
theorem run_bind_cases (x : Traced σ κ ε α) (f : α → Traced σ κ ε β) (s : σ) :
    (∃ e calls t, x.run s = ⟨.error e, calls, t⟩ ∧ (x >>= f).run s = ⟨.error e, calls, t⟩) ∨
      ∃ a calls t, x.run s = ⟨.ok a, calls, t⟩ ∧ (x >>= f).run s =
        ⟨((f a).run t).result, calls ++ ((f a).run t).calls, ((f a).run t).state⟩ := by
  cases h : x.run s with
  | mk result calls t =>
    cases result with
    | error e => exact .inl ⟨e, calls, t, rfl, run_bind_of_error h⟩
    | ok a => exact .inr ⟨a, calls, t, rfl, run_bind_of_ok h⟩

theorem bind_assoc (x : Traced σ κ ε α) (f : α → Traced σ κ ε β) (g : β → Traced σ κ ε γ) :
    x >>= f >>= g = x >>= fun a => f a >>= g := by
  funext s
  change ((x >>= f) >>= g).run s = (x >>= fun a => f a >>= g).run s
  cases h : x.run s with
  | mk result l u =>
    cases result with
    | error e => rw [run_bind_of_error (run_bind_of_error h), run_bind_of_error h]
    | ok a =>
      rw [run_bind_of_ok h]
      cases hf : (f a).run u with
      | mk result l' t =>
        have hbind := run_bind_of_ok (f := f) h
        rw [hf] at hbind
        cases result with
        | error e => rw [run_bind_of_error hbind, run_bind_of_error hf]
        | ok b => rw [run_bind_of_ok hbind, run_bind_of_ok hf, List.append_assoc]

/-! ## Calls that are not made -/

/-- No run makes a call of the kind. -/
def Avoids (x : Traced σ κ ε α) (P : κ → Prop) : Prop := ∀ s, ∀ c ∈ (x.run s).calls, ¬ P c

variable {P : κ → Prop}

theorem avoids_pure (a : α) : (pure a : Traced σ κ ε α).Avoids P := by
  intro s c hc
  cases hc

theorem avoids_lift (r : Except ε α) : (lift r : Traced σ κ ε α).Avoids P := by
  intro s c hc
  cases hc

theorem avoids_call {g : σ → Except ε α × σ} {record : Except ε α → κ} (h : ∀ r, ¬ P (record r)) :
    (call g record).Avoids P := by
  intro s c hc
  rw [run_call, List.mem_singleton] at hc
  rw [hc]
  exact h _

theorem Avoids.bind (hx : x.Avoids P) (hf : ∀ a, (f a).Avoids P) : (x >>= f).Avoids P := by
  intro s c hc
  cases h : x.run s with
  | mk result l u =>
    have hl : ∀ c ∈ l, ¬ P c := by simpa [h] using hx s
    cases result with
    | error e =>
      rw [run_bind_of_error h] at hc
      exact hl c hc
    | ok a =>
      rw [run_bind_of_ok h] at hc
      rcases List.mem_append.1 hc with hc | hc
      · exact hl c hc
      · exact hf a u c hc

/-- When the first part makes no call of the kind, one is made only after it gave a value. -/
theorem exists_of_mem_calls_bind (hx : x.Avoids P) {c : κ} (hc : c ∈ ((x >>= f).run s).calls)
    (hP : P c) : ∃ a l u, x.run s = ⟨.ok a, l, u⟩ ∧ c ∈ ((f a).run u).calls := by
  cases h : x.run s with
  | mk result l u =>
    have hl : ∀ c ∈ l, ¬ P c := by simpa [h] using hx s
    cases result with
    | error e =>
      rw [run_bind_of_error h] at hc
      exact absurd hP (hl c hc)
    | ok a =>
      rw [run_bind_of_ok h] at hc
      rcases List.mem_append.1 hc with hc | hc
      · exact absurd hP (hl c hc)
      · exact ⟨a, l, u, rfl, hc⟩

/-! ## What a run keeps -/

/-- A run from a state with the property ends in one with it, and its calls are as wanted. -/
def Meets (x : Traced σ κ ε α) (I : σ → Prop) (P : κ → Prop) : Prop :=
  ∀ s, I s → I (x.run s).state ∧ ∀ c ∈ (x.run s).calls, P c

variable {I : σ → Prop}

theorem Meets.state {r : Except ε α} {calls : List κ} {t : σ} (hx : x.Meets I P) (hs : I s)
    (h : x.run s = ⟨r, calls, t⟩) : I t := by
  have hrun := (hx s hs).1
  rwa [h] at hrun

theorem meets_pure (a : α) : (pure a : Traced σ κ ε α).Meets I P := by
  intro s hs
  exact ⟨hs, fun c hc => by cases hc⟩

theorem meets_lift (r : Except ε α) : (lift r : Traced σ κ ε α).Meets I P := by
  intro s hs
  exact ⟨hs, fun c hc => by cases hc⟩

theorem meets_call {g : σ → Except ε α × σ} {record : Except ε α → κ}
    (h : ∀ s, I s → I (g s).2 ∧ P (record (g s).1)) : (call g record).Meets I P := by
  intro s hs
  rw [run_call]
  refine ⟨(h s hs).1, fun c hc => ?_⟩
  rw [List.mem_singleton.1 hc]
  exact (h s hs).2

theorem Meets.bind (hx : x.Meets I P) (hf : ∀ a, (f a).Meets I P) : (x >>= f).Meets I P := by
  intro s hs
  obtain ⟨hstate, hcalls⟩ := hx s hs
  cases h : x.run s with
  | mk result l u =>
    rw [h] at hstate hcalls
    cases result with
    | error e =>
      rw [run_bind_of_error h]
      exact ⟨hstate, hcalls⟩
    | ok a =>
      obtain ⟨hstate', hcalls'⟩ := hf a u hstate
      rw [run_bind_of_ok h]
      refine ⟨hstate', fun c hc => ?_⟩
      rcases List.mem_append.1 hc with hc | hc
      · exact hcalls c hc
      · exact hcalls' c hc

end Traced

end Trustmee
