import Trustmee.Foundations.Linearizable
import Trustmee.Foundations.Program

/-!
# States behind a readers-writer lock

An operation takes the lock, for reading or for writing, runs its program step by step, and gives
the lock back with its answer. Any number of readers hold the lock at once; a writer holds it alone.
What an operation does in the middle is seen by no operation that writes, and by none that reads
while it writes: every history is linearizable, and each answer is the one of the program run alone
(`isLinearization`).
-/

namespace Trustmee

open Transition Linearizable

/-- Operations on a state, each with its program. Those that do not write only read. -/
structure GuardedStore (σ ι α : Type) where
  /-- The operation takes the lock for writing. -/
  writes : ι → Bool
  body : ι → Program σ α
  reads : ∀ op, writes op = false → (body op).Reads

namespace GuardedStore

variable {σ ι α : Type} (G : GuardedStore σ ι α)

/-- The operations one at a time. -/
def spec : System σ (ι × α) where
  Init _ := True
  Step s l t := (G.body l.1).run s = (l.2, t)

/-- An operation that holds the lock still has a program to run. -/
abbrev Phase (σ ι α : Type) := Stage ι α (Program σ α) Unit

/-- The state behind the lock, and the operations that callers are in the middle of. -/
structure State (σ ι α : Type) where
  state : σ
  calls : Table ℕ (Phase σ ι α)

/-- The operation holds the lock. -/
def State.Holds (s : State σ ι α) (i : ℕ) (op : ι) : Prop := ∃ p, s.calls i = some (.pending op p)

/-- The lock is free for an operation: nobody holds it, or only readers do, and the operation is
one. -/
def Free (s : State σ ι α) (op : ι) : Prop :=
  ∀ j op', s.Holds j op' → G.writes op = false ∧ G.writes op' = false

/-- Nobody holds the lock. -/
def Idle (calls : Table ℕ (Phase σ ι α)) : Prop := ∀ i op p, calls i ≠ some (.pending op p)

theorem idle_empty : Idle (.empty : Table ℕ (Phase σ ι α)) := fun i op p h => by cases h

theorem Idle.insert {calls : Table ℕ (Phase σ ι α)} {phase : Phase σ ι α} (h : Idle calls) (i : ℕ)
    (hphase : ∀ op p, phase ≠ .pending op p) : Idle (calls.insert i phase) := by
  intro j op p hj
  rcases Table.insert_eq_some hj with ⟨-, heq⟩ | ⟨-, hj⟩
  · exact hphase op p heq.symm
  · exact h j op p hj

/-- What an operation does in the middle. -/
inductive Move
  | acquire
  | step
  | release

/-- One step of one operation. -/
inductive Step : State σ ι α → Label ι α Move → State σ ι α → Prop
  | invoke {s : State σ ι α} {i : ℕ} {op : ι} (hi : s.calls i = none) :
      Step s (.invoke i op) ⟨s.state, s.calls.insert i (.started op)⟩
  | acquire {s : State σ ι α} {i : ℕ} {op : ι} (hi : s.calls i = some (.started op))
      (hfree : G.Free s op) :
      Step s (.move i .acquire) ⟨s.state, s.calls.insert i (.pending op (G.body op))⟩
  | step {s : State σ ι α} {i : ℕ} {op : ι} {write : σ → σ} {next : σ → Program σ α}
      (hi : s.calls i = some (.pending op (.step write next))) :
      Step s (.move i .step) ⟨write s.state, s.calls.insert i (.pending op (next s.state))⟩
  | release {s : State σ ι α} {i : ℕ} {op : ι} {a : α}
      (hi : s.calls i = some (.pending op (.done a))) :
      Step s (.move i .release) ⟨s.state, s.calls.insert i (.settled a ())⟩
  | respond {s : State σ ι α} {i : ℕ} {a : α} (hi : s.calls i = some (.settled a ())) :
      Step s (.respond i a) ⟨s.state, s.calls.insert i (.returned a)⟩

/-- Any number of operations on a state. -/
def system (state : σ) : System (State σ ι α) (Label ι α Move) where
  Init s := s = ⟨state, .empty⟩
  Step := Step G

/-! ## An operation that nobody disturbs -/

/-- The program of an operation that holds the lock runs to its end. -/
theorem exists_run_program (state : σ) {s : State σ ι α} {t : σ} {i : ℕ} {op : ι} {a : α}
    {p : Program σ α} (hi : s.calls i = some (.pending op p)) (hp : p.run s.state = (a, t)) :
    ∃ tr, history tr = [] ∧
      Run (G.system state) s tr ⟨t, s.calls.insert i (.pending op (.done a))⟩ := by
  induction p generalizing s with
  | done b =>
    cases hp
    refine ⟨[], rfl, ?_⟩
    have hcalls : s.calls.insert i (.pending op (.done a)) = s.calls := by
      funext j
      by_cases hj : j = i
      · rw [hj, Table.insert_self, hi]
      · exact Table.insert_of_ne _ _ hj
    rw [hcalls]
    exact .nil
  | step write next ih =>
    obtain ⟨tr, htr, hrun⟩ := ih s.state
      (s := ⟨write s.state, s.calls.insert i (.pending op (next s.state))⟩)
      (Table.insert_self _ _ _) hp
    rw [Table.insert_insert] at hrun
    exact ⟨.move i .step :: tr, htr, .cons (.step hi) hrun⟩

/-- An operation that finds nobody at the lock takes it, runs to its end and gives it back. -/
theorem exists_run_section (state : σ) {s : State σ ι α} {t : σ} {i : ℕ} {op : ι} {a : α}
    (hi : s.calls i = some (.started op)) (hidle : Idle s.calls)
    (hop : (G.body op).run s.state = (a, t)) : ∃ tr, history tr = [] ∧
      Run (G.system state) s tr ⟨t, s.calls.insert i (.settled a ())⟩ := by
  have hfree : G.Free s op := fun j op' hj => by
    obtain ⟨p, hj⟩ := hj
    exact absurd hj (hidle j op' p)
  obtain ⟨tr, htr, hrun⟩ := G.exists_run_program state
    (s := ⟨s.state, s.calls.insert i (.pending op (G.body op))⟩) (Table.insert_self _ _ _) hop
  have hrelease : (G.system state).Step ⟨t, s.calls.insert i (.pending op (.done a))⟩
      (.move i .release) ⟨t, s.calls.insert i (.settled a ())⟩ := by
    have hstep := Step.release (G := G) (s := ⟨t, s.calls.insert i (.pending op (.done a))⟩)
      (Table.insert_self _ _ _)
    rwa [Table.insert_insert] at hstep
  rw [Table.insert_insert] at hrun
  refine ⟨.move i .acquire :: (tr ++ [.move i .release]), ?_,
    .cons (.acquire hi hfree) (hrun.snoc hrelease)⟩
  change history (tr ++ [.move i .release]) = []
  rw [history_concat_move, htr]

/-! ## The invariant -/

variable {G} {state t : σ} {s s' : State σ ι α} {l : Label ι α Move} {tr : List (Label ι α Move)}
  {i : ℕ} {op : ι} {p : Program σ α}

/-- The state is the one that the operations in effect leave, but for what the writer that holds the
lock has done. Whoever holds it ends as if it ran alone. -/
structure Agrees (G : GuardedStore σ ι α) (s : State σ ι α) (t : σ) : Prop where
  runs : ∀ i op p, s.calls i = some (.pending op p) → (G.body op).run t = p.run s.state
  reads : ∀ i op p, s.calls i = some (.pending op p) → G.writes op = false → p.Reads
  shared : ∀ i j op op', s.Holds i op → s.Holds j op' → i ≠ j →
    G.writes op = false ∧ G.writes op' = false
  state : (∀ i op, s.Holds i op → G.writes op = false) → s.state = t

theorem agrees_empty : Agrees G ⟨state, .empty⟩ state where
  runs i op p h := by cases h
  reads i op p h := by cases h
  shared i j op op' h := by
    obtain ⟨p, h⟩ := h
    cases h
  state _ := rfl

/-- A step that takes or gives back no lock, and leaves the state. -/
theorem Agrees.insert {phase : Phase σ ι α} (h : Agrees G s t)
    (hphase : ∀ op p, phase ≠ .pending op p) (hi : ∀ op, ¬ s.Holds i op) :
    Agrees G ⟨s.state, s.calls.insert i phase⟩ t := by
  have hold : ∀ {j op p}, s.calls.insert i phase j = some (.pending op p) →
      s.calls j = some (.pending op p) := by
    intro j op p hj
    rcases Table.insert_eq_some hj with ⟨-, heq⟩ | ⟨-, hj⟩
    · exact absurd heq.symm (hphase op p)
    · exact hj
  refine ⟨fun j op p hj => h.runs j op p (hold hj), fun j op p hj => h.reads j op p (hold hj), ?_,
    ?_⟩
  · rintro j k op op' ⟨p, hj⟩ ⟨p', hk⟩ hne
    exact h.shared j k op op' ⟨p, hold hj⟩ ⟨p', hold hk⟩ hne
  · intro hreaders
    refine h.state fun j op hj => ?_
    have hne : j ≠ i := by
      rintro rfl
      exact hi op hj
    obtain ⟨p, hj⟩ := hj
    exact hreaders j op ⟨p, (Table.insert_of_ne _ _ hne).trans hj⟩

/-- An operation takes the lock. -/
theorem Agrees.acquire (h : Agrees G s t) (hi : s.calls i = some (.started op))
    (hfree : G.Free s op) : Agrees G ⟨s.state, s.calls.insert i (.pending op (G.body op))⟩ t := by
  have hstate : s.state = t := h.state fun j op' hj => (hfree j op' hj).2
  refine ⟨?_, ?_, ?_, fun _ => hstate⟩
  · intro j op' p hj
    rcases Table.insert_eq_some hj with ⟨-, heq⟩ | ⟨-, hj⟩
    · cases heq
      rw [hstate]
    · exact h.runs j op' p hj
  · intro j op' p hj hreader
    rcases Table.insert_eq_some hj with ⟨-, heq⟩ | ⟨-, hj⟩
    · cases heq
      exact G.reads _ hreader
    · exact h.reads j op' p hj hreader
  · rintro j k op₁ op₂ ⟨p₁, hj⟩ ⟨p₂, hk⟩ hne
    rcases Table.insert_eq_some hj with ⟨rfl, hop₁⟩ | ⟨-, hold₁⟩ <;>
      rcases Table.insert_eq_some hk with ⟨rfl, hop₂⟩ | ⟨-, hold₂⟩
    · exact absurd rfl hne
    · cases hop₁
      exact hfree k op₂ ⟨p₂, hold₂⟩
    · cases hop₂
      exact (hfree j op₁ ⟨p₁, hold₁⟩).symm
    · exact h.shared j k op₁ op₂ ⟨p₁, hold₁⟩ ⟨p₂, hold₂⟩ hne

/-- The program of an operation that holds the lock goes on: a reader leaves the state, and nobody
but the operation looks at what a writer makes of it. -/
theorem Agrees.advance {p' : Program σ α} {state' : σ} (h : Agrees G s t)
    (hi : s.calls i = some (.pending op p)) (hrun : p.run s.state = p'.run state')
    (hreader : G.writes op = false → p'.Reads ∧ state' = s.state) :
    Agrees G ⟨state', s.calls.insert i (.pending op p')⟩ t := by
  have hother : ∀ j op' q, j ≠ i → s.calls j = some (.pending op' q) → state' = s.state :=
    fun j op' q hne hj => (hreader (h.shared i j op op' ⟨p, hi⟩ ⟨q, hj⟩ hne.symm).1).2
  refine ⟨?_, ?_, ?_, ?_⟩
  · intro j op' q hj
    rcases Table.insert_eq_some hj with ⟨rfl, heq⟩ | ⟨hne, hj⟩
    · cases heq
      rw [h.runs _ _ _ hi]
      exact hrun
    · rw [h.runs j op' q hj, hother j op' q hne hj]
  · intro j op' q hj hreads
    rcases Table.insert_eq_some hj with ⟨rfl, heq⟩ | ⟨-, hj⟩
    · cases heq
      exact (hreader hreads).1
    · exact h.reads j op' q hj hreads
  · have hold : ∀ {j op'}, State.Holds ⟨state', s.calls.insert i (.pending op p')⟩ j op' →
        s.Holds j op' := by
      rintro j op' ⟨q, hj⟩
      rcases Table.insert_eq_some hj with ⟨rfl, heq⟩ | ⟨-, hj⟩
      · cases heq
        exact ⟨p, hi⟩
      · exact ⟨q, hj⟩
    exact fun j k op₁ op₂ hj hk hne => h.shared j k op₁ op₂ (hold hj) (hold hk) hne
  · intro hreaders
    have hop : G.writes op = false := hreaders i op ⟨p', Table.insert_self _ _ _⟩
    refine (hreader hop).2.trans (h.state fun j op' hj => ?_)
    by_cases hne : j = i
    · subst hne
      obtain ⟨q, hj⟩ := hj
      cases hi.symm.trans hj
      exact hop
    · obtain ⟨q, hj⟩ := hj
      exact hreaders j op' ⟨q, (Table.insert_of_ne _ _ hne).trans hj⟩

/-- An operation that gives the lock back takes effect. -/
theorem Agrees.release {a : α} (h : Agrees G s t) (hi : s.calls i = some (.pending op (.done a))) :
    G.spec.Step t (op, a) s.state ∧
      Agrees G ⟨s.state, s.calls.insert i (.settled a ())⟩ s.state := by
  refine ⟨h.runs _ _ _ hi, ?_, ?_, ?_, fun _ => rfl⟩
  · intro j op' q hj
    rcases Table.insert_eq_some hj with ⟨-, heq⟩ | ⟨hne, hother⟩
    · cases heq
    · -- another holder is a reader, and so is this one
      have hstate : s.state = t := by
        refine h.state fun k op'' hk => ?_
        by_cases hki : k = i
        · subst hki
          obtain ⟨_, hk⟩ := hk
          cases hi.symm.trans hk
          exact (h.shared k j op op' ⟨_, hi⟩ ⟨q, hother⟩ hne.symm).1
        · exact (h.shared k i op'' op hk ⟨_, hi⟩ hki).1
      rw [← h.runs j op' q hother, hstate]
  · intro j op' q hj hreads
    rcases Table.insert_eq_some hj with ⟨-, heq⟩ | ⟨-, hj⟩
    · cases heq
    · exact h.reads j op' q hj hreads
  · rintro j k op₁ op₂ ⟨p₁, hj⟩ ⟨p₂, hk⟩ hne
    rcases Table.insert_eq_some hj with ⟨-, heq⟩ | ⟨-, hj⟩
    · cases heq
    · rcases Table.insert_eq_some hk with ⟨-, heq⟩ | ⟨-, hk⟩
      · cases heq
      · exact h.shared j k op₁ op₂ ⟨p₁, hj⟩ ⟨p₂, hk⟩ hne

/-! ## Histories -/

/-- The operations that took effect have an order, and leave what the state agrees with. -/
def Ordered (G : GuardedStore σ ι α) (state : σ) (s : State σ ι α) (events : List (Event ι α)) :
    Prop :=
  ∃ order t, Progress G.spec state (fun _ _ => True) s.calls events order t ∧ Agrees G s t

/-- **Every step keeps the order.** -/
theorem Ordered.step (h : Ordered G state s (history tr)) (hstep : Step G s l s') :
    Ordered G state s' (history (tr ++ [l])) := by
  obtain ⟨order, t, hprogress, hagrees⟩ := h
  have hnone : ∀ {i phase}, s.calls i = phase → (∀ op p, phase ≠ some (.pending op p)) →
      ∀ op, ¬ s.Holds i op := by
    rintro i phase hi hphase op ⟨p, hp⟩
    exact hphase op p (hi.symm.trans hp)
  cases hstep with
  | @invoke i op hi =>
    rw [history_concat_invoke]
    exact ⟨order, t, hprogress.invoke hi, hagrees.insert (fun _ _ => by simp)
      (hnone hi fun _ _ => by simp)⟩
  | @acquire i op hi hfree =>
    rw [history_concat_move]
    exact ⟨order, t, hprogress.pend hi trivial, hagrees.acquire hi hfree⟩
  | @step i op write next hi =>
    rw [history_concat_move]
    refine ⟨order, t, hprogress.advance hi trivial, hagrees.advance hi rfl fun hreader => ?_⟩
    cases hagrees.reads _ _ _ hi hreader with
    | step hnext => exact ⟨hnext s.state, rfl⟩
  | @release i op a hi =>
    rw [history_concat_move]
    obtain ⟨heffect, hagrees⟩ := hagrees.release hi
    exact ⟨_, _, hprogress.settle (.inr ⟨_, hi⟩) heffect, hagrees⟩
  | @respond i a hi =>
    rw [history_concat_respond]
    exact ⟨order, t, hprogress.respond hi, hagrees.insert (fun _ _ => by simp)
      (hnone hi fun _ _ => by simp)⟩

/-- **Histories behind a readers-writer lock are linearizable**, and nobody is in the middle of an
operation that the state does not agree with. -/
theorem isLinearization (h : Run (G.system state) ⟨state, .empty⟩ tr s) :
    ∃ order t, IsLinearization G.spec state (history tr) order t ∧ Agrees G s t := by
  have hordered : Ordered G state s (history tr) := by
    induction h with
    | nil => exact ⟨[], state, .init, agrees_empty⟩
    | snoc _ hstep ih => exact ih.step hstep
  obtain ⟨order, t, hprogress, hagrees⟩ := hordered
  exact ⟨order, t, hprogress.linearizes.isLinearization, hagrees⟩

end GuardedStore

end Trustmee
