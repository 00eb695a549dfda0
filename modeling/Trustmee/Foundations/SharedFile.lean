import Trustmee.Foundations.Bytes
import Trustmee.Foundations.Linearizable

/-!
# Files that callers read and write back whole

An operation on a file reads it, makes an answer and, where it changes something, new contents of
what it read, and writes these back: the file is first cut to nothing, and then the contents are
put at its start. Nothing keeps operations apart, so that other operations run between these steps.

Taken one at a time, the operations are an object (`FileStore.spec`). Together they are linearizable
in the runs in which no operation disturbs another (`Undisturbed`): the file is not read or cut while
a write is half done, and an operation cuts it only when it still is what the operation read
(`isLinearization_of_undisturbed`).
-/

namespace Trustmee

open Transition Linearizable

/-- Operations on a whole file. Given an order, in which an operation goes through what it read, the
plan is its answer and the contents that it writes back, if any. -/
structure FileStore (ι α : Type) where
  Order : Type
  plan : Order → ι → Bytes → α × Option Bytes

namespace FileStore

variable {ι α : Type} (F : FileStore ι α)

/-- The operations one at a time. -/
def spec : System Bytes (ι × α) where
  Init _ := True
  Step file l file' := ∃ order contents, F.plan order l.1 file = (l.2, contents) ∧
    file' = contents.getD file

/-- What an operation holds that will write: what it read, and its plan. -/
structure Draft (α : Type) where
  read : Bytes
  answer : α
  contents : Bytes

/-- An operation that has cut the file still has the contents to put. -/
abbrev Phase (ι α : Type) := Stage ι α (Draft α) (Option Bytes)

/-- The file, and the operations that callers are in the middle of. -/
structure State (ι α : Type) where
  file : Bytes
  calls : Table ℕ (Phase ι α)

/-- What an operation does in the middle. -/
inductive Move
  | read
  | cut
  | put

/-- One step of one operation. No step waits for another operation. -/
inductive Step : State ι α → Label ι α Move → State ι α → Prop
  | invoke {s : State ι α} {i : ℕ} {op : ι} (hi : s.calls i = none) :
      Step s (.invoke i op) ⟨s.file, s.calls.insert i (.started op)⟩
  | read {s : State ι α} {i : ℕ} {op : ι} {order : F.Order} {a : α}
      (hi : s.calls i = some (.started op)) (hplan : F.plan order op s.file = (a, none)) :
      Step s (.move i .read) ⟨s.file, s.calls.insert i (.settled a none)⟩
  | draft {s : State ι α} {i : ℕ} {op : ι} {order : F.Order} {a : α} {contents : Bytes}
      (hi : s.calls i = some (.started op)) (hplan : F.plan order op s.file = (a, some contents)) :
      Step s (.move i .read) ⟨s.file, s.calls.insert i (.pending op ⟨s.file, a, contents⟩)⟩
  | cut {s : State ι α} {i : ℕ} {op : ι} {draft : Draft α}
      (hi : s.calls i = some (.pending op draft)) :
      Step s (.move i .cut) ⟨[], s.calls.insert i (.settled draft.answer (some draft.contents))⟩
  | put {s : State ι α} {i : ℕ} {a : α} {contents : Bytes}
      (hi : s.calls i = some (.settled a (some contents))) :
      Step s (.move i .put) ⟨contents ++ s.file.drop contents.length,
        s.calls.insert i (.settled a none)⟩
  | respond {s : State ι α} {i : ℕ} {a : α} (hi : s.calls i = some (.settled a none)) :
      Step s (.respond i a) ⟨s.file, s.calls.insert i (.returned a)⟩

/-- Any number of operations on a file, from contents that it has. -/
def system (file : Bytes) : System (State ι α) (Label ι α Move) where
  Init s := s = ⟨file, .empty⟩
  Step := Step F

/-- A write is half done. -/
def State.Busy (s : State ι α) : Prop := ∃ i a contents, s.calls i = some (.settled a (some contents))

/-- The step does not disturb another operation: a file is read or cut only when no write is half
done, and cut only when it still is what was read. -/
def Undisturbed (s : State ι α) : Label ι α Move → Prop
  | .move _ .read => ¬ s.Busy
  | .move i .cut => ¬ s.Busy ∧ ∀ op draft, s.calls i = some (.pending op draft) → s.file = draft.read
  | _ => True

/-! ## The invariant -/

variable {F} {file t : Bytes} {s s' : State ι α} {l : Label ι α Move}
  {tr : List (Label ι α Move)}

/-- A draft is a plan for what was read. -/
def IsPlan (F : FileStore ι α) (op : ι) (draft : Draft α) : Prop :=
  ∃ order, F.plan order op draft.read = (draft.answer, some draft.contents)

/-- The file is what the operations in effect leave, or is about to be. -/
def State.Shows (s : State ι α) (t : Bytes) : Prop :=
  (¬ s.Busy ∧ s.file = t) ∨
    ∃ i a, s.calls i = some (.settled a (some t)) ∧ s.file = [] ∧
      ∀ j a' contents, s.calls j = some (.settled a' (some contents)) → j = i

theorem not_busy_empty : ¬ State.Busy (⟨file, .empty⟩ : State ι α) := by
  rintro ⟨i, a, contents, hi⟩
  cases hi

/-- A step that puts no write in the middle keeps the file idle. -/
theorem not_busy_insert {i : ℕ} {phase : Phase ι α} {file : Bytes} (h : ¬ s.Busy)
    (hphase : ∀ a contents, phase ≠ .settled a (some contents)) :
    ¬ State.Busy ⟨file, s.calls.insert i phase⟩ := by
  rintro ⟨j, a, contents, hj⟩
  rcases Table.insert_eq_some hj with ⟨-, heq⟩ | ⟨-, hj⟩
  · exact hphase a contents heq.symm
  · exact h ⟨j, a, contents, hj⟩

/-- An operation that nobody disturbs goes from its beginning to its end. -/
theorem exists_run_section {i : ℕ} {op : ι} {order : F.Order} {a : α} {contents : Option Bytes}
    (hi : s.calls i = some (.started op)) (hidle : ¬ s.Busy)
    (hplan : F.plan order op s.file = (a, contents)) : ∃ tr, history tr = [] ∧
      AllSteps (F.system file) Undisturbed s tr
        ⟨contents.getD s.file, s.calls.insert i (.settled a none)⟩ := by
  cases contents with
  | none => exact ⟨[.move i .read], rfl, .cons hidle (.read hi hplan) .nil⟩
  | some contents =>
    refine ⟨[.move i .read, .move i .cut, .move i .put], rfl, ?_⟩
    have hcut := Step.cut (F := F) (s := ⟨s.file, s.calls.insert i
      (.pending op ⟨s.file, a, contents⟩)⟩) (Table.insert_self _ _ _)
    have hput := Step.put (F := F) (s := ⟨[], s.calls.insert i (.settled a (some contents))⟩)
      (Table.insert_self _ _ _)
    rw [Table.insert_insert] at hcut hput
    rw [List.drop_nil, List.append_nil] at hput
    refine .cons hidle (.draft hi hplan) (.cons ⟨?_, ?_⟩ hcut (.cons trivial hput .nil))
    · exact not_busy_insert hidle fun a contents h => by cases h
    · intro op' draft hdraft
      cases (Table.insert_self _ _ _).symm.trans hdraft
      rfl

/-- A step of an operation that is writing nothing leaves what the file shows. -/
theorem State.Shows.insert {i : ℕ} {phase : Phase ι α} (h : s.Shows t)
    (hi : ∀ a contents, s.calls i ≠ some (.settled a (some contents)))
    (hphase : ∀ a contents, phase ≠ .settled a (some contents)) :
    State.Shows ⟨s.file, s.calls.insert i phase⟩ t := by
  rcases h with ⟨hidle, hfile⟩ | ⟨j, a, hj, hfile, honly⟩
  · exact .inl ⟨not_busy_insert hidle hphase, hfile⟩
  · have hne : j ≠ i := by
      rintro rfl
      exact hi a t hj
    refine .inr ⟨j, a, (Table.insert_of_ne _ _ hne).trans hj, hfile, ?_⟩
    intro k a' contents hk
    rcases Table.insert_eq_some hk with ⟨-, heq⟩ | ⟨-, hk⟩
    · exact absurd heq.symm (hphase a' contents)
    · exact honly k a' contents hk

theorem State.Shows.file_eq (h : s.Shows t) (hidle : ¬ s.Busy) : s.file = t := by
  rcases h with ⟨-, hfile⟩ | ⟨i, a, hi, -, -⟩
  · exact hfile
  · exact absurd ⟨i, a, t, hi⟩ hidle

/-- The operations so far have an order, and the file shows what they leave. -/
def Ordered (F : FileStore ι α) (file : Bytes) (s : State ι α) (events : List (Event ι α)) : Prop :=
  ∃ order t, Progress F.spec file (IsPlan F) s.calls events order t ∧ s.Shows t

/-- **A step that disturbs no operation keeps the order**: an operation takes effect when it reads, if
it writes nothing, and when it cuts the file otherwise. -/
theorem Ordered.step (h : Ordered F file s (history tr)) (hl : Undisturbed s l)
    (hstep : (system F file).Step s l s') : Ordered F file s' (history (tr ++ [l])) := by
  obtain ⟨order, t, hprogress, hshows⟩ := h
  cases hstep with
  | @invoke i op hi =>
    rw [history_concat_invoke]
    refine ⟨order, t, hprogress.invoke hi, hshows.insert ?_ ?_⟩
    · intro a contents hcontra
      cases hi.symm.trans hcontra
    · exact fun a contents h => by cases h
  | @read i op choice a hi hplan =>
    rw [history_concat_move]
    have hfile : s.file = t := hshows.file_eq hl
    have hspec : F.spec.Step t (op, a) t := ⟨choice, none, by rw [← hfile, hplan], rfl⟩
    refine ⟨_, t, hprogress.settle (.inl hi) hspec, hshows.insert ?_ ?_⟩
    · intro a contents hcontra
      cases hi.symm.trans hcontra
    · exact fun a contents h => by cases h
  | @draft i op choice a contents hi hplan =>
    rw [history_concat_move]
    refine ⟨order, t, hprogress.pend hi ⟨choice, hplan⟩, hshows.insert ?_ ?_⟩
    · intro a contents hcontra
      cases hi.symm.trans hcontra
    · exact fun a contents h => by cases h
  | @cut i op draft hi =>
    rw [history_concat_move]
    obtain ⟨hidle, hread⟩ := hl
    have hfile : t = draft.read := by rw [← hshows.file_eq hidle, hread op draft hi]
    obtain ⟨choice, hplan⟩ := (hprogress.pending i op draft hi).2
    have hspec : F.spec.Step t (op, draft.answer) draft.contents :=
      ⟨choice, some draft.contents, by rw [hfile, hplan], rfl⟩
    refine ⟨_, draft.contents, hprogress.settle (.inr ⟨draft, hi⟩) hspec, .inr ⟨i, draft.answer,
      Table.insert_self _ _ _, rfl, ?_⟩⟩
    intro j a contents hj
    rcases Table.insert_eq_some hj with ⟨hji, -⟩ | ⟨-, hj⟩
    · exact hji
    · exact absurd ⟨j, a, contents, hj⟩ hidle
  | @put i a contents hi =>
    rw [history_concat_move]
    rcases hshows with ⟨hidle, -⟩ | ⟨j, a', hj, hfile, honly⟩
    · exact absurd ⟨i, a, contents, hi⟩ hidle
    · -- the write that is half done is the one of this operation
      cases honly i a contents hi
      cases hi.symm.trans hj
      refine ⟨order, t, hprogress.goOn hi, .inl ⟨?_, ?_⟩⟩
      · rintro ⟨k, b, c, hk⟩
        rcases Table.insert_eq_some hk with ⟨-, heq⟩ | ⟨hne, hk⟩
        · cases heq
        · exact hne (honly k b c hk)
      · dsimp only
        rw [hfile, List.drop_nil, List.append_nil]
  | @respond i a hi =>
    rw [history_concat_respond]
    refine ⟨order, t, hprogress.respond hi, hshows.insert ?_ ?_⟩
    · intro a contents hcontra
      cases hi.symm.trans hcontra
    · exact fun a contents h => by cases h

/-- **Runs in which no operation disturbs another are linearizable**: the operations that took effect
have an order, and leave the file as it is when no write is half done. -/
theorem isLinearization_of_undisturbed
    (h : AllSteps (system F file) Undisturbed ⟨file, .empty⟩ tr s) :
    ∃ order t, IsLinearization F.spec file (history tr) order t ∧ (¬ s.Busy → s.file = t) := by
  have hordered : Ordered F file s (history tr) := by
    induction h with
    | nil => exact ⟨[], file, .init, .inl ⟨not_busy_empty, rfl⟩⟩
    | snoc _ hl hstep ih => exact ih.step hl hstep
  obtain ⟨order, t, hprogress, hshows⟩ := hordered
  exact ⟨order, t, hprogress.linearizes.isLinearization, hshows.file_eq⟩

/-! ## A lost update -/

/-- Two operations that both read the file before either writes it. -/
def overlap (op op' : ι) (a a' : α) : List (Label ι α Move) :=
  [.invoke 0 op, .invoke 1 op', .move 0 .read, .move 1 .read, .move 0 .cut, .move 0 .put,
    .move 1 .cut, .move 1 .put, .respond 0 a, .respond 1 a']

/-- Of two operations that both read the file before either writes it, what the second writes is all
that stays. -/
theorem exists_run_overlap {op op' : ι} {a a' : α} {contents contents' : Bytes}
    {choice choice' : F.Order} (h : F.plan choice op file = (a, some contents))
    (h' : F.plan choice' op' file = (a', some contents')) :
    ∃ s, Run (system F file) ⟨file, .empty⟩ (overlap op op' a a') s ∧ ¬ s.Busy ∧
      s.file = contents' := by
  refine ⟨_, .cons (.invoke rfl) (.cons (.invoke rfl) (.cons (.draft rfl h) (.cons (.draft rfl h')
    (.cons (.cut rfl) (.cons (.put rfl) (.cons (.cut rfl) (.cons (.put rfl) (.cons (.respond rfl)
      (.cons (.respond rfl) .nil))))))))), ?_, ?_⟩
  · rintro ⟨i, b, c, hi⟩
    rcases Table.insert_eq_some hi with ⟨-, heq⟩ | ⟨hsecond, hi⟩
    · cases heq
    · rcases Table.insert_eq_some hi with ⟨-, heq⟩ | ⟨hfirst, hi⟩
      · cases heq
      · dsimp only at hi
        simp only [Table.insert_of_ne _ _ hfirst, Table.insert_of_ne _ _ hsecond,
          Table.empty_apply, reduceCtorEq] at hi
  · show contents' ++ List.drop contents'.length [] = contents'
    rw [List.drop_nil, List.append_nil]

theorem allSteps_respond {i : ℕ} {a : α} (hi : s.calls i = some (.settled a none)) :
    AllSteps (system F file) Undisturbed s [.respond i a]
      ⟨s.file, s.calls.insert i (.returned a)⟩ :=
  .cons trivial (.respond hi) .nil

/-- Two operations that have both begun, of which one ends before the other reads. -/
theorem exists_run_turns {op op' : ι} {a a' : α} {contents contents' : Option Bytes}
    {choice choice' : F.Order} (h : F.plan choice op file = (a, contents))
    (h' : F.plan choice' op' (contents.getD file) = (a', contents')) :
    ∃ tr s, AllSteps (system F file) Undisturbed ⟨file, .empty⟩ tr s ∧
      history tr = [.invoke 0 op, .invoke 1 op', .respond 1 a', .respond 0 a] := by
  have hinvoked : AllSteps (system F file) Undisturbed ⟨file, .empty⟩ [.invoke 0 op, .invoke 1 op']
      ⟨file, (Table.empty.insert 0 (.started op)).insert 1 (.started op')⟩ :=
    .cons trivial (.invoke rfl) (.cons trivial (.invoke rfl) .nil)
  have hidle : ¬ State.Busy
      ⟨file, (Table.empty.insert 0 (.started op)).insert 1 (.started op' : Phase ι α)⟩ := by
    rintro ⟨i, b, c, hi⟩
    rcases Table.insert_eq_some hi with ⟨-, heq⟩ | ⟨-, hi⟩
    · cases heq
    · rcases Table.insert_eq_some hi with ⟨-, heq⟩ | ⟨-, hi⟩
      · cases heq
      · cases hi
  obtain ⟨tr, htr, hrun⟩ := exists_run_section (i := 0) rfl hidle h
  have hidle' : ¬ State.Busy ⟨contents.getD file, ((Table.empty.insert 0 (.started op)).insert 1
      (.started op' : Phase ι α)).insert 0 (.settled a none)⟩ := not_busy_insert hidle (by simp)
  obtain ⟨tr', htr', hrun'⟩ := exists_run_section (i := 1) rfl hidle' h'
  refine ⟨_, _, hinvoked.trans (hrun.trans (hrun'.trans ((allSteps_respond (i := 1) rfl).trans
    (allSteps_respond (i := 0) rfl)))), ?_⟩
  rw [history_append, history_append, history_append, htr, htr']
  rfl

end FileStore

end Trustmee
