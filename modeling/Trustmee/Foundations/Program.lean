import Trustmee.Foundations.Outcome

/-!
# Programs that take steps

A `Program` works on a state that others share, and takes one step after the other: between two
steps the others may take theirs. Run alone, it gives a result and leaves a state (`Program.run`).
One that only reads leaves the state that it finds (`Reads.run_state`), and where it goes on from an
`Outcome`, its result is the one of the outcomes (`Reads.run_attempt`).

`Asking` is the part of a computation that only asks: its questions depend on the answers. With an
answer for every question it gives a result (`Asking.answer`), and a program that reads the answers
from the state gives the same (`Asking.run_program`).
-/

namespace Trustmee

/-- What is done on a shared state: nothing more, or a step, which changes the state and goes on
with what it saw. -/
inductive Program (σ α : Type)
  | done (a : α)
  | step (write : σ → σ) (next : σ → Program σ α)

namespace Program

variable {σ α β γ : Type}

/-- The result of a program that nothing runs beside, and the state that it leaves. -/
def run : Program σ α → σ → α × σ
  | done a, s => (a, s)
  | step write next, s => (next s).run (write s)

def bind : Program σ α → (α → Program σ β) → Program σ β
  | done a, f => f a
  | step write next, f => step write fun s => (next s).bind f

instance : Monad (Program σ) where
  pure := done
  bind := bind

/-- One step, with a result. -/
def act (f : σ → α × σ) : Program σ α := step (fun s => (f s).2) fun s => done (f s).1

/-- One step that reads. -/
def read (f : σ → α) : Program σ α := step id fun s => done (f s)

variable {x : Program σ α} {f : α → Program σ β} {s : σ}

@[simp] theorem run_done (a : α) : (done a : Program σ α).run s = (a, s) := rfl

@[simp] theorem run_pure (a : α) : (pure a : Program σ α).run s = (a, s) := rfl

@[simp] theorem run_act (g : σ → α × σ) : (act g).run s = g s := rfl

@[simp] theorem run_read (g : σ → α) : (read g).run s = (g s, s) := rfl

@[simp] theorem run_bind (x : Program σ α) (f : α → Program σ β) (s : σ) :
    (x >>= f).run s = (f (x.run s).1).run (x.run s).2 := by
  change (bind x f).run s = _
  induction x generalizing s with
  | done a => rfl
  | step write next ih => exact ih s (write s)

/-! ## Programs that read -/

/-- No step changes the state. -/
inductive Reads : Program σ α → Prop
  | done (a : α) : Reads (done a)
  | step {next : σ → Program σ α} (h : ∀ s, Reads (next s)) : Reads (step id next)

theorem reads_read (g : σ → α) : (read g).Reads := .step fun s => .done (g s)

theorem Reads.bind (hx : x.Reads) (hf : ∀ a, (f a).Reads) : (x >>= f).Reads := by
  change (Program.bind x f).Reads
  induction hx with
  | done a => exact hf a
  | step _ ih => exact .step ih

theorem Reads.run_state (hx : x.Reads) (s : σ) : (x.run s).2 = s := by
  induction hx with
  | done a => rfl
  | step _ ih => exact ih s

/-- The result of a program that reads, with the state that it read. -/
theorem Reads.run_eq (hx : x.Reads) (s : σ) : x.run s = ((x.run s).1, s) :=
  Prod.ext rfl (hx.run_state s)

/-! ## Programs that fail -/

/-- A program that goes on where another gave a value. -/
def attempt (x : Program σ (Outcome α)) (f : α → Program σ (Outcome β)) :
    Program σ (Outcome β) :=
  x >>= fun
    | .ok a => f a
    | .err e => done (.err e)
    | .panic msg => done (.panic msg)

theorem Reads.attempt {x : Program σ (Outcome α)} {f : α → Program σ (Outcome β)} (hx : x.Reads)
    (hf : ∀ a, (f a).Reads) : (x.attempt f).Reads := by
  refine hx.bind fun a => ?_
  cases a with
  | ok a => exact hf a
  | err e => exact .done _
  | panic msg => exact .done _

theorem Reads.run_attempt {x : Program σ (Outcome α)} {f : α → Program σ (Outcome β)}
    (hx : x.Reads) (s : σ) :
    ((x.attempt f).run s).1 = (x.run s).1 >>= fun a => ((f a).run s).1 := by
  rw [Program.attempt, run_bind, hx.run_state]
  cases (x.run s).1 <;> rfl

end Program

/-! ## Questions -/

/-- A computation that asks: it is done, or asks and goes on with the answer. -/
inductive Asking (ι α β : Type)
  | done (b : β)
  | ask (i : ι) (next : α → Asking ι α β)

namespace Asking

variable {ι α β σ : Type}

/-- The result with an answer for every question. -/
def answer (f : ι → α) : Asking ι α β → β
  | done b => b
  | ask i next => (next (f i)).answer f

/-- The program that reads its answers from the state. -/
def program (read : ι → σ → α) : Asking ι α β → Program σ β
  | done b => .done b
  | ask i next => .step id fun s => (next (read i s)).program read

theorem reads_program (read : ι → σ → α) (q : Asking ι α β) : (q.program read).Reads := by
  induction q with
  | done b => exact .done b
  | ask i next ih => exact .step fun s => ih (read i s)

theorem run_program (read : ι → σ → α) (q : Asking ι α β) (s : σ) :
    (q.program read).run s = (q.answer fun i => read i s, s) := by
  induction q with
  | done b => rfl
  | ask i next ih => exact ih (read i s)

end Asking

end Trustmee
