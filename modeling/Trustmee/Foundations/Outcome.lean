import Mathlib.Data.List.Forall2

/-!
# The outcome of a Rust call

A call of a function that returns `anyhow::Result` ends with a value, with an error, or with a
panic. An error is the chain of its messages, the outermost context first, as `{:#}` prints it.
-/

namespace Trustmee

/-- An `anyhow::Error`: the messages of its chain, outermost first. -/
abbrev Error := List String

/-- How `{:?}` prints an error, but for a backtrace. -/
def Error.debug : Error → String
  | [] => ""
  | [msg] => msg
  | [msg, cause] => msg ++ "\n\nCaused by:\n    " ++ cause
  | msg :: causes => msg ++ "\n\nCaused by:" ++
      String.join ((causes.zipIdx).map fun p => "\n    " ++ toString p.2 ++ ": " ++ p.1)

/-- How `{}` prints an error: its outermost message. -/
def Error.display : Error → String
  | [] => ""
  | msg :: _ => msg

/-- How a call ends. -/
inductive Outcome (α : Type)
  | ok (a : α)
  | err (e : Error)
  | panic (msg : String)

namespace Outcome

variable {α β γ : Type}

/-- Sequencing: `?` passes errors on, and a panic ends everything. -/
def bind (x : Outcome α) (f : α → Outcome β) : Outcome β :=
  match x with
  | ok a => f a
  | err e => err e
  | panic m => panic m

instance : Monad Outcome where
  pure := ok
  bind := bind

/-- `bail!(msg)`. -/
def bail (msg : String) : Outcome α := err [msg]

/-- `bail!(msg)` unless the condition holds. -/
def ensure (b : Bool) (msg : String) : Outcome Unit := if b then ok () else bail msg

/-- `.context(msg)`: one more message in front of an error. -/
def context (x : Outcome α) (msg : String) : Outcome α :=
  match x with
  | ok a => ok a
  | err e => err (msg :: e)
  | panic m => panic m

/-- `.map_err(f)`. -/
def mapErr (x : Outcome α) (f : Error → Error) : Outcome α :=
  match x with
  | ok a => ok a
  | err e => err (f e)
  | panic m => panic m

/-- `.ok_or(anyhow!(msg))`. -/
def okOr (o : Option α) (msg : String) : Outcome α :=
  match o with
  | some a => ok a
  | none => bail msg

/-- `.unwrap()` of an `Option`. -/
def unwrap (o : Option α) : Outcome α :=
  match o with
  | some a => ok a
  | none => panic "called `Option::unwrap()` on a `None` value"

/-- The result of a function of another crate, with its error as one message. -/
def ofExcept (x : Except String α) : Outcome α :=
  match x with
  | .ok a => ok a
  | .error m => err [m]

/-- The call returned: it ended with a value or an error. -/
def Returns (x : Outcome α) : Prop := ∀ m, x ≠ panic m

/-! ## Inversion -/

@[simp] theorem pure_eq (a : α) : (pure a : Outcome α) = ok a := rfl

@[simp] theorem ok_bind (a : α) (f : α → Outcome β) : (ok a >>= f) = f a := rfl

@[simp] theorem err_bind (e : Error) (f : α → Outcome β) : (err e >>= f) = err e := rfl

@[simp] theorem panic_bind (m : String) (f : α → Outcome β) : (panic m >>= f) = panic m := rfl

theorem bind_assoc (x : Outcome α) (f : α → Outcome β) (g : β → Outcome γ) :
    ((x >>= f) >>= g) = (x >>= fun a => f a >>= g) := by
  cases x <;> rfl

/-- A sequence ends with a value exactly when both parts do. -/
theorem bind_eq_ok {x : Outcome α} {f : α → Outcome β} {b : β} :
    (x >>= f) = ok b ↔ ∃ a, x = ok a ∧ f a = ok b := by
  cases x <;> simp

/-- A check and what follows it. -/
theorem check_eq_ok {x : Outcome Unit} {f : Unit → Outcome β} {b : β} :
    (x >>= f) = ok b ↔ x = ok () ∧ f () = ok b := by
  cases x <;> simp

/-- A sequence panics when its first part does, or its second part on the value of the first. -/
theorem bind_eq_panic {x : Outcome α} {f : α → Outcome β} {m : String} :
    (x >>= f) = panic m ↔ x = panic m ∨ ∃ a, x = ok a ∧ f a = panic m := by
  cases x <;> simp

@[simp] theorem context_eq_ok {x : Outcome α} {msg : String} {a : α} :
    x.context msg = ok a ↔ x = ok a := by
  cases x <;> simp [context]

@[simp] theorem context_eq_panic {x : Outcome α} {msg m : String} :
    x.context msg = panic m ↔ x = panic m := by
  cases x <;> simp [context]

@[simp] theorem mapErr_eq_ok {x : Outcome α} {f : Error → Error} {a : α} :
    x.mapErr f = ok a ↔ x = ok a := by
  cases x <;> simp [mapErr]

@[simp] theorem mapErr_eq_panic {x : Outcome α} {f : Error → Error} {m : String} :
    x.mapErr f = panic m ↔ x = panic m := by
  cases x <;> simp [mapErr]

@[simp] theorem okOr_eq_ok {o : Option α} {msg : String} {a : α} :
    okOr o msg = ok a ↔ o = some a := by
  cases o <;> simp [okOr, bail]

@[simp] theorem okOr_ne_panic {o : Option α} {msg m : String} : okOr o msg ≠ panic m := by
  cases o <;> simp [okOr, bail]

@[simp] theorem unwrap_eq_ok {o : Option α} {a : α} : unwrap o = ok a ↔ o = some a := by
  cases o <;> simp [unwrap]

@[simp] theorem ofExcept_eq_ok {x : Except String α} {a : α} : ofExcept x = ok a ↔ x = .ok a := by
  cases x <;> simp [ofExcept]

@[simp] theorem ofExcept_ne_panic {x : Except String α} {m : String} : ofExcept x ≠ panic m := by
  cases x <;> simp [ofExcept]

@[simp] theorem ensure_eq_ok {b : Bool} {msg : String} {u : Unit} :
    ensure b msg = ok u ↔ b = true := by
  cases b <;> simp [ensure, bail]

@[simp] theorem ensure_ne_panic {b : Bool} {msg m : String} : ensure b msg ≠ panic m := by
  cases b <;> simp [ensure, bail]

theorem ok_ne_panic {a : α} {m : String} : ok a ≠ panic m := nofun

theorem err_ne_panic {e : Error} {m : String} : (err e : Outcome α) ≠ panic m := nofun

@[simp] theorem bail_ne_ok {msg : String} {a : α} : (bail msg : Outcome α) ≠ ok a := by
  simp [bail]

@[simp] theorem bail_ne_panic {msg m : String} : (bail msg : Outcome α) ≠ panic m := by
  simp [bail]

/-! ## Postconditions -/

/-- A value that the call ends with has the property. -/
def Ensures (x : Outcome α) (P : α → Prop) : Prop := ∀ a, x = ok a → P a

theorem Ensures.ok {a : α} {P : α → Prop} (h : P a) : (Outcome.ok a).Ensures P := by
  rintro b ⟨⟩
  exact h

theorem Ensures.bail {msg : String} {P : α → Prop} : (Outcome.bail msg : Outcome α).Ensures P :=
  fun _ h => absurd h bail_ne_ok

theorem Ensures.bind {x : Outcome α} {f : α → Outcome β} {P : β → Prop}
    (h : ∀ a, x = .ok a → (f a).Ensures P) : (x >>= f).Ensures P := by
  intro b hb
  obtain ⟨a, ha, hf⟩ := bind_eq_ok.1 hb
  exact h a ha b hf

/-! ## Calls that return -/

theorem returns_ok (a : α) : (ok a).Returns := fun _ => ok_ne_panic

theorem returns_bail (msg : String) : (bail msg : Outcome α).Returns := fun _ => bail_ne_panic

theorem returns_ensure (b : Bool) (msg : String) : (ensure b msg).Returns :=
  fun _ => ensure_ne_panic

theorem returns_okOr (o : Option α) (msg : String) : (okOr o msg).Returns := fun _ => okOr_ne_panic

theorem returns_ofExcept (x : Except String α) : (ofExcept x).Returns := fun _ => ofExcept_ne_panic

theorem Returns.context {x : Outcome α} (h : x.Returns) (msg : String) : (x.context msg).Returns :=
  fun m hm => h m (context_eq_panic.1 hm)

theorem Returns.mapErr {x : Outcome α} (h : x.Returns) (f : Error → Error) : (x.mapErr f).Returns :=
  fun m hm => h m (mapErr_eq_panic.1 hm)

theorem Returns.bind {x : Outcome α} {f : α → Outcome β} (hx : x.Returns)
    (hf : ∀ a, x = ok a → (f a).Returns) : (x >>= f).Returns := by
  intro m hm
  rcases bind_eq_panic.1 hm with h | ⟨a, ha, h⟩
  · exact hx m h
  · exact hf a ha m h

/-- A sequence returns exactly when its first part does, and its second part on the value of the
first. -/
theorem returns_bind_iff {x : Outcome α} {f : α → Outcome β} :
    (x >>= f).Returns ↔ x.Returns ∧ ∀ a, x = ok a → (f a).Returns := by
  refine ⟨fun h => ⟨?_, ?_⟩, fun h => h.1.bind h.2⟩
  · intro m hm
    exact h m (Outcome.bind_eq_panic.2 (.inl hm))
  · intro a ha m hm
    exact h m (Outcome.bind_eq_panic.2 (.inr ⟨a, ha, hm⟩))

/-- A sequence whose first part returns does not return exactly when its second part does not, on
the value of the first. -/
theorem Returns.not_returns_bind_iff {x : Outcome α} {f : α → Outcome β} (hx : x.Returns) :
    ¬ (x >>= f).Returns ↔ ∃ a, x = ok a ∧ ¬ (f a).Returns := by
  rw [returns_bind_iff, and_iff_right hx]
  simp only [not_forall, exists_prop]

theorem ne_err_of_ok {x : Outcome α} {a : α} (h : x = ok a) (e : Error) : x ≠ err e := by
  rw [h]
  exact nofun

theorem ne_err_of_not_returns {x : Outcome α} (h : ¬ x.Returns) (e : Error) : x ≠ err e := by
  intro he
  rw [he] at h
  exact h fun _ => err_ne_panic

/-- A sequence that does not end with an error, and whose first part returns, goes on with the value
of that part. -/
theorem Returns.exists_eq_ok {x : Outcome α} {f : α → Outcome β} (hx : x.Returns)
    (h : ∀ e, (x >>= f) ≠ err e) : ∃ a, x = ok a ∧ ∀ e, f a ≠ err e := by
  cases x with
  | ok a => exact ⟨a, rfl, h⟩
  | err e => exact absurd rfl (h e)
  | panic m => exact absurd rfl (hx m)

/-- `.unwrap_or_else(|_| a)` of a `Result`. -/
def unwrapOr (x : Outcome α) (a : α) : Outcome α :=
  match x with
  | ok b => ok b
  | err _ => ok a
  | panic m => panic m

theorem returns_unwrapOr_iff {x : Outcome α} {a : α} : (x.unwrapOr a).Returns ↔ x.Returns := by
  cases x with
  | ok b => exact iff_of_true (returns_ok b) (returns_ok b)
  | err e => exact iff_of_true (returns_ok a) fun _ => err_ne_panic
  | panic m => rfl

theorem exists_unwrapOr_eq_ok {x : Outcome α} (h : x.Returns) (a : α) :
    ∃ b, x.unwrapOr a = ok b := by
  cases x with
  | ok b => exact ⟨b, rfl⟩
  | err e => exact ⟨a, rfl⟩
  | panic m => exact absurd rfl (h m)

/-- A sequence whose first part returns panics in its second. -/
theorem Returns.bind_eq_panic {x : Outcome α} {f : α → Outcome β} (hx : x.Returns) {m : String} :
    (x >>= f) = panic m ↔ ∃ a, x = ok a ∧ f a = panic m := by
  rw [Outcome.bind_eq_panic, or_iff_right (hx m)]

/-! ## Loops over lists -/

/-- A loop that makes a value of each element and stops at the first that gives none. -/
def traverse (f : α → Outcome β) : List α → Outcome (List β)
  | [] => ok []
  | a :: l => do
    let b ← f a
    let bs ← traverse f l
    return b :: bs

theorem traverse_eq_ok {f : α → Outcome β} {l : List α} {bs : List β} :
    traverse f l = ok bs ↔ List.Forall₂ (fun a b => f a = ok b) l bs := by
  induction l generalizing bs with
  | nil => simp [traverse, eq_comm]
  | cons a l ih =>
    simp only [traverse, bind_eq_ok, pure_eq, ok.injEq, ih]
    constructor
    · rintro ⟨b, hb, bs, hbs, rfl⟩
      exact .cons hb hbs
    · rintro (_ | ⟨hb, hbs⟩)
      exact ⟨_, hb, _, hbs, rfl⟩

theorem getElem?_of_forall₂ {f : α → Outcome β} {l : List α} {l' : List β}
    (h : List.Forall₂ (fun x y => f x = .ok y) l l') {i : ℕ} {y : β} :
    l'[i]? = some y ↔ ∃ x, l[i]? = some x ∧ f x = .ok y := by
  induction h generalizing i with
  | nil => simp
  | cons hxy _ ih =>
    cases i with
    | zero => simp [hxy]
    | succ i => simpa using ih

theorem getElem?_traverse {f : α → Outcome β} {l : List α} {bs : List β}
    (h : traverse f l = ok bs) {i : ℕ} {b : β} :
    bs[i]? = some b ↔ ∃ a, l[i]? = some a ∧ f a = ok b :=
  getElem?_of_forall₂ (traverse_eq_ok.1 h)

theorem traverse_eq_ok_map {f : α → Outcome β} {g : α → β} {l : List α}
    (h : ∀ a ∈ l, f a = ok (g a)) : traverse f l = ok (l.map g) := by
  induction l with
  | nil => rfl
  | cons a l ih =>
    rw [traverse, h a List.mem_cons_self, ok_bind, ih fun b hb => h b (List.mem_cons_of_mem _ hb)]
    rfl

theorem traverse_map (f : β → Outcome γ) (g : α → β) (l : List α) :
    traverse f (l.map g) = traverse (fun a => f (g a)) l := by
  induction l with
  | nil => rfl
  | cons a l ih => rw [List.map_cons, traverse, ih, traverse]

/-- An element that gives an error ends the loop, where no element panics. -/
theorem exists_traverse_eq_err {f : α → Outcome β} {l : List α}
    (hreturns : ∀ a ∈ l, (f a).Returns) (h : ∃ a ∈ l, ∃ e, f a = err e) :
    ∃ e, traverse f l = err e := by
  induction l with
  | nil =>
    obtain ⟨a, ha, -⟩ := h
    cases ha
  | cons a l ih =>
    cases hfa : f a with
    | panic m => exact absurd hfa (hreturns a List.mem_cons_self m)
    | err e => exact ⟨e, by rw [traverse, hfa, err_bind]⟩
    | ok b =>
      have hrest : ∃ a ∈ l, ∃ e, f a = err e := by
        obtain ⟨a', ha', e, he⟩ := h
        rcases List.mem_cons.1 ha' with rfl | hmem
        · cases he.symm.trans hfa
        · exact ⟨a', hmem, e, he⟩
      obtain ⟨e, he⟩ := ih (fun a ha => hreturns a (List.mem_cons_of_mem _ ha)) hrest
      exact ⟨e, by rw [traverse, hfa, ok_bind, he, err_bind]⟩

end Outcome

/-- A sequence of results gives a value exactly when both parts do. -/
theorem except_bind_eq_ok {ε α β : Type} {x : Except ε α} {f : α → Except ε β} {b : β} :
    (x >>= f) = .ok b ↔ ∃ a, x = .ok a ∧ f a = .ok b := by
  cases x with
  | error e => simp [bind, Except.bind]
  | ok a => simp [bind, Except.bind]

end Trustmee
