import Trustmee.Foundations.Outcome

/-!
# Calls that agree

Two calls agree when one ends with a value exactly when the other does, and with the same one; how
they fail is left open, be it an error, its text or a panic. Agreement is an equivalence that
sequencing respects, and what only changes an error keeps it.
-/

namespace Trustmee.Outcome

variable {α β : Type} {x y z : Outcome α} {f g : α → Outcome β}

/-- The two calls succeed together, with the same value. -/
def Agrees (x y : Outcome α) : Prop := ∀ a, x = ok a ↔ y = ok a

namespace Agrees

theorem refl (x : Outcome α) : Agrees x x := fun _ => Iff.rfl

theorem symm (h : Agrees x y) : Agrees y x := fun a => (h a).symm

theorem trans (h : Agrees x y) (h' : Agrees y z) : Agrees x z := fun a => (h a).trans (h' a)

theorem bind (h : Agrees x y) (hf : ∀ a, x = ok a → Agrees (f a) (g a)) :
    Agrees (x >>= f) (y >>= g) := by
  intro b
  rw [bind_eq_ok, bind_eq_ok]
  constructor
  · rintro ⟨a, ha, hb⟩
    exact ⟨a, (h a).1 ha, (hf a ha b).1 hb⟩
  · rintro ⟨a, ha, hb⟩
    exact ⟨a, (h a).2 ha, (hf a ((h a).2 ha) b).2 hb⟩

theorem context (x : Outcome α) (m : String) : Agrees (x.context m) x :=
  fun _ => context_eq_ok

theorem mapErr (x : Outcome α) (f : Error → Error) : Agrees (x.mapErr f) x :=
  fun _ => mapErr_eq_ok

end Agrees

end Trustmee.Outcome
