import Mathlib.Data.List.Induction

/-!
# Registers that are only extended

A measurement register starts at a fixed value and is extended with one measurement after the other:
its new value is the hash of the old one followed by the measurement. Two lists of measurements that
lead to one value are equal, unless a collision shows among the texts that were hashed, or a text
whose hash is the starting value (`eq_or_broken`).
-/

namespace Trustmee.HashChain

variable {α : Type} (H : List α → List α)

/-- The register after the measurements. -/
def value (start : List α) (measurements : List (List α)) : List α :=
  measurements.foldl (fun register m => H (register ++ m)) start

/-- The texts that are hashed on the way. -/
def inputs (start : List α) : List (List α) → List (List α)
  | [] => []
  | m :: measurements => (start ++ m) :: inputs (H (start ++ m)) measurements

/-- Two lists of measurements show the hash function broken: by a collision, or by a text whose hash
is the starting value. -/
def Broken (start : List α) (l l' : List (List α)) : Prop :=
  (∃ x ∈ inputs H start l, ∃ y ∈ inputs H start l', x ≠ y ∧ H x = H y) ∨
    ∃ x ∈ inputs H start l ++ inputs H start l', H x = start

variable {H} {start : List α}

@[simp] theorem value_nil : value H start [] = start := rfl

@[simp] theorem inputs_nil : inputs H start [] = [] := rfl

theorem value_concat (l : List (List α)) (m : List α) :
    value H start (l ++ [m]) = H (value H start l ++ m) := by
  simp [value, List.foldl_append]

theorem inputs_concat (l : List (List α)) (m : List α) :
    inputs H start (l ++ [m]) = inputs H start l ++ [value H start l ++ m] := by
  induction l generalizing start with
  | nil => rfl
  | cons k l ih => simp [inputs, ih, value]

/-- Every input of a shorter list is one of the longer. -/
theorem Broken.concat {l l' : List (List α)} {m m' : List α} (h : Broken H start l l') :
    Broken H start (l ++ [m]) (l' ++ [m']) := by
  rcases h with ⟨x, hx, y, hy, hne, heq⟩ | ⟨x, hx, heq⟩
  · refine .inl ⟨x, ?_, y, ?_, hne, heq⟩
    · rw [inputs_concat]
      exact List.mem_append_left _ hx
    · rw [inputs_concat]
      exact List.mem_append_left _ hy
  · refine .inr ⟨x, ?_, heq⟩
    rw [inputs_concat, inputs_concat]
    rcases List.mem_append.1 hx with hx | hx
    · exact List.mem_append_left _ (List.mem_append_left _ hx)
    · exact List.mem_append_right _ (List.mem_append_left _ hx)

/-- Every register has the length of the first, where the hash function gives this length. -/
theorem length_value (hlen : ∀ x, (H x).length = start.length) (l : List (List α)) :
    (value H start l).length = start.length := by
  induction l using List.reverseRecOn with
  | nil => rfl
  | append_singleton l m ih => rw [value_concat, hlen]

/-- **Measurements that lead to one value are equal**, or they show the hash function broken. -/
theorem eq_or_broken (hlen : ∀ x, (H x).length = start.length) {l l' : List (List α)}
    (h : value H start l = value H start l') : l = l' ∨ Broken H start l l' := by
  induction l using List.reverseRecOn generalizing l' with
  | nil =>
    induction l' using List.reverseRecOn with
    | nil => exact .inl rfl
    | append_singleton l' m' _ =>
      refine .inr (.inr ⟨value H start l' ++ m', ?_, ?_⟩)
      · simp [inputs_concat]
      · rw [value_concat] at h
        exact h.symm
  | append_singleton l m ih =>
    induction l' using List.reverseRecOn with
    | nil =>
      refine .inr (.inr ⟨value H start l ++ m, ?_, ?_⟩)
      · simp [inputs_concat]
      · rw [value_concat] at h
        exact h
    | append_singleton l' m' _ =>
      rw [value_concat, value_concat] at h
      by_cases hinput : value H start l ++ m = value H start l' ++ m'
      · have hlength : (value H start l).length = (value H start l').length := by
          rw [length_value hlen, length_value hlen]
        obtain ⟨hvalue, rfl⟩ := List.append_inj hinput hlength
        rcases ih hvalue with rfl | hbroken
        · exact .inl rfl
        · exact .inr hbroken.concat
      · refine .inr (.inl ⟨_, ?_, _, ?_, hinput, h⟩)
        · simp [inputs_concat]
        · simp [inputs_concat]

end Trustmee.HashChain
