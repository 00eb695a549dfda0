import Mathlib.Data.List.Induction

/-!
# Names with numbers

The elements of a list are numbered within their classes: `rank cs i` is the class of the element at
`i` and how many elements of the class come before it. A name is made of a class and a number
(`numbered`). Names are different where the pairs are, as long as no class ends in a digit. A list is
cut at its first separator in one way, and at its last element with a property.
-/

namespace Trustmee

/-! ## Numbers within a class -/

section Rank

variable {κ : Type*} [DecidableEq κ]

/-- The class of an element, and how many elements of the class come before it. -/
def rank (cs : List κ) (i : ℕ) : Option (κ × ℕ) := cs[i]?.map fun c => (c, (cs.take i).count c)

variable {cs : List κ} {c : κ} {i j k l : ℕ}

theorem rank_eq_some : rank cs i = some (c, k) ↔ cs[i]? = some c ∧ (cs.take i).count c = k := by
  simp only [rank, Option.map_eq_some_iff, Prod.mk.injEq]
  constructor
  · rintro ⟨_, hi, rfl, rfl⟩
    exact ⟨hi, rfl⟩
  · rintro ⟨hi, rfl⟩
    exact ⟨c, hi, rfl, rfl⟩

theorem count_take_mono (h : i ≤ j) : (cs.take i).count c ≤ (cs.take j).count c := by
  have htake : (cs.take j).take i = cs.take i := by rw [List.take_take, Nat.min_eq_left h]
  rw [← htake]
  exact (List.take_sublist _ _).count_le c

/-- The number of an element is the count of its class just before it. -/
theorem count_take_succ (h : cs[i]? = some c) :
    (cs.take (i + 1)).count c = (cs.take i).count c + 1 := by
  rw [List.take_add_one, h, Option.toList_some, List.count_append, List.count_singleton_self]

theorem rank_lt_count (h : rank cs i = some (c, k)) : k < cs.count c := by
  obtain ⟨hi, rfl⟩ := rank_eq_some.1 h
  calc (cs.take i).count c < (cs.take (i + 1)).count c := by rw [count_take_succ hi]; omega
    _ ≤ cs.count c := (List.take_sublist _ _).count_le c

theorem rank_strictMono (hi : rank cs i = some (c, k)) (hj : rank cs j = some (c, l)) (h : i < j) :
    k < l := by
  obtain ⟨hci, rfl⟩ := rank_eq_some.1 hi
  obtain ⟨-, rfl⟩ := rank_eq_some.1 hj
  calc (cs.take i).count c < (cs.take (i + 1)).count c := by rw [count_take_succ hci]; omega
    _ ≤ (cs.take j).count c := count_take_mono h

theorem rank_lt_iff (hi : rank cs i = some (c, k)) (hj : rank cs j = some (c, l)) :
    i < j ↔ k < l := by
  refine ⟨rank_strictMono hi hj, fun h => ?_⟩
  by_contra hle
  rcases Nat.eq_or_lt_of_le (Nat.le_of_not_lt hle) with rfl | hlt
  · rw [hi] at hj
    simp only [Option.some.injEq, Prod.mk.injEq, true_and] at hj
    omega
  · have := rank_strictMono hj hi hlt
    omega

theorem rank_injective (hi : rank cs i = some (c, k)) (hj : rank cs j = some (c, k)) : i = j := by
  rcases Nat.lt_trichotomy i j with hlt | heq | hgt
  · exact absurd (rank_strictMono hi hj hlt) (Nat.lt_irrefl k)
  · exact heq
  · exact absurd (rank_strictMono hj hi hgt) (Nat.lt_irrefl k)

/-- Each number below the count of a class is given. -/
theorem exists_rank (h : k < cs.count c) : ∃ i, rank cs i = some (c, k) := by
  induction cs using List.reverseRecOn with
  | nil => simp at h
  | append_singleton cs c' ih =>
    by_cases hlt : k < cs.count c
    · obtain ⟨i, hi⟩ := ih hlt
      obtain ⟨hci, hk⟩ := rank_eq_some.1 hi
      have hlen : i < cs.length := (List.getElem?_eq_some_iff.1 hci).1
      refine ⟨i, rank_eq_some.2 ⟨by rw [List.getElem?_append_left hlen, hci], ?_⟩⟩
      rw [List.take_append_of_le_length (Nat.le_of_lt hlen), hk]
    · rw [List.count_append, List.count_singleton] at h
      have hc : c' = c := by
        by_contra hne
        rw [if_neg (by simpa using hne)] at h
        omega
      subst hc
      rw [if_pos (by simp)] at h
      refine ⟨cs.length, rank_eq_some.2 ⟨by simp, ?_⟩⟩
      rw [List.take_left]
      omega

end Rank

/-! ## Separators -/

/-- A list is cut at the first separator in one way. -/
theorem append_cons_inj {α : Type*} {a : α} {l l' r r' : List α} (hl : a ∉ l) (hl' : a ∉ l')
    (h : l ++ a :: r = l' ++ a :: r') : l = l' ∧ r = r' := by
  induction l generalizing l' with
  | nil =>
    cases l' with
    | nil => exact ⟨rfl, List.tail_eq_of_cons_eq h⟩
    | cons b l' => exact absurd (List.head_eq_of_cons_eq h ▸ List.mem_cons_self) hl'
  | cons b l ih =>
    cases l' with
    | nil => exact absurd (List.head_eq_of_cons_eq h ▸ List.mem_cons_self) hl
    | cons b' l' =>
      rw [List.mem_cons, not_or] at hl hl'
      obtain ⟨rfl, rfl⟩ := ih hl.2 hl'.2 (List.tail_eq_of_cons_eq h)
      exact ⟨congrArg (· :: l) (List.head_eq_of_cons_eq h), rfl⟩

/-- There is one last element with a property. -/
theorem last_unique {α : Type*} {P : α → Prop} {a a' : α} {l l' r r' : List α}
    (h : l ++ a :: r = l' ++ a' :: r') (ha : P a) (ha' : P a') (hr : ∀ x ∈ r, ¬ P x)
    (hr' : ∀ x ∈ r', ¬ P x) : a = a' := by
  rcases List.append_eq_append_iff.1 h with ⟨m, -, hm⟩ | ⟨m, -, hm⟩
  · cases m with
    | nil => exact List.head_eq_of_cons_eq hm
    | cons b m =>
      rw [List.tail_eq_of_cons_eq hm] at hr
      exact absurd ha' (hr a' (List.mem_append_right _ List.mem_cons_self))
  · cases m with
    | nil => exact (List.head_eq_of_cons_eq hm).symm
    | cons b m =>
      rw [List.tail_eq_of_cons_eq hm] at hr'
      exact absurd ha (hr' a (List.mem_append_right _ List.mem_cons_self))

/-! ## Names -/

/-- A class and a number in decimals. -/
def numbered (stem : String) (n : ℕ) : String := stem ++ toString n

/-- The last character is a digit. -/
def EndsInDigit (s : String) : Prop := s.toList.getLast?.any Char.isDigit = true

instance (s : String) : Decidable (EndsInDigit s) :=
  inferInstanceAs (Decidable (s.toList.getLast?.any Char.isDigit = true))

theorem toDigits_injective {m n : ℕ} (h : Nat.toDigits 10 m = Nat.toDigits 10 n) : m = n := by
  rw [← Nat.ofDigitChars_ten_toDigits (n := m), h, Nat.ofDigitChars_ten_toDigits]

theorem toString_injective {m n : ℕ} (h : toString m = toString n) : m = n := by
  rw [Nat.toString_eq_ofList_toDigits, Nat.toString_eq_ofList_toDigits] at h
  exact toDigits_injective (String.ofList_injective h)

/-- A stem that is longer by some of the other name's digits ends in a digit. -/
theorem endsInDigit_of_append {s : String} {l rest : List Char} {m n : ℕ}
    (hs : s.toList = l ++ rest) (hrest : rest ≠ [])
    (hm : Nat.toDigits 10 m = rest ++ Nat.toDigits 10 n) : EndsInDigit s := by
  have hmem : rest.getLast hrest ∈ Nat.toDigits 10 m := by
    rw [hm]
    exact List.mem_append_left _ (List.getLast_mem hrest)
  rw [EndsInDigit, hs, List.getLast?_append, List.getLast?_eq_some_getLast hrest, Option.some_or,
    Option.any_some]
  exact Nat.isDigit_of_mem_toDigits (by omega) (by omega) hmem

/-- **Names are different where the stems or the numbers are.** -/
theorem numbered_injective {s t : String} (hs : ¬ EndsInDigit s) (ht : ¬ EndsInDigit t) {m n : ℕ}
    (h : numbered s m = numbered t n) : s = t ∧ m = n := by
  have hlist : s.toList ++ Nat.toDigits 10 m = t.toList ++ Nat.toDigits 10 n := by
    have := congrArg String.toList h
    simpa [numbered, Nat.toString_eq_ofList_toDigits] using this
  rcases List.append_eq_append_iff.1 hlist with ⟨rest, htl, hm⟩ | ⟨rest, hsl, hn⟩
  · by_cases hrest : rest = []
    · subst hrest
      rw [List.append_nil] at htl
      exact ⟨String.toList_injective htl.symm, toDigits_injective hm⟩
    · exact absurd (endsInDigit_of_append htl hrest hm) ht
  · by_cases hrest : rest = []
    · subst hrest
      rw [List.append_nil] at hsl
      exact ⟨String.toList_injective hsl, (toDigits_injective hn).symm⟩
    · exact absurd (endsInDigit_of_append hsl hrest hn) hs

end Trustmee
