import Mathlib.Data.List.Basic
import Mathlib.Data.Int.Notation
import Mathlib.Tactic.SplitIfs

/-!
# JSON values

The values of `serde_json`. An object is a `Map`, which `serde_json` keeps as a B-tree: a list of
members in the order of their keys. `Map.insert` keeps that order, and replaces the member that is
there; on a list in no order it still gives the new value for the inserted key and leaves the others
alone (`Map.get_insert`), so nothing below asks a value to be ordered.
-/

namespace Trustmee

/-- A JSON number: an integer, or a floating-point number by its text. -/
inductive Number
  | int (n : ℤ)
  | float (text : String)
  deriving DecidableEq

/-- `serde_json::Value`. -/
inductive Json
  | null
  | bool (b : Bool)
  | number (n : Number)
  | string (s : String)
  | array (l : List Json)
  | object (m : List (String × Json))

namespace Json

/-- `serde_json::Map`. -/
abbrev Map := List (String × Json)

namespace Map

/-- `Map::get`. -/
def get : Map → String → Option Json
  | [], _ => none
  | (k', v) :: m, k => if k = k' then some v else get m k

/-- `Map::insert`. -/
def insert : Map → String → Json → Map
  | [], k, v => [(k, v)]
  | (k', v') :: m, k, v =>
    if k = k' then (k, v) :: m
    else if k < k' then (k, v) :: (k', v') :: m
    else (k', v') :: insert m k v

/-- `Map::remove`, without the removed value. -/
def erase (m : Map) (k : String) : Map := List.filter (fun p => p.1 ≠ k) m

/-- `Map::extend`. -/
def extend (m l : Map) : Map := List.foldl (fun m p => m.insert p.1 p.2) m l

/-- `json!({ … })`: the members in the order they are written. -/
def ofList (l : List (String × Json)) : Map := extend [] l

@[simp] theorem get_nil (k : String) : get [] k = none := rfl

theorem get_cons (k' k : String) (v : Json) (m : Map) :
    get ((k', v) :: m) k = if k = k' then some v else get m k := rfl

theorem mem_of_get {m : Map} {k : String} {v : Json} (h : get m k = some v) : (k, v) ∈ m := by
  induction m with
  | nil => cases h
  | cons p m ih =>
    obtain ⟨k₀, v₀⟩ := p
    rw [get_cons] at h
    split_ifs at h with hk
    · cases h
      rw [hk]
      exact List.mem_cons_self
    · exact List.mem_cons_of_mem _ (ih h)

theorem get_insert (m : Map) (k k' : String) (v : Json) :
    (m.insert k v).get k' = if k' = k then some v else m.get k' := by
  induction m with
  | nil => rfl
  | cons p m ih =>
    obtain ⟨k₀, v₀⟩ := p
    simp only [insert]
    by_cases h₁ : k = k₀
    · subst h₁
      rw [if_pos rfl, get_cons, get_cons]
      split_ifs <;> rfl
    · rw [if_neg h₁]
      by_cases h₂ : k < k₀
      · rw [if_pos h₂, get_cons]
      · rw [if_neg h₂, get_cons, get_cons, ih]
        by_cases h₃ : k' = k
        · subst h₃
          rw [if_neg h₁, if_pos rfl, if_pos rfl]
        · rw [if_neg h₃, if_neg h₃]

@[simp] theorem get_insert_self (m : Map) (k : String) (v : Json) :
    (m.insert k v).get k = some v := by
  rw [get_insert, if_pos rfl]

theorem get_insert_of_ne (m : Map) {k k' : String} (v : Json) (h : k' ≠ k) :
    (m.insert k v).get k' = m.get k' := by
  rw [get_insert, if_neg h]

theorem get_erase (m : Map) (k k' : String) :
    (m.erase k).get k' = if k' = k then none else m.get k' := by
  induction m with
  | nil => simp [erase]
  | cons p m ih =>
    obtain ⟨k₀, v₀⟩ := p
    by_cases h : k₀ = k
    · rw [erase, List.filter_cons_of_neg (by simp [h]), ← erase, ih, get_cons]
      split_ifs with h₁ h₂ <;> simp_all
    · rw [erase, List.filter_cons_of_pos (by simp [h]), ← erase, get_cons, ih, get_cons]
      split_ifs with h₁ h₂ <;> simp_all

@[simp] theorem extend_nil (m : Map) : extend m [] = m := rfl

theorem extend_cons (m : Map) (p : String × Json) (l : Map) :
    extend m (p :: l) = extend (m.insert p.1 p.2) l := rfl

/-- A key that the extension does not have keeps its value. -/
theorem get_extend_of_none (m l : Map) {k : String} (h : l.get k = none) :
    (m.extend l).get k = m.get k := by
  induction l generalizing m with
  | nil => rfl
  | cons p l ih =>
    obtain ⟨k₀, v₀⟩ := p
    rw [get_cons] at h
    split_ifs at h with hk
    rw [extend_cons, ih _ h, get_insert_of_ne _ _ hk]

/-- The members of an object, where no key is written twice. -/
theorem get_extend_eq_some {m l : Map} (hl : (List.map Prod.fst l).Nodup) {k : String} {v : Json} :
    (m.extend l).get k = some v ↔ (k, v) ∈ l ∨ l.get k = none ∧ m.get k = some v := by
  induction l generalizing m with
  | nil => simp
  | cons p l ih =>
    obtain ⟨k₀, v₀⟩ := p
    rw [List.map_cons, List.nodup_cons] at hl
    rw [extend_cons, ih hl.2, get_insert, get_cons, List.mem_cons, Prod.mk.injEq]
    by_cases hk : k = k₀
    · subst hk
      have hnot : ∀ w, (k, w) ∉ l := fun w hw =>
        hl.1 (List.mem_map.2 ⟨(k, w), hw, rfl⟩)
      have hnone : get l k = none := by
        by_contra hsome
        obtain ⟨w, hw⟩ := Option.ne_none_iff_exists'.1 hsome
        exact hnot w (mem_of_get hw)
      simp [hnot, hnone, eq_comm]
    · simp [hk]

theorem mem_insert {m : Map} {k : String} {v : Json} {p : String × Json} (h : p ∈ m.insert k v) :
    p = (k, v) ∨ p ∈ m := by
  induction m with
  | nil => exact .inl (List.mem_singleton.1 h)
  | cons q m ih =>
    obtain ⟨k', v'⟩ := q
    simp only [insert] at h
    split_ifs at h with h₁ h₂
    · rcases List.mem_cons.1 h with rfl | h
      · exact .inl rfl
      · exact .inr (List.mem_cons_of_mem _ h)
    · rcases List.mem_cons.1 h with rfl | h
      · exact .inl rfl
      · exact .inr h
    · rcases List.mem_cons.1 h with rfl | h
      · exact .inr List.mem_cons_self
      · rcases ih h with rfl | h
        · exact .inl rfl
        · exact .inr (List.mem_cons_of_mem _ h)

theorem mem_extend {m l : Map} {p : String × Json} (h : p ∈ m.extend l) : p ∈ m ∨ p ∈ l := by
  induction l generalizing m with
  | nil => exact .inl h
  | cons q l ih =>
    obtain ⟨k, v⟩ := q
    rcases ih h with h | h
    · rcases mem_insert h with rfl | h
      · exact .inr List.mem_cons_self
      · exact .inl h
    · exact .inr (List.mem_cons_of_mem _ h)

/-- A key that the extension has with one value alone gets this value. -/
theorem get_extend_of_forall {m l : Map} {k : String} {v : Json} (h : (k, v) ∈ l)
    (hall : ∀ w, (k, w) ∈ l → w = v) : (m.extend l).get k = some v := by
  induction l generalizing m with
  | nil => cases h
  | cons p l ih =>
    obtain ⟨k₀, v₀⟩ := p
    rw [extend_cons]
    by_cases hl : (k, v) ∈ l
    · exact ih hl fun w hw => hall w (List.mem_cons_of_mem _ hw)
    · obtain ⟨rfl, rfl⟩ : k = k₀ ∧ v = v₀ := by simpa [hl] using h
      have hnone : get l k = none := by
        by_contra hsome
        obtain ⟨w, hw⟩ := Option.ne_none_iff_exists'.1 hsome
        obtain rfl := hall w (List.mem_cons_of_mem _ (mem_of_get hw))
        exact hl (mem_of_get hw)
      rw [get_extend_of_none _ _ hnone, get_insert_self]

/-- The members of an object that is written out, where no key is written twice. -/
theorem get_extend_ofList {m l : Map} (hl : (List.map Prod.fst l).Nodup) {k : String} {v : Json}
    (h : (k, v) ∈ l) : (m.extend (ofList l)).get k = some v := by
  have hget : get (ofList l) k = some v := (get_extend_eq_some hl).2 (.inl h)
  apply get_extend_of_forall (mem_of_get hget)
  intro w hw
  have hmem : (k, w) ∈ l := (mem_extend hw).resolve_left List.not_mem_nil
  have hget' : get (ofList l) k = some w := (get_extend_eq_some hl).2 (.inl hmem)
  rw [hget] at hget'
  cases hget'
  rfl

/-! ## Members in order -/

/-- The members are in the order of their keys, as a B-tree has them. -/
def Sorted (m : Map) : Prop := (List.map Prod.fst m).Pairwise (· < ·)

theorem sorted_cons {p : String × Json} {m : Map} :
    Sorted (p :: m) ↔ (∀ q ∈ m, p.1 < q.1) ∧ Sorted m := by
  rw [Sorted, List.map_cons, List.pairwise_cons, List.forall_mem_map]
  rfl

/-- A key in front of all others is not among them. -/
theorem get_eq_none_of_lt {m : Map} {k : String} (h : ∀ q ∈ m, k < q.1) : m.get k = none := by
  by_contra hsome
  obtain ⟨v, hv⟩ := Option.ne_none_iff_exists'.1 hsome
  exact String.lt_irrefl k (h _ (mem_of_get hv))

theorem Sorted.insert {m : Map} (h : Sorted m) (k : String) (v : Json) : Sorted (m.insert k v) := by
  induction m with
  | nil => exact List.pairwise_singleton _ _
  | cons p m ih =>
    obtain ⟨k₀, v₀⟩ := p
    obtain ⟨hlt, hm⟩ := sorted_cons.1 h
    simp only [Map.insert]
    split_ifs with h₁ h₂
    · subst h₁
      exact h
    · refine sorted_cons.2 ⟨?_, h⟩
      intro q hq
      rcases List.mem_cons.1 hq with rfl | hq
      · exact h₂
      · exact String.lt_trans h₂ (hlt q hq)
    · refine sorted_cons.2 ⟨?_, ih hm⟩
      intro q hq
      rcases mem_insert hq with rfl | hq
      · exact (Std.lt_trichotomy k₀ k).resolve_right (by simp [Ne.symm h₁, h₂])
      · exact hlt q hq

/-- A key that is not there is added. -/
theorem length_insert_of_none {m : Map} {k : String} (v : Json) (h : m.get k = none) :
    (m.insert k v).length = m.length + 1 := by
  induction m with
  | nil => rfl
  | cons p m ih =>
    obtain ⟨k₀, v₀⟩ := p
    rw [get_cons] at h
    simp only [Map.insert]
    split_ifs at h ⊢ with h₁ h₂
    · rfl
    · rw [List.length_cons, ih h, List.length_cons]

/-- A key that is there is replaced. -/
theorem Sorted.length_insert_of_ne {m : Map} (hm : Sorted m) {k : String} (v : Json)
    (h : m.get k ≠ none) : (m.insert k v).length = m.length := by
  induction m with
  | nil => exact absurd rfl h
  | cons p m ih =>
    obtain ⟨k₀, v₀⟩ := p
    obtain ⟨hlt, hm⟩ := sorted_cons.1 hm
    rw [get_cons] at h
    simp only [Map.insert]
    split_ifs at h ⊢ with h₁ h₂
    · rfl
    · exact absurd (get_eq_none_of_lt fun q hq => String.lt_trans h₂ (hlt q hq)) h
    · rw [List.length_cons, ih hm h, List.length_cons]

theorem Sorted.length_insert_le {m : Map} (hm : Sorted m) (k : String) (v : Json) :
    (m.insert k v).length ≤ m.length + 1 := by
  by_cases h : m.get k = none
  · exact Nat.le_of_eq (length_insert_of_none v h)
  · rw [hm.length_insert_of_ne v h]
    exact Nat.le_succ _

theorem Sorted.extend {m : Map} (h : Sorted m) (l : Map) : Sorted (m.extend l) := by
  induction l generalizing m with
  | nil => exact h
  | cons p l ih => exact ih (h.insert p.1 p.2)

theorem sorted_nil : Sorted [] := List.Pairwise.nil

theorem Sorted.length_extend_le {m : Map} (h : Sorted m) (l : Map) :
    (m.extend l).length ≤ m.length + l.length := by
  induction l generalizing m with
  | nil => exact Nat.le_refl _
  | cons p l ih =>
    have hle := ih (h.insert p.1 p.2)
    have hinsert := h.length_insert_le p.1 p.2
    rw [extend_cons, List.length_cons]
    omega

/-- An extension has a member for each of its keys exactly where these are new, and no two the
same. -/
theorem Sorted.length_extend_iff {m : Map} (h : Sorted m) (l : Map) :
    (m.extend l).length = m.length + l.length ↔
      (List.map Prod.fst l).Nodup ∧ ∀ p ∈ l, m.get p.1 = none := by
  induction l generalizing m with
  | nil => simp
  | cons p l ih =>
    rw [extend_cons, List.length_cons, List.map_cons, List.nodup_cons, List.forall_mem_cons]
    by_cases hp : m.get p.1 = none
    · have hlength := length_insert_of_none p.2 hp
      have hiff := ih (h.insert p.1 p.2)
      rw [hlength, Nat.add_assoc, Nat.add_comm 1] at hiff
      rw [hiff]
      have hfresh : (∀ q ∈ l, (m.insert p.1 p.2).get q.1 = none) ↔
          p.1 ∉ List.map Prod.fst l ∧ ∀ q ∈ l, m.get q.1 = none := by
        rw [List.mem_map, not_exists, ← forall_and]
        refine forall_congr' fun q => ?_
        rw [get_insert]
        by_cases hq : q.1 = p.1
        · simp [hq, hp]
        · simp [hq]
      rw [hfresh]
      tauto
    · have hlength := h.length_insert_of_ne p.2 hp
      have hle := (h.insert p.1 p.2).length_extend_le l
      refine iff_of_false ?_ fun hand => hp hand.2.1
      omega

/-- An object that is written out has a member for each that is written exactly where no key is
written twice. -/
theorem length_ofList_iff (l : Map) :
    (ofList l).length = l.length ↔ (List.map Prod.fst l).Nodup := by
  have hiff := Sorted.length_extend_iff sorted_nil l
  rw [List.length_nil, Nat.zero_add] at hiff
  refine hiff.trans (and_iff_left fun p _ => get_nil _)

end Map

/-- `Value::get` with a string: the member of an object. -/
def get : Json → String → Option Json
  | object m, k => Map.get m k
  | _, _ => none

@[simp] theorem get_object (m : Map) (k : String) : (object m).get k = Map.get m k := rfl

/-- `Value::as_str`. -/
def asStr : Json → Option String
  | string s => some s
  | _ => none

/-- `Value::as_object`. -/
def asObject : Json → Option Map
  | object m => some m
  | _ => none

/-- The value is an object. -/
def IsObject (v : Json) : Prop := ∃ m, v = object m

end Json

end Trustmee
