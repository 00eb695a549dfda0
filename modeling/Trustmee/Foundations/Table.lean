import Mathlib.Logic.Function.Basic
import Mathlib.Data.List.Induction
import Mathlib.Data.List.Nodup

/-!
# Tables

A hash map, as the partial function it represents: `t k = some v` when the table maps `k` to `v`.
Iteration over a hash map is in no fixed order, so a loop over a table is a loop over *some* list
that enumerates it (`Enumerates`).
-/

namespace Trustmee

/-- A map from keys to values. -/
abbrev Table (κ ν : Type*) := κ → Option ν

namespace Table

variable {κ ν : Type*}

/-- The empty table. -/
def empty : Table κ ν := fun _ => none

@[simp] theorem empty_apply (k : κ) : (empty : Table κ ν) k = none := rfl

@[ext] theorem ext {t u : Table κ ν} (h : ∀ k, t k = u k) : t = u := funext h

variable [DecidableEq κ]

/-- `HashMap::insert`: the new value replaces the old one. -/
def insert (t : Table κ ν) (k : κ) (v : ν) : Table κ ν := fun k' => if k' = k then some v else t k'

/-- `HashMap::remove`. -/
def erase (t : Table κ ν) (k : κ) : Table κ ν := fun k' => if k' = k then none else t k'

/-- `scc::HashMap::insert`: an entry that is there stays. -/
def insertNew (t : Table κ ν) (k : κ) (v : ν) : Table κ ν :=
  match t k with
  | none => t.insert k v
  | some _ => t

variable (t : Table κ ν) (k k' : κ) (v : ν)

theorem insert_apply : t.insert k v k' = if k' = k then some v else t k' := rfl

@[simp] theorem insert_self : t.insert k v k = some v := if_pos rfl

variable {k k'} in
theorem insert_of_ne (h : k' ≠ k) : t.insert k v k' = t k' := if_neg h

theorem insert_insert (w : ν) : (t.insert k v).insert k w = t.insert k w := by
  ext k'
  by_cases h : k' = k
  · rw [h, insert_self, insert_self]
  · rw [insert_of_ne _ _ h, insert_of_ne _ _ h, insert_of_ne _ _ h]

@[simp] theorem erase_self : t.erase k k = none := if_pos rfl

variable {k k'} in
theorem erase_of_ne (h : k' ≠ k) : t.erase k k' = t k' := if_neg h

variable {t k k' v}

theorem insertNew_of_none (h : t k = none) : t.insertNew k v = t.insert k v := by
  simp only [insertNew, h]

theorem insertNew_of_some {w : ν} (h : t k = some w) : t.insertNew k v k' = t k' := by
  simp only [insertNew, h]

theorem insertNew_of_ne (h : k' ≠ k) : t.insertNew k v k' = t k' := by
  unfold insertNew
  cases t k with
  | none => exact insert_of_ne t v h
  | some _ => rfl

theorem insert_ne_self (h : t k = none) : t.insert k v ≠ t := fun e => by
  have := congrFun e k
  rw [insert_self, h] at this
  cases this

theorem insert_eq_some {w : ν} (h : t.insert k v k' = some w) :
    (k' = k ∧ w = v) ∨ (k' ≠ k ∧ t k' = some w) := by
  by_cases hk : k' = k
  · rw [hk, insert_self] at h
    exact .inl ⟨hk, (Option.some.inj h).symm⟩
  · rw [insert_of_ne _ _ hk] at h
    exact .inr ⟨hk, h⟩

/-- A key without a binding was not inserted, and had none before. -/
theorem insert_eq_none (h : t.insert k v k' = none) : k' ≠ k ∧ t k' = none := by
  have hne : k' ≠ k := by
    rintro rfl
    rw [insert_self] at h
    cases h
  rw [insert_of_ne _ _ hne] at h
  exact ⟨hne, h⟩

theorem erase_eq_some {w : ν} (h : t.erase k k' = some w) : k' ≠ k ∧ t k' = some w := by
  by_cases hk : k' = k
  · rw [hk, erase_self] at h
    cases h
  · rw [erase_of_ne _ hk] at h
    exact ⟨hk, h⟩

/-- The list `l` enumerates the table: each binding stands in it once. -/
structure Enumerates (l : List (κ × ν)) (t : Table κ ν) : Prop where
  nodup : (l.map Prod.fst).Nodup
  mem_iff : ∀ k v, (k, v) ∈ l ↔ t k = some v

omit [DecidableEq κ] in
theorem Enumerates.nil : Enumerates [] (empty : Table κ ν) := ⟨List.nodup_nil, by simp⟩

theorem Enumerates.cons {l : List (κ × ν)} {t : Table κ ν} (h : Enumerates l t) {k : κ}
    (hk : t k = none) (v : ν) : Enumerates ((k, v) :: l) (t.insert k v) where
  nodup := by
    refine List.nodup_cons.2 ⟨fun hmem => ?_, h.nodup⟩
    obtain ⟨⟨k', v'⟩, hp, rfl⟩ := List.mem_map.1 hmem
    cases hk.symm.trans ((h.mem_iff _ _).1 hp)
  mem_iff k' v' := by
    by_cases hk' : k' = k
    · subst hk'
      have hnot : (k', v') ∉ l := fun hp => by cases hk.symm.trans ((h.mem_iff _ _).1 hp)
      simp [hnot, eq_comm]
    · rw [insert_of_ne _ _ hk', ← h.mem_iff, List.mem_cons, Prod.mk.injEq]
      simp [hk']

omit [DecidableEq κ] in
/-- A list enumerates one table. -/
theorem Enumerates.eq {l : List (κ × ν)} {t u : Table κ ν} (h : Enumerates l t)
    (h' : Enumerates l u) : t = u := by
  ext k v
  rw [← h.mem_iff, h'.mem_iff]

omit [DecidableEq κ] in
/-- The keys of an enumeration are those that have a binding. -/
theorem Enumerates.mem_keys {l : List (κ × ν)} {t : Table κ ν} (h : Enumerates l t) {k : κ} :
    k ∈ l.map Prod.fst ↔ (t k).isSome = true := by
  simp [h.mem_iff, Option.isSome_iff_exists]

omit [DecidableEq κ] in
/-- The bindings of a table with other values. -/
theorem Enumerates.map {l : List (κ × ν)} {t : Table κ ν} (h : Enumerates l t) {μ : Type*}
    (f : ν → μ) :
    Enumerates (l.map fun p => (p.1, f p.2)) fun k => (t k).map f where
  nodup := by
    rw [List.map_map]
    exact h.nodup
  mem_iff k w := by
    rw [List.mem_map, Option.map_eq_some_iff]
    constructor
    · rintro ⟨p, hp, heq⟩
      cases heq
      exact ⟨p.2, (h.mem_iff _ _).1 hp, rfl⟩
    · rintro ⟨v, hv, rfl⟩
      exact ⟨(k, v), (h.mem_iff _ _).2 hv, rfl⟩

theorem Enumerates.insert {l : List (κ × ν)} {t : Table κ ν} (h : Enumerates l t) (k : κ) (v : ν) :
    Enumerates ((k, v) :: l.filter fun p => p.1 ≠ k) (t.insert k v) where
  nodup := by
    rw [List.map_cons, List.nodup_cons]
    constructor
    · simp
    · exact h.nodup.sublist (List.filter_sublist.map _)
  mem_iff k' w := by
    rw [List.mem_cons, List.mem_filter, h.mem_iff, insert_apply]
    by_cases hk : k' = k
    · simp [hk, eq_comm]
    · simp [hk]

theorem Enumerates.erase {l : List (κ × ν)} {t : Table κ ν} (h : Enumerates l t) (k : κ) :
    Enumerates (l.filter fun p => p.1 ≠ k) (t.erase k) where
  nodup := h.nodup.sublist (List.filter_sublist.map _)
  mem_iff k' w := by
    rw [List.mem_filter, h.mem_iff, Table.erase]
    by_cases hk : k' = k
    · simp [hk]
    · simp [hk]

/-- An order in which a hash map gives its bindings: it goes through each table that has finitely
many. -/
structure Iteration (κ ν : Type*) where
  order : Table κ ν → List (κ × ν)
  enumerates : ∀ l t, Enumerates l t → Enumerates (order t) t

omit [DecidableEq κ] in
/-- Each order goes through the same bindings. -/
theorem Iteration.perm (iteration : Iteration κ ν) {l : List (κ × ν)} {t : Table κ ν}
    (h : Enumerates l t) : (iteration.order t).Perm l := by
  have h' := iteration.enumerates l t h
  refine (List.perm_ext_iff_of_nodup (.of_map _ h'.nodup) (.of_map _ h.nodup)).2 fun p => ?_
  rw [h'.mem_iff, h.mem_iff]

omit [DecidableEq κ] in
instance : Nonempty (Iteration κ ν) := by
  classical
  have h : ∀ t : Table κ ν, ∃ l, (∃ l', Enumerates l' t) → Enumerates l t := by
    intro t
    by_cases hfinite : ∃ l', Enumerates l' t
    · obtain ⟨l', h⟩ := hfinite
      exact ⟨l', fun _ => h⟩
    · exact ⟨[], fun h => absurd h hfinite⟩
  choose order horder using h
  exact ⟨⟨order, fun l t hl => horder t ⟨l, hl⟩⟩⟩

/-- Each binding is the first in some order. -/
theorem exists_iteration_first {l : List (κ × ν)} {t : Table κ ν} (h : Enumerates l t) {k : κ}
    {v : ν} (hk : t k = some v) :
    ∃ (iteration : Iteration κ ν) (rest : List (κ × ν)), iteration.order t = (k, v) :: rest := by
  classical
  obtain ⟨other⟩ := (inferInstance : Nonempty (Iteration κ ν))
  have hinsert : (t.erase k).insert k v = t := by
    ext k' w
    by_cases hk' : k' = k
    · rw [hk', insert_self, hk]
    · rw [insert_of_ne _ _ hk', erase_of_ne _ hk']
  have hfirst : Enumerates ((k, v) :: l.filter fun p => p.1 ≠ k) t := by
    have hcons := (h.erase k).cons (erase_self t k) v
    rwa [hinsert] at hcons
  refine ⟨⟨fun u => if u = t then (k, v) :: l.filter fun p => p.1 ≠ k else other.order u, ?_⟩, _,
    if_pos rfl⟩
  intro l' u hu
  split
  · next heq => rwa [heq]
  · exact other.enumerates l' u hu

omit [DecidableEq κ] in
/-- The bindings of a table that meet a test. -/
theorem Enumerates.filter {l : List (κ × ν)} {t u : Table κ ν} (h : Enumerates l t)
    (test : ν → Bool) (hu : ∀ k v, u k = some v ↔ t k = some v ∧ test v = true) :
    Enumerates (l.filter fun p => test p.2) u where
  nodup := h.nodup.sublist (List.filter_sublist.map _)
  mem_iff k v := by rw [List.mem_filter, h.mem_iff, hu]

/-! ## Insertions in a row -/

/-- The bindings of a list are inserted one after another. -/
def insertAll (t : Table κ ν) (l : List (κ × ν)) : Table κ ν :=
  l.foldl (fun t p => t.insert p.1 p.2) t

theorem insertAll_cons (t : Table κ ν) (k : κ) (v : ν) (l : List (κ × ν)) :
    t.insertAll ((k, v) :: l) = (t.insert k v).insertAll l := rfl

theorem insertAll_concat (t : Table κ ν) (l : List (κ × ν)) (k : κ) (v : ν) :
    t.insertAll (l ++ [(k, v)]) = (t.insertAll l).insert k v := by
  simp only [insertAll, List.foldl_append, List.foldl_cons, List.foldl_nil]

/-- The last binding of a key in the list is the one that stays. -/
theorem insertAll_eq_some {t : Table κ ν} {l : List (κ × ν)} {k : κ} {v : ν} :
    t.insertAll l k = some v ↔
      (∃ i : ℕ, l[i]? = some (k, v) ∧ ∀ j : ℕ, i < j → ∀ w, l[j]? ≠ some (k, w)) ∨
        (t k = some v ∧ ∀ w, (k, w) ∉ l) := by
  induction l using List.reverseRecOn with
  | nil => simp [insertAll]
  | append_singleton l p ih =>
    obtain ⟨k', v'⟩ := p
    rw [insertAll_concat, insert_apply]
    by_cases hk : k = k'
    · subst hk
      rw [if_pos rfl]
      constructor
      · intro h
        refine .inl ⟨l.length, by simpa using h, fun j hj w => ?_⟩
        rw [List.getElem?_eq_none (by rw [List.length_append]; exact hj)]
        simp
      · rintro (⟨i, hi, hlast⟩ | ⟨-, hnot⟩)
        · rcases Nat.lt_trichotomy i l.length with hlt | rfl | hgt
          · exact absurd (by simp) (hlast l.length hlt v')
          · simpa using hi
          · rw [List.getElem?_eq_none (by rw [List.length_append]; exact hgt)] at hi
            cases hi
        · exact absurd (by simp) (hnot v')
    · rw [if_neg hk, ih]
      have hold : ∀ (i : ℕ) w, (l ++ [(k', v')])[i]? = some (k, w) ↔ l[i]? = some (k, w) := by
        intro i w
        rcases Nat.lt_or_ge i l.length with hlt | hge
        · rw [List.getElem?_append_left hlt]
        · rw [List.getElem?_append_right hge, List.getElem?_eq_none hge, List.getElem?_singleton]
          split_ifs
          · simp [Ne.symm hk]
          · rfl
      simp [hold, hk]

/-- Bindings of distinct keys are all there. -/
theorem enumerates_insertAll {l : List (κ × ν)} (h : (l.map Prod.fst).Nodup) :
    Enumerates l ((empty : Table κ ν).insertAll l) where
  nodup := h
  mem_iff k v := by
    rw [insertAll_eq_some, List.mem_iff_getElem?]
    constructor
    · rintro ⟨i, hi⟩
      refine .inl ⟨i, hi, fun j hj w hw => ?_⟩
      have heq : (l.map Prod.fst)[i]? = (l.map Prod.fst)[j]? := by
        rw [List.getElem?_map, List.getElem?_map, hi, hw]
        rfl
      have hlt : i < (l.map Prod.fst).length := by
        rw [List.length_map]
        exact (List.getElem?_eq_some_iff.1 hi).1
      exact absurd ((List.getElem?_inj hlt h).1 heq) (Nat.ne_of_lt hj)
    · rintro (⟨i, hi, -⟩ | ⟨hempty, -⟩)
      · exact ⟨i, hi⟩
      · cases hempty

end Table

end Trustmee
