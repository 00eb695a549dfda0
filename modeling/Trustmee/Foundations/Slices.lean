import Trustmee.Foundations.LittleEndian
import Trustmee.Foundations.Outcome

/-!
# Slices and lengths

The operations on byte strings and lengths that can panic: a slice or an index that passes the end,
and the sum or the difference of two lengths that no machine word of 64 bits holds. The last panics
where the build checks overflows, and wraps around where it does not.
-/

namespace Trustmee

/-- `&data[start..stop]`. -/
def slice (data : Bytes) (start stop : ℕ) : Outcome Bytes :=
  if stop < start then
    .panic ("slice index starts at " ++ toString start ++ " but ends at " ++ toString stop)
  else if data.length < stop then
    .panic ("range end index " ++ toString stop ++ " out of range for slice of length " ++
      toString data.length)
  else .ok ((data.take stop).drop start)

/-- `data.get(start..stop)`. -/
def getRange (data : Bytes) (start stop : ℕ) : Option Bytes :=
  if start ≤ stop ∧ stop ≤ data.length then some ((data.take stop).drop start) else none

/-- `data[index]`. -/
def byteAt (data : Bytes) (index : ℕ) : Outcome UInt8 :=
  match data[index]? with
  | some b => .ok b
  | none => .panic ("index out of bounds: the len is " ++ toString data.length ++
      " but the index is " ++ toString index)

/-- `a + b` of lengths, on a machine of 64 bits. -/
def addUsize (overflowChecks : Bool) (a b : ℕ) : Outcome ℕ :=
  if a + b < 2 ^ 64 then .ok (a + b)
  else if overflowChecks then .panic "attempt to add with overflow"
  else .ok (a + b - 2 ^ 64)

/-- `a - b` of lengths. -/
def subUsize (overflowChecks : Bool) (a b : ℕ) : Outcome ℕ :=
  if b ≤ a then .ok (a - b)
  else if overflowChecks then .panic "attempt to subtract with overflow"
  else .ok (a + 2 ^ 64 - b)

variable {data b : Bytes} {start stop index : ℕ}

theorem slice_eq_ok : slice data start stop = .ok b ↔
    start ≤ stop ∧ stop ≤ data.length ∧ b = (data.take stop).drop start := by
  unfold slice
  split
  · next h => simp [show ¬ start ≤ stop by omega]
  · next h =>
    split
    · next hlength => simp [show ¬ stop ≤ data.length by omega]
    · next hlength =>
      simp [show start ≤ stop by omega, show stop ≤ data.length by omega, eq_comm]

theorem returns_slice_iff : (slice data start stop).Returns ↔
    start ≤ stop ∧ stop ≤ data.length := by
  constructor
  · intro h
    refine ⟨?_, ?_⟩
    · by_contra hlt
      exact h _ (if_pos (by omega))
    · by_contra hlt
      by_cases hstart : stop < start
      · exact h _ (if_pos hstart)
      · exact h _ ((if_neg hstart).trans (if_pos (by omega)))
  · rintro ⟨hstart, hstop⟩ m hm
    have hok : slice data start stop = .ok ((data.take stop).drop start) :=
      slice_eq_ok.2 ⟨hstart, hstop, rfl⟩
    rw [hok] at hm
    cases hm

theorem slice_of_le (hstart : start ≤ stop) (hstop : stop ≤ data.length) :
    slice data start stop = .ok ((data.take stop).drop start) :=
  slice_eq_ok.2 ⟨hstart, hstop, rfl⟩

theorem getRange_eq_some : getRange data start stop = some b ↔
    start ≤ stop ∧ stop ≤ data.length ∧ b = (data.take stop).drop start := by
  unfold getRange
  split
  · next h => simp [h, eq_comm]
  · next h =>
    refine iff_of_false (by simp) ?_
    rintro ⟨hstart, hstop, -⟩
    exact h ⟨hstart, hstop⟩

/-- A range is what stands at its start. -/
theorem take_drop_eq_iff {n : ℕ} (h : start ≤ data.length) :
    start + n ≤ data.length ∧ b = (data.take (start + n)).drop start ↔
      b.length = n ∧ data.drop start = b ++ data.drop (start + n) := by
  constructor
  · rintro ⟨hle, rfl⟩
    refine ⟨?_, ?_⟩
    · rw [List.length_drop, List.length_take]
      omega
    · rw [← List.drop_append_of_le_length (by rw [List.length_take]; omega), List.take_append_drop]
  · rintro ⟨rfl, hdrop⟩
    have hlength := congrArg List.length hdrop
    rw [List.length_append, List.length_drop, List.length_drop] at hlength
    refine ⟨by omega, ?_⟩
    rw [List.drop_take, Nat.add_sub_cancel_left, hdrop, List.take_left]

theorem getRange_eq_some_iff {n : ℕ} (h : start ≤ data.length) :
    getRange data start (start + n) = some b ↔
      b.length = n ∧ data.drop start = b ++ data.drop (start + n) := by
  rw [getRange_eq_some, and_iff_right (Nat.le_add_right _ _), take_drop_eq_iff h]

theorem slice_eq_ok_iff {n : ℕ} (h : start ≤ data.length) :
    slice data start (start + n) = .ok b ↔
      b.length = n ∧ data.drop start = b ++ data.drop (start + n) := by
  rw [slice_eq_ok, and_iff_right (Nat.le_add_right _ _), take_drop_eq_iff h]

theorem byteAt_eq_ok {x : UInt8} : byteAt data index = .ok x ↔ data[index]? = some x := by
  unfold byteAt
  split
  · next y hy => simp [hy]
  · next hnone => simp [hnone]

/-- A byte at an index is the first of what stands there. -/
theorem byteAt_eq_ok_iff {x : UInt8} :
    byteAt data index = .ok x ↔ data.drop index = x :: data.drop (index + 1) := by
  rw [byteAt_eq_ok, List.getElem?_eq_some_iff]
  constructor
  · rintro ⟨hlt, rfl⟩
    exact List.drop_eq_getElem_cons hlt
  · intro hdrop
    have hlt : index < data.length := by
      have hlength := congrArg List.length hdrop
      rw [List.length_cons, List.length_drop, List.length_drop] at hlength
      omega
    rw [List.drop_eq_getElem_cons hlt] at hdrop
    exact ⟨hlt, List.head_eq_of_cons_eq hdrop⟩

/-- What stands behind what stands at an index. -/
theorem drop_of_append {c : Bytes} {n : ℕ} (h : data.drop index = b ++ c) (hn : b.length = n) :
    data.drop (index + n) = c := by
  rw [← List.drop_drop, h, List.drop_left' hn]

/-- What stands at an index does not pass the end. -/
theorem length_of_drop {c : Bytes} (h : data.drop index = b ++ c) (hindex : index ≤ data.length) :
    data.length = index + b.length + c.length := by
  have hlength := congrArg List.length h
  rw [List.length_append, List.length_drop] at hlength
  omega

theorem drop_succ_of_drop {x : UInt8} {c : Bytes} (h : data.drop index = x :: c) :
    data.drop (index + 1) = c :=
  drop_of_append (b := [x]) h rfl

theorem byteAt_of_drop {x : UInt8} {c : Bytes} (h : data.drop index = x :: c) :
    byteAt data index = .ok x := by
  rw [byteAt_eq_ok_iff, drop_succ_of_drop h, h]

theorem slice_of_drop {c : Bytes} {n : ℕ} (hindex : index ≤ data.length)
    (h : data.drop index = b ++ c) (hn : b.length = n) : slice data index (index + n) = .ok b := by
  rw [slice_eq_ok_iff hindex, drop_of_append h hn]
  exact ⟨hn, h⟩

theorem getRange_of_drop {c : Bytes} {n : ℕ} (hindex : index ≤ data.length)
    (h : data.drop index = b ++ c) (hn : b.length = n) :
    getRange data index (index + n) = some b := by
  rw [getRange_eq_some_iff hindex, drop_of_append h hn]
  exact ⟨hn, h⟩

/-- A slice of so many bytes writes the integer that stands there. -/
theorem slice_toLe_iff {n v : ℕ} (h : start ≤ data.length) :
    (∃ array, slice data start (start + n) = .ok array ∧ leValue array = v) ↔
      v < 256 ^ n ∧ data.drop start = toLe n v ++ data.drop (start + n) := by
  constructor
  · rintro ⟨array, hslice, rfl⟩
    obtain ⟨rfl, hdrop⟩ := (slice_eq_ok_iff h).1 hslice
    exact ⟨leValue_lt array, by rw [toLe_leValue, ← hdrop]⟩
  · rintro ⟨hlt, hdrop⟩
    exact ⟨toLe n v, (slice_eq_ok_iff h).2 ⟨length_toLe n v, hdrop⟩, leValue_toLe hlt⟩

theorem returns_byteAt_iff : (byteAt data index).Returns ↔ index < data.length := by
  constructor
  · intro h
    by_contra hlt
    have hnone : data[index]? = none := List.getElem?_eq_none (by omega)
    unfold byteAt at h
    rw [hnone] at h
    exact h _ rfl
  · intro h m hm
    rw [byteAt, List.getElem?_eq_getElem h] at hm
    cases hm

theorem byteAt_of_lt (h : index < data.length) : byteAt data index = .ok data[index] :=
  byteAt_eq_ok.2 (List.getElem?_eq_getElem h)

/-! ## Calls that stay inside -/

variable {α : Type} {p : Prop} [Decidable p] {msg : String}

theorem ensure_of (h : p) : Outcome.ensure (decide p) msg = .ok () := by
  rw [decide_eq_true h]
  rfl

theorem ensure_of_not (h : ¬ p) : Outcome.ensure (decide p) msg = .bail msg := by
  rw [decide_eq_false h]
  rfl

theorem length_slice {b : Bytes} (h : slice data start stop = .ok b) :
    b.length = stop - start := by
  obtain ⟨hstart, hstop, rfl⟩ := slice_eq_ok.1 h
  rw [List.length_drop, List.length_take]
  omega

theorem returns_slice_bind {f : Bytes → Outcome α} (hstart : start ≤ stop)
    (hstop : stop ≤ data.length) (hf : ∀ b, b.length = stop - start → (f b).Returns) :
    (slice data start stop >>= f).Returns :=
  (returns_slice_iff.2 ⟨hstart, hstop⟩).bind fun b hb => hf b (length_slice hb)

theorem returns_byteAt_bind {f : UInt8 → Outcome α} (h : index < data.length)
    (hf : ∀ x, (f x).Returns) : (byteAt data index >>= f).Returns :=
  (returns_byteAt_iff.2 h).bind fun x _ => hf x

theorem returns_ensure_bind {f : Unit → Outcome α} (hf : p → (f ()).Returns) :
    (Outcome.ensure (decide p) msg >>= f).Returns := by
  apply (Outcome.returns_ensure _ _).bind
  intro _ h
  exact hf (of_decide_eq_true (Outcome.ensure_eq_ok.1 h))

/-! ## Builds with and without checks -/

theorem returns_addUsize_iff {overflowChecks : Bool} {m n : ℕ} :
    (addUsize overflowChecks m n).Returns ↔ m + n < 2 ^ 64 ∨ overflowChecks = false := by
  unfold addUsize
  by_cases h : m + n < 2 ^ 64
  · rw [if_pos h]
    exact iff_of_true (Outcome.returns_ok _) (.inl h)
  · rw [if_neg h, or_iff_right h]
    cases overflowChecks with
    | true => exact iff_of_false (fun hreturns => hreturns _ rfl) (by simp)
    | false => exact iff_of_true (Outcome.returns_ok _) rfl

theorem addUsize_of_lt {overflowChecks : Bool} {m n : ℕ} (h : m + n < 2 ^ 64) :
    addUsize overflowChecks m n = .ok (m + n) := if_pos h

theorem returns_subUsize_iff {overflowChecks : Bool} {m n : ℕ} :
    (subUsize overflowChecks m n).Returns ↔ n ≤ m ∨ overflowChecks = false := by
  unfold subUsize
  by_cases h : n ≤ m
  · rw [if_pos h]
    exact iff_of_true (Outcome.returns_ok _) (.inl h)
  · rw [if_neg h, or_iff_right h]
    cases overflowChecks with
    | true => exact iff_of_false (fun hreturns => hreturns _ rfl) (by simp)
    | false => exact iff_of_true (Outcome.returns_ok _) rfl

/-- The second does what the first does, where the first returns: what a build without checks does,
and what one with them does. -/
def Outcome.Unchecks (x y : Outcome α) : Prop := x.Returns → y = x

theorem Outcome.Unchecks.refl (x : Outcome α) : x.Unchecks x := fun _ => rfl

theorem Outcome.Unchecks.bind {β : Type} {x y : Outcome α} {f g : α → Outcome β}
    (h : x.Unchecks y) (hf : ∀ a, (f a).Unchecks (g a)) : (x >>= f).Unchecks (y >>= g) := by
  intro hreturns
  obtain ⟨hx, hfx⟩ := Outcome.returns_bind_iff.1 hreturns
  rw [h hx]
  cases hvalue : x with
  | ok a => exact hf a (hfx a hvalue)
  | err e => rfl
  | panic m => rfl

theorem unchecks_addUsize (m n : ℕ) : (addUsize true m n).Unchecks (addUsize false m n) := by
  intro h
  have hlt : m + n < 2 ^ 64 := (returns_addUsize_iff.1 h).resolve_right (by simp)
  rw [addUsize_of_lt hlt, addUsize_of_lt hlt]

theorem unchecks_subUsize (m n : ℕ) : (subUsize true m n).Unchecks (subUsize false m n) := by
  intro h
  unfold subUsize at h ⊢
  by_cases hle : n ≤ m
  · rw [if_pos hle, if_pos hle]
  · rw [if_neg hle] at h
    exact absurd rfl (h _)

end Trustmee
