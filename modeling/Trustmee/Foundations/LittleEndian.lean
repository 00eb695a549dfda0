import Trustmee.Foundations.Bytes
import Mathlib.Algebra.Order.Ring.Int
import Mathlib.Tactic.Ring

/-!
# Little-endian integers in a byte string

The reads of the `scroll` crate: an unsigned integer of so many bytes at an offset, least
significant byte first. A read that would pass the end gives nothing. What is read at an offset is
the integer whose bytes stand there (`readLe_eq_some_iff`).
-/

namespace Trustmee

/-- The integer that the bytes write, least significant first. -/
def leValue (b : Bytes) : ℕ := b.foldr (fun x n => x.toNat + 256 * n) 0

/-- The integer of `n` bytes at an offset. -/
def readLe (data : Bytes) (index n : ℕ) : Option ℕ :=
  let b := (data.drop index).take n
  if b.length = n then some (leValue b) else none

/-- The `n` bytes of an integer, least significant first. -/
def toLe : ℕ → ℕ → Bytes
  | 0, _ => []
  | n + 1, v => UInt8.ofNat (v % 256) :: toLe n (v / 256)

@[simp] theorem length_toLe (n v : ℕ) : (toLe n v).length = n := by
  induction n generalizing v with
  | zero => rfl
  | succ n ih => rw [toLe, List.length_cons, ih]

theorem leValue_cons (x : UInt8) (b : Bytes) : leValue (x :: b) = x.toNat + 256 * leValue b := rfl

theorem leValue_toLe {n v : ℕ} (h : v < 256 ^ n) : leValue (toLe n v) = v := by
  induction n generalizing v with
  | zero =>
    have hzero : v = 0 := by simpa using h
    rw [hzero]
    rfl
  | succ n ih =>
    have hdiv : v / 256 < 256 ^ n := by
      rw [Nat.div_lt_iff_lt_mul (by decide), ← pow_succ]
      exact h
    have hbyte : (UInt8.ofNat (v % 256)).toNat = v % 256 :=
      UInt8.toNat_ofNat_of_lt' (Nat.mod_lt _ (by decide))
    rw [toLe, leValue_cons, ih hdiv, hbyte]
    omega

theorem leValue_lt (b : Bytes) : leValue b < 256 ^ b.length := by
  induction b with
  | nil => decide
  | cons x b ih =>
    have hx : x.toNat < 256 := x.toNat_lt
    rw [leValue_cons, List.length_cons, pow_succ]
    omega

theorem toLe_leValue (b : Bytes) : toLe b.length (leValue b) = b := by
  induction b with
  | nil => rfl
  | cons x b ih =>
    have hx : x.toNat < 256 := x.toNat_lt
    have hmod : (x.toNat + 256 * leValue b) % 256 = x.toNat := by omega
    have hdiv : (x.toNat + 256 * leValue b) / 256 = leValue b := by omega
    rw [List.length_cons, leValue_cons, toLe, hmod, hdiv, ih, UInt8.ofNat_toNat]

theorem leValue_append (b c : Bytes) :
    leValue (b ++ c) = leValue b + 256 ^ b.length * leValue c := by
  induction b with
  | nil => simp [leValue]
  | cons x b ih =>
    rw [List.cons_append, leValue_cons, leValue_cons, ih, List.length_cons, pow_succ]
    ring

/-- A read finds the integer of the bytes that stand at the offset. -/
theorem readLe_of_drop {data b rest : Bytes} {index n : ℕ} (h : data.drop index = b ++ rest)
    (hn : b.length = n) : readLe data index n = some (leValue b) := by
  unfold readLe
  dsimp only
  rw [h, List.take_left' hn, if_pos hn]

/-- **A read finds the integer whose bytes stand at the offset.** -/
theorem readLe_eq_some_iff {data : Bytes} {index n v : ℕ} : readLe data index n = some v ↔
    v < 256 ^ n ∧ data.drop index = toLe n v ++ data.drop (index + n) := by
  unfold readLe
  dsimp only
  constructor
  · intro h
    split at h
    · next hlength =>
      have hv := Option.some.inj h
      have hlt := leValue_lt ((data.drop index).take n)
      have hbytes := toLe_leValue ((data.drop index).take n)
      rw [hlength, hv] at hlt hbytes
      refine ⟨hlt, ?_⟩
      rw [hbytes, ← List.drop_drop, List.take_append_drop]
    · cases h
  · rintro ⟨hlt, hdrop⟩
    have htake : (data.drop index).take n = toLe n v := by
      rw [hdrop, List.take_left' (length_toLe n v)]
    rw [htake, if_pos (length_toLe n v), leValue_toLe hlt]

/-- A read passes no end. -/
theorem length_of_readLe {data : Bytes} {index n v : ℕ} (hn : 0 < n)
    (h : readLe data index n = some v) : index + n ≤ data.length := by
  have hdrop := congrArg List.length (readLe_eq_some_iff.1 h).2
  rw [List.length_append, List.length_drop, List.length_drop, length_toLe] at hdrop
  omega

end Trustmee
