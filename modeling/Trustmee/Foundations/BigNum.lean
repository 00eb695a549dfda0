import Trustmee.Foundations.LittleEndian

/-!
# Numbers in network order

`BigNum::to_vec` of the `openssl` crate writes a number in as few bytes as it needs, most
significant first. The form of so many bytes has zeros in front. The two are the same exactly where
the number needs all of the bytes.
-/

namespace Trustmee

/-- The `n` bytes of a number, most significant first. -/
def toBe (n v : ℕ) : Bytes := (toLe n v).reverse

/-- `BN_num_bytes`. -/
def numBytes (v : ℕ) : ℕ := if v = 0 then 0 else (Nat.log2 v + 8) / 8

/-- `BigNum::to_vec`. -/
def bigNumToVec (v : ℕ) : Bytes := toBe (numBytes v) v

@[simp] theorem length_toBe (n v : ℕ) : (toBe n v).length = n := by
  rw [toBe, List.length_reverse, length_toLe]

@[simp] theorem length_bigNumToVec (v : ℕ) : (bigNumToVec v).length = numBytes v := length_toBe _ _

/-- A number needs so many bytes where it has no more bits, and more than one byte less has. -/
theorem numBytes_eq_iff {n v : ℕ} (hn : 0 < n) :
    numBytes v = n ↔ 2 ^ (8 * (n - 1)) ≤ v ∧ v < 2 ^ (8 * n) := by
  unfold numBytes
  by_cases hzero : v = 0
  · rw [if_pos hzero, hzero]
    refine iff_of_false (by omega) ?_
    rintro ⟨hle, -⟩
    have hpos : 0 < 2 ^ (8 * (n - 1)) := Nat.two_pow_pos _
    omega
  · rw [if_neg hzero, ← Nat.log2_lt hzero, ← Nat.le_log2 hzero]
    omega

end Trustmee
