import Trustmee.Foundations.Bytes
import Mathlib.Data.Nat.Digits.Lemmas
import Mathlib.Tactic.SplitIfs

/-!
# Sequences in DER

The encoding of a SEQUENCE: its tag, the length of its content and the content. A length below 128
is one byte, and any other is its bytes, the most significant first, behind one that counts them.
-/

namespace Trustmee.Der

/-- The bytes of a number, the most significant first. -/
def lengthBytes (n : ℕ) : Bytes := ((Nat.digits 256 n).map UInt8.ofNat).reverse

/-- The length octets. -/
def lengthOctets (n : ℕ) : Bytes :=
  if n < 128 then [UInt8.ofNat n]
  else UInt8.ofNat (128 + (lengthBytes n).length) :: lengthBytes n

/-- The encoding of a SEQUENCE. -/
def sequence (content : Bytes) : Bytes := 0x30 :: (lengthOctets content.length ++ content)

variable {n : ℕ}

theorem length_lengthBytes (n : ℕ) : (lengthBytes n).length = (Nat.digits 256 n).length := by
  rw [lengthBytes, List.length_reverse, List.length_map]

theorem lengthOctets_short (h : n < 128) : lengthOctets n = [UInt8.ofNat n] := if_pos h

theorem lengthOctets_one (h : 128 ≤ n) (h' : n < 256) :
    lengthOctets n = [0x81, UInt8.ofNat n] := by
  have hdigits : Nat.digits 256 n = [n] := Nat.digits_of_lt 256 n (by omega) h'
  rw [lengthOctets, if_neg (by omega), lengthBytes, hdigits]
  rfl

theorem lengthOctets_two (h : 256 ≤ n) (h' : n < 65536) :
    lengthOctets n = [0x82, UInt8.ofNat (n / 256), UInt8.ofNat (n % 256)] := by
  have hdigits : Nat.digits 256 n = [n % 256, n / 256] := by
    rw [Nat.digits_def' (by decide) (by omega),
      Nat.digits_of_lt 256 (n / 256) (by omega) (by omega)]
  rw [lengthOctets, if_neg (by omega), lengthBytes, hdigits]
  rfl

theorem lengthOctets_long (h : 128 ≤ n) :
    lengthOctets n = UInt8.ofNat (128 + (lengthBytes n).length) :: lengthBytes n :=
  if_neg (by omega)

/-- The number of bytes of a length is bounded as the length is. -/
theorem length_lengthBytes_le_iff {k : ℕ} : (lengthBytes n).length ≤ k ↔ n < 256 ^ k := by
  rw [length_lengthBytes]
  exact Nat.digits_length_le_iff (by decide) n

end Trustmee.Der
