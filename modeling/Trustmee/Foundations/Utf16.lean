import Trustmee.Foundations.JsonText

/-!
# UTF-16 texts

What the standard library makes of the 16-bit words of a text: a word that is no surrogate is a
character, a high surrogate and a low one after it are one, and a surrogate that stands alone is
none.
-/

namespace Trustmee

/-- `chunks_exact(2)` and `LittleEndian::read_u16`: the words of bytes. -/
def utf16Words : Bytes → List ℕ
  | x :: y :: rest => (x.toNat + 256 * y.toNat) :: utf16Words rest
  | _ => []

/-- A word of a pair. -/
def isSurrogate (u : ℕ) : Bool := 0xD800 ≤ u && u ≤ 0xDFFF

/-- The second word of a pair. -/
def isLowSurrogate (u : ℕ) : Bool := 0xDC00 ≤ u && u ≤ 0xDFFF

/-- The character of a pair. -/
def surrogatePair (u v : ℕ) : Char := Char.ofNat ((u - 0xD800) * 0x400 + (v - 0xDC00) + 0x10000)

/-- `char::decode_utf16`: the characters of words, with nothing for a surrogate that stands
alone. -/
def decodeUtf16 : List ℕ → List (Option Char)
  | [] => []
  | [u] => [if isSurrogate u then none else some (Char.ofNat u)]
  | u :: v :: rest =>
    if !isSurrogate u then some (Char.ofNat u) :: decodeUtf16 (v :: rest)
    else if !isLowSurrogate u && isLowSurrogate v then
      some (surrogatePair u v) :: decodeUtf16 rest
    else none :: decodeUtf16 (v :: rest)

/-- `String::from_utf16`. -/
def fromUtf16 (words : List ℕ) : Option String :=
  ((decodeUtf16 words).mapM id).map String.ofList

/-- `String::from_utf16_lossy`. -/
def fromUtf16Lossy (words : List ℕ) : String :=
  String.ofList ((decodeUtf16 words).map fun c => c.getD replacement)

/-- A pair, and a surrogate that stands alone. -/
example : fromUtf16Lossy [0x68, 0xD83D, 0xDE00, 0xDC00] = "h😀\uFFFD" := by decide

end Trustmee
