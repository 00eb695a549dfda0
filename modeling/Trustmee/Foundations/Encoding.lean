import Trustmee.Foundations.Bytes
import Trustmee.Foundations.Outcome
import Mathlib.Tactic.SplitIfs

/-!
# Texts of bytes

`hex::encode`, and the standard alphabet of the `base64` crate with its padding: a text is read in
groups of four symbols, only the last group may be padded, and the bits that padding leaves over
have to be zero.
-/

namespace Trustmee

/-! ## Hexadecimal -/

def hexDigit (n : ℕ) : Char := if n < 10 then Char.ofNat (48 + n) else Char.ofNat (87 + n)

/-- `hex::encode`. -/
def hexEncode (b : Bytes) : String :=
  String.ofList (b.flatMap fun x => [hexDigit (x.toNat / 16), hexDigit (x.toNat % 16)])

def hexValue (c : Char) : Option ℕ :=
  if '0' ≤ c ∧ c ≤ '9' then some (c.toNat - 48)
  else if 'a' ≤ c ∧ c ≤ 'f' then some (c.toNat - 87)
  else if 'A' ≤ c ∧ c ≤ 'F' then some (c.toNat - 55)
  else none

def hexDecodeChars : List Char → Option Bytes
  | [] => some []
  | [_] => none
  | a :: b :: rest => do
    let x ← hexValue a
    let y ← hexValue b
    let bytes ← hexDecodeChars rest
    some (UInt8.ofNat (x * 16 + y) :: bytes)

/-- `hex::decode`. -/
def hexDecode (s : String) : Option Bytes := hexDecodeChars s.toList

theorem hexValue_hexDigit {n : ℕ} (h : n < 16) : hexValue (hexDigit n) = some n := by
  have hall : ∀ n < 16, hexValue (hexDigit n) = some n := by decide
  exact hall n h

theorem hexDecodeChars_flatMap (b : Bytes) :
    hexDecodeChars (b.flatMap fun x => [hexDigit (x.toNat / 16), hexDigit (x.toNat % 16)]) =
      some b := by
  induction b with
  | nil => rfl
  | cons x b ih =>
    have hx := x.toNat_lt
    have hhigh := hexValue_hexDigit (show x.toNat / 16 < 16 by omega)
    have hlow := hexValue_hexDigit (show x.toNat % 16 < 16 by omega)
    have hbyte : x.toNat / 16 * 16 + x.toNat % 16 = x.toNat := by omega
    simp only [List.flatMap_cons, List.cons_append, List.nil_append, hexDecodeChars, hhigh, hlow,
      ih, Option.bind_eq_bind, Option.bind_some, hbyte, UInt8.ofNat_toNat]

/-- **What `hex::encode` writes, `hex::decode` reads.** -/
@[simp] theorem hexDecode_hexEncode (b : Bytes) : hexDecode (hexEncode b) = some b := by
  rw [hexDecode, hexEncode, String.toList_ofList, hexDecodeChars_flatMap]

/-- Byte strings are told apart by their texts. -/
theorem hexEncode_injective {b b' : Bytes} (h : hexEncode b = hexEncode b') : b = b' := by
  have hdecode := hexDecode_hexEncode b
  rw [h, hexDecode_hexEncode] at hdecode
  exact (Option.some.inj hdecode).symm

/-- A hexadecimal text is made of digits. -/
theorem isSome_hexValue_of_mem {b : Bytes} {c : Char} (h : c ∈ (hexEncode b).toList) :
    (hexValue c).isSome = true := by
  rw [hexEncode, String.toList_ofList, List.mem_flatMap] at h
  obtain ⟨x, -, hc⟩ := h
  have hx := x.toNat_lt
  rcases List.mem_pair.1 hc with rfl | rfl
  · rw [hexValue_hexDigit (by omega)]
    rfl
  · rw [hexValue_hexDigit (by omega)]
    rfl

/-- A pair of digits for each byte. -/
theorem length_of_hexDecodeChars {l : List Char} {b : Bytes} (h : hexDecodeChars l = some b) :
    l.length = 2 * b.length := by
  induction l using hexDecodeChars.induct generalizing b with
  | case1 =>
    cases h
    rfl
  | case2 => cases h
  | case3 c d rest ih =>
    simp only [hexDecodeChars, Option.bind_eq_bind, Option.bind_eq_some_iff] at h
    obtain ⟨x, -, y, -, bytes, hbytes, heq⟩ := h
    cases heq
    rw [List.length_cons, List.length_cons, ih hbytes, List.length_cons]
    omega

/-- Digits in pairs are decoded. -/
theorem isSome_hexDecodeChars {l : List Char} (hlength : l.length % 2 = 0)
    (hdigits : ∀ c ∈ l, (hexValue c).isSome) : (hexDecodeChars l).isSome := by
  induction l using hexDecodeChars.induct with
  | case1 => rfl
  | case2 => cases hlength
  | case3 c d rest ih =>
    simp only [List.length_cons, List.forall_mem_cons] at hlength hdigits
    obtain ⟨hc, hd, hrest⟩ := hdigits
    obtain ⟨x, hx⟩ := Option.isSome_iff_exists.1 hc
    obtain ⟨y, hy⟩ := Option.isSome_iff_exists.1 hd
    obtain ⟨bytes, hbytes⟩ := Option.isSome_iff_exists.1 (ih (by omega) hrest)
    simp only [hexDecodeChars, hx, hy, hbytes, Option.bind_eq_bind, Option.bind_some,
      Option.isSome_some]

/-! ## Base64 -/

namespace Base64

/-- The symbol of six bits. -/
def symbol (n : ℕ) : Char :=
  if n < 26 then Char.ofNat (65 + n)
  else if n < 52 then Char.ofNat (71 + n)
  else if n < 62 then Char.ofNat (n - 4)
  else if n = 62 then '+'
  else '/'

/-- The six bits of a symbol. -/
def sextet (c : Char) : Option ℕ :=
  if 'A' ≤ c ∧ c ≤ 'Z' then some (c.toNat - 65)
  else if 'a' ≤ c ∧ c ≤ 'z' then some (c.toNat - 71)
  else if '0' ≤ c ∧ c ≤ '9' then some (c.toNat + 4)
  else if c = '+' then some 62
  else if c = '/' then some 63
  else none

def encodeChars : Bytes → List Char
  | [] => []
  | [a] => [symbol (a.toNat / 4), symbol (a.toNat % 4 * 16), '=', '=']
  | [a, b] =>
    [symbol (a.toNat / 4), symbol (a.toNat % 4 * 16 + b.toNat / 16), symbol (b.toNat % 16 * 4), '=']
  | a :: b :: c :: rest =>
    symbol (a.toNat / 4) :: symbol (a.toNat % 4 * 16 + b.toNat / 16) ::
      symbol (b.toNat % 16 * 4 + c.toNat / 64) :: symbol (c.toNat % 64) :: encodeChars rest

/-- The bytes of a last group with two symbols. -/
def decodeOne (x y : ℕ) : Option Bytes :=
  if y % 16 = 0 then some [UInt8.ofNat (x * 4 + y / 16)] else none

/-- The bytes of a last group with three symbols. -/
def decodeTwo (x y z : ℕ) : Option Bytes :=
  if z % 4 = 0 then some [UInt8.ofNat (x * 4 + y / 16), UInt8.ofNat (y % 16 * 16 + z / 4)] else none

/-- The bytes of a full group. -/
def decodeThree (x y z w : ℕ) : Bytes :=
  [UInt8.ofNat (x * 4 + y / 16), UInt8.ofNat (y % 16 * 16 + z / 4), UInt8.ofNat (z % 4 * 64 + w)]

def decodeChars : List Char → Option Bytes
  | [] => some []
  | a :: b :: c :: d :: rest => do
    let x ← sextet a
    let y ← sextet b
    if d = '=' then
      -- padding ends the text
      if rest ≠ [] then none
      else if c = '=' then decodeOne x y
      else do
        let z ← sextet c
        decodeTwo x y z
    else do
      let z ← sextet c
      let w ← sextet d
      let bytes ← decodeChars rest
      some (decodeThree x y z w ++ bytes)
  | _ => none

/-- `STANDARD.encode`. -/
def encode (b : Bytes) : String := String.ofList (encodeChars b)

/-- `STANDARD.decode`. -/
def decode (s : String) : Option Bytes := decodeChars s.toList

/-- `URL_SAFE.decode`, where the last two symbols are others. -/
def decodeUrlSafe (s : String) : Option Bytes :=
  if '+' ∈ s.toList ∨ '/' ∈ s.toList then none
  else decodeChars (s.toList.map fun c => if c = '-' then '+' else if c = '_' then '/' else c)

/-- `STANDARD_NO_PAD.decode`, of a text without its padding. -/
def decodeNoPad (s : String) : Option Bytes :=
  if '=' ∈ s.toList then none
  else decodeChars (s.toList ++ List.replicate ((4 - s.length % 4) % 4) '=')

theorem sextet_symbol {n : ℕ} (h : n < 64) : sextet (symbol n) = some n := by
  revert n
  decide

theorem symbol_ne_pad {n : ℕ} (h : n < 64) : symbol n ≠ '=' := by
  revert n
  decide

theorem decodeThree_symbols (a b c : UInt8) :
    decodeThree (a.toNat / 4) (a.toNat % 4 * 16 + b.toNat / 16) (b.toNat % 16 * 4 + c.toNat / 64)
      (c.toNat % 64) = [a, b, c] := by
  have ha := a.toNat_lt
  have hb := b.toNat_lt
  have hc := c.toNat_lt
  have h₁ : a.toNat / 4 * 4 + (a.toNat % 4 * 16 + b.toNat / 16) / 16 = a.toNat := by omega
  have h₂ : (a.toNat % 4 * 16 + b.toNat / 16) % 16 * 16 + (b.toNat % 16 * 4 + c.toNat / 64) / 4 =
      b.toNat := by omega
  have h₃ : (b.toNat % 16 * 4 + c.toNat / 64) % 4 * 64 + c.toNat % 64 = c.toNat := by omega
  rw [decodeThree, h₁, h₂, h₃, UInt8.ofNat_toNat, UInt8.ofNat_toNat, UInt8.ofNat_toNat]

theorem decodeTwo_symbols (a b : UInt8) :
    decodeTwo (a.toNat / 4) (a.toNat % 4 * 16 + b.toNat / 16) (b.toNat % 16 * 4) = some [a, b] := by
  have ha := a.toNat_lt
  have hb := b.toNat_lt
  have h₁ : a.toNat / 4 * 4 + (a.toNat % 4 * 16 + b.toNat / 16) / 16 = a.toNat := by omega
  have h₂ : (a.toNat % 4 * 16 + b.toNat / 16) % 16 * 16 + b.toNat % 16 * 4 / 4 = b.toNat := by omega
  rw [decodeTwo, if_pos (by omega), h₁, h₂, UInt8.ofNat_toNat, UInt8.ofNat_toNat]

theorem decodeOne_symbols (a : UInt8) :
    decodeOne (a.toNat / 4) (a.toNat % 4 * 16) = some [a] := by
  have ha := a.toNat_lt
  have h₁ : a.toNat / 4 * 4 + a.toNat % 4 * 16 / 16 = a.toNat := by omega
  rw [decodeOne, if_pos (by omega), h₁, UInt8.ofNat_toNat]

theorem decodeChars_encodeChars (b : Bytes) : decodeChars (encodeChars b) = some b := by
  induction b using encodeChars.induct with
  | case1 => rfl
  | case2 a =>
    have ha := a.toNat_lt
    have h₁ := sextet_symbol (show a.toNat / 4 < 64 by omega)
    have h₂ := sextet_symbol (show a.toNat % 4 * 16 < 64 by omega)
    simp [encodeChars, decodeChars, h₁, h₂, decodeOne_symbols]
  | case3 a b =>
    have ha := a.toNat_lt
    have hb := b.toNat_lt
    have h₁ := sextet_symbol (show a.toNat / 4 < 64 by omega)
    have h₂ := sextet_symbol (show a.toNat % 4 * 16 + b.toNat / 16 < 64 by omega)
    have h₃ : b.toNat % 16 * 4 < 64 := by omega
    simp [encodeChars, decodeChars, h₁, h₂, sextet_symbol h₃, symbol_ne_pad h₃, decodeTwo_symbols]
  | case4 a b c rest ih =>
    have ha := a.toNat_lt
    have hb := b.toNat_lt
    have hc := c.toNat_lt
    have h₁ := sextet_symbol (show a.toNat / 4 < 64 by omega)
    have h₂ := sextet_symbol (show a.toNat % 4 * 16 + b.toNat / 16 < 64 by omega)
    have h₃ := sextet_symbol (show b.toNat % 16 * 4 + c.toNat / 64 < 64 by omega)
    have h₄ : c.toNat % 64 < 64 := by omega
    simp [encodeChars, decodeChars, h₁, h₂, h₃, sextet_symbol h₄, symbol_ne_pad h₄,
      decodeThree_symbols, ih]

/-- **What `encode` writes, `decode` reads.** -/
@[simp] theorem decode_encode (b : Bytes) : decode (encode b) = some b := by
  rw [decode, encode, String.toList_ofList, decodeChars_encodeChars]

/-- Only the empty text stands for no bytes. -/
theorem decodeChars_eq_nil {l : List Char} (h : decodeChars l = some []) : l = [] := by
  match l with
  | [] => rfl
  | [_] | [_, _] | [_, _, _] => simp [decodeChars] at h
  | a :: b :: c :: d :: rest =>
    simp only [decodeChars, Option.bind_eq_bind, Option.bind_eq_some_iff] at h
    obtain ⟨x, -, y, -, h⟩ := h
    split_ifs at h <;>
      simp [decodeOne, decodeTwo, decodeThree, Option.bind_eq_some_iff] at h

theorem decode_eq_nil {s : String} (h : decode s = some []) : s = "" :=
  String.toList_eq_nil_iff.1 (decodeChars_eq_nil h)

/-! ### The URL-safe alphabet -/

/-- The symbol of the URL-safe alphabet. -/
def toUrlSafe (c : Char) : Char := if c = '+' then '-' else if c = '/' then '_' else c

/-- The symbol of the standard alphabet. -/
def ofUrlSafe (c : Char) : Char := if c = '-' then '+' else if c = '_' then '/' else c

/-- `URL_SAFE.encode`. -/
def encodeUrlSafe (b : Bytes) : String := String.ofList ((encodeChars b).map toUrlSafe)

/-- `URL_SAFE_NO_PAD.encode`. -/
def encodeUrlSafeNoPad (b : Bytes) : String :=
  String.ofList (((encodeChars b).filter (· ≠ '=')).map toUrlSafe)

/-- `URL_SAFE_NO_PAD.decode`, of a text of the URL-safe alphabet without its padding. -/
def decodeUrlSafeNoPad (s : String) : Option Bytes :=
  if '=' ∈ s.toList ∨ '+' ∈ s.toList ∨ '/' ∈ s.toList then none
  else decodeChars (s.toList.map ofUrlSafe ++ List.replicate ((4 - s.toList.length % 4) % 4) '=')

/-- A symbol is of the standard alphabet alone. -/
def IsSymbol (c : Char) : Prop := c ≠ '=' ∧ c ≠ '-' ∧ c ≠ '_'

theorem isSymbol_symbol {n : ℕ} (h : n < 64) : IsSymbol (symbol n) := by
  unfold IsSymbol
  revert n
  decide

theorem ofUrlSafe_toUrlSafe {c : Char} (h : IsSymbol c) : ofUrlSafe (toUrlSafe c) = c := by
  obtain ⟨-, hminus, hscore⟩ := h
  unfold ofUrlSafe toUrlSafe
  split_ifs <;> simp_all

theorem toUrlSafe_ne {c : Char} (h : IsSymbol c) :
    toUrlSafe c ≠ '=' ∧ toUrlSafe c ≠ '+' ∧ toUrlSafe c ≠ '/' := by
  obtain ⟨hpad, -, -⟩ := h
  unfold toUrlSafe
  split_ifs <;> simp_all

/-- An encoded text is symbols and the padding that their number asks for. -/
theorem exists_encodeChars (b : Bytes) : ∃ l, (∀ c ∈ l, IsSymbol c) ∧
    encodeChars b = l ++ List.replicate ((4 - l.length % 4) % 4) '=' := by
  induction b using encodeChars.induct with
  | case1 => exact ⟨[], by simp, rfl⟩
  | case2 a =>
    have ha := a.toNat_lt
    refine ⟨[symbol (a.toNat / 4), symbol (a.toNat % 4 * 16)], ?_, rfl⟩
    intro c hc
    rcases List.mem_pair.1 hc with rfl | rfl <;> exact isSymbol_symbol (by omega)
  | case3 a b =>
    have ha := a.toNat_lt
    have hb := b.toNat_lt
    refine ⟨[symbol (a.toNat / 4), symbol (a.toNat % 4 * 16 + b.toNat / 16),
      symbol (b.toNat % 16 * 4)], ?_, rfl⟩
    intro c hc
    simp only [List.mem_cons, List.not_mem_nil, or_false] at hc
    rcases hc with rfl | rfl | rfl <;> exact isSymbol_symbol (by omega)
  | case4 a b c rest ih =>
    have ha := a.toNat_lt
    have hb := b.toNat_lt
    have hc := c.toNat_lt
    obtain ⟨l, hl, heq⟩ := ih
    refine ⟨symbol (a.toNat / 4) :: symbol (a.toNat % 4 * 16 + b.toNat / 16) ::
      symbol (b.toNat % 16 * 4 + c.toNat / 64) :: symbol (c.toNat % 64) :: l, ?_, ?_⟩
    · intro d hd
      simp only [List.mem_cons] at hd
      rcases hd with rfl | rfl | rfl | rfl | hd
      · exact isSymbol_symbol (by omega)
      · exact isSymbol_symbol (by omega)
      · exact isSymbol_symbol (by omega)
      · exact isSymbol_symbol (by omega)
      · exact hl d hd
    · have hlength : (l.length + 1 + 1 + 1 + 1) % 4 = l.length % 4 := by omega
      rw [encodeChars, heq]
      simp only [List.length_cons, List.cons_append, hlength]

/-- **What `encode` writes, `decode` reads**, without the padding, too. -/
@[simp] theorem decodeUrlSafeNoPad_encodeUrlSafeNoPad (b : Bytes) :
    decodeUrlSafeNoPad (encodeUrlSafeNoPad b) = some b := by
  obtain ⟨l, hl, heq⟩ := exists_encodeChars b
  have hfilter : (encodeChars b).filter (· ≠ '=') = l := by
    rw [heq, List.filter_append, List.filter_replicate_of_neg (by simp), List.append_nil,
      List.filter_eq_self]
    exact fun c hc => by simpa using (hl c hc).1
  have hback : (l.map toUrlSafe).map ofUrlSafe = l := by
    rw [List.map_map]
    exact (List.map_congr_left fun c hc => ofUrlSafe_toUrlSafe (hl c hc)).trans (List.map_id l)
  have hsymbols : ∀ c ∈ l.map toUrlSafe, c ≠ '=' ∧ c ≠ '+' ∧ c ≠ '/' := by
    intro c hc
    obtain ⟨d, hd, rfl⟩ := List.mem_map.1 hc
    exact toUrlSafe_ne (hl d hd)
  rw [decodeUrlSafeNoPad, encodeUrlSafeNoPad, hfilter, String.toList_ofList, if_neg, hback,
    List.length_map, ← heq, decodeChars_encodeChars]
  rintro (h | h | h)
  · exact (hsymbols _ h).1 rfl
  · exact (hsymbols _ h).2.1 rfl
  · exact (hsymbols _ h).2.2 rfl

/-- A text that is decoded has symbols and padding alone. -/
theorem sextet_of_decodeChars {l : List Char} {b : Bytes} (h : decodeChars l = some b) {c : Char}
    (hc : c ∈ l) : (sextet c).isSome ∨ c = '=' := by
  induction l using decodeChars.induct generalizing b with
  | case1 => cases hc
  | case2 x y z w rest ih =>
    simp only [decodeChars, Option.bind_eq_bind, Option.bind_eq_some_iff] at h
    obtain ⟨sx, hx, sy, hy, h⟩ := h
    have hx : (sextet x).isSome ∨ x = '=' := .inl (by rw [hx]; rfl)
    have hy : (sextet y).isSome ∨ y = '=' := .inl (by rw [hy]; rfl)
    have hzw : ((sextet z).isSome ∨ z = '=') ∧ ((sextet w).isSome ∨ w = '=') ∧
        ∃ b, decodeChars rest = some b := by
      split_ifs at h with hw hrest hz
      · obtain rfl : rest = [] := not_not.1 hrest
        exact ⟨.inr hz, .inr hw, [], rfl⟩
      · obtain rfl : rest = [] := not_not.1 hrest
        obtain ⟨sz, hz, -⟩ := Option.bind_eq_some_iff.1 h
        exact ⟨.inl (by rw [hz]; rfl), .inr hw, [], rfl⟩
      · simp only [Option.bind_eq_some_iff] at h
        obtain ⟨sz, hz, sw, hsw, bytes, hbytes, -⟩ := h
        exact ⟨.inl (by rw [hz]; rfl), .inl (by rw [hsw]; rfl), bytes, hbytes⟩
    obtain ⟨hz, hw, bytes, hbytes⟩ := hzw
    simp only [List.mem_cons] at hc
    rcases hc with rfl | rfl | rfl | rfl | hc
    · exact hx
    · exact hy
    · exact hz
    · exact hw
    · exact ih hbytes hc
  | case3 l hnil hcons =>
    rw [decodeChars.eq_3 l hnil hcons] at h
    cases h

theorem sextet_lt {c : Char} {n : ℕ} (h : sextet c = some n) : n < 64 := by
  unfold sextet at h
  simp only [Char.le_def, UInt32.le_iff_toNat_le] at h
  split_ifs at h <;> simp only [Option.some.injEq, Char.toNat] at h <;> simp at * <;> omega

/-- The symbols that are hexadecimal digits stand for small numbers, or for large ones. -/
theorem sextet_of_hexValue {c : Char} {m n : ℕ} (hhex : hexValue c = some n)
    (h : sextet c = some m) : m < 6 ∨ 26 ≤ m := by
  unfold hexValue at hhex
  unfold sextet at h
  simp only [Char.le_def, UInt32.le_iff_toNat_le] at h hhex
  split_ifs at hhex <;> split_ifs at h <;>
    simp only [Option.some.injEq, Char.toNat] at h <;> simp at * <;> omega

/-- The first byte is made of the first two symbols. -/
theorem exists_of_decodeChars_eq_cons {l : List Char} {x : UInt8} {b : Bytes}
    (h : decodeChars l = some (x :: b)) : ∃ c d rest m n, l = c :: d :: rest ∧
      sextet c = some m ∧ sextet d = some n ∧ x = UInt8.ofNat (m * 4 + n / 16) := by
  match l with
  | [] | [_] | [_, _] | [_, _, _] => simp [decodeChars] at h
  | c :: d :: e :: f :: rest =>
    simp only [decodeChars, Option.bind_eq_bind, Option.bind_eq_some_iff] at h
    obtain ⟨m, hm, n, hn, h⟩ := h
    refine ⟨c, d, e :: f :: rest, m, n, rfl, hm, hn, ?_⟩
    split_ifs at h with hf hrest he
    · unfold decodeOne at h
      split_ifs at h
      cases h
      rfl
    · obtain ⟨z, -, h⟩ := Option.bind_eq_some_iff.1 h
      unfold decodeTwo at h
      split_ifs at h
      cases h
      rfl
    · simp only [Option.bind_eq_some_iff] at h
      obtain ⟨z, -, w, -, bytes, -, h⟩ := h
      cases h
      rfl

/-- **The two decoders without padding part ways at the last two symbols**: what the one of the
URL-safe alphabet decodes, the one of the standard alphabet decodes to the same bytes where neither
of these is there, and else refuses. -/
theorem decodeNoPad_of_urlSafe {s : String} {b : Bytes} (h : decodeUrlSafeNoPad s = some b) :
    decodeNoPad s = if '-' ∈ s.toList ∨ '_' ∈ s.toList then none else some b := by
  unfold decodeUrlSafeNoPad at h
  split_ifs at h with hother
  rw [not_or, not_or] at hother
  rw [decodeNoPad, if_neg hother.1]
  split_ifs with hurl
  · by_contra hsome
    obtain ⟨b', hb'⟩ := Option.ne_none_iff_exists'.1 hsome
    have hsymbol (c : Char) (hc : c ∈ s.toList) : (sextet c).isSome ∨ c = '=' :=
      sextet_of_decodeChars hb' (List.mem_append_left _ hc)
    rcases hurl with hc | hc
    · exact absurd (hsymbol _ hc) (by decide)
    · exact absurd (hsymbol _ hc) (by decide)
  · rw [not_or] at hurl
    have hsame : s.toList.map ofUrlSafe = s.toList := by
      refine (List.map_congr_left fun c hc => ?_).trans (List.map_id _)
      have hminus : c ≠ '-' := fun heq => hurl.1 (heq ▸ hc)
      have hscore : c ≠ '_' := fun heq => hurl.2 (heq ▸ hc)
      rw [ofUrlSafe, if_neg hminus, if_neg hscore]
      rfl
    rw [hsame] at h
    exact h

/-- A symbol or the padding. -/
theorem isSymbol_or_pad {b : Bytes} {c : Char} (h : c ∈ encodeChars b) : IsSymbol c ∨ c = '=' := by
  obtain ⟨l, hl, heq⟩ := exists_encodeChars b
  rw [heq] at h
  rcases List.mem_append.1 h with h | h
  · exact .inl (hl c h)
  · exact .inr (List.eq_of_mem_replicate h)

/-- **What `encode` writes, `decode` reads**, in the URL-safe alphabet. -/
@[simp] theorem decodeUrlSafe_encodeUrlSafe (b : Bytes) :
    decodeUrlSafe (encodeUrlSafe b) = some b := by
  have hne : ∀ c ∈ encodeChars b, toUrlSafe c ≠ '+' ∧ toUrlSafe c ≠ '/' := by
    intro c hc
    rcases isSymbol_or_pad hc with hsymbol | rfl
    · exact (toUrlSafe_ne hsymbol).2
    · decide
  have hback : ((encodeChars b).map toUrlSafe).map ofUrlSafe = encodeChars b := by
    rw [List.map_map]
    refine (List.map_congr_left fun c hc => ?_).trans (List.map_id _)
    rcases isSymbol_or_pad hc with hsymbol | rfl
    · exact ofUrlSafe_toUrlSafe hsymbol
    · decide
  rw [decodeUrlSafe, encodeUrlSafe, String.toList_ofList, if_neg]
  · exact (congrArg decodeChars hback).trans (decodeChars_encodeChars b)
  · rintro (h | h)
    · obtain ⟨c, hc, heq⟩ := List.mem_map.1 h
      exact (hne c hc).1 heq
    · obtain ⟨c, hc, heq⟩ := List.mem_map.1 h
      exact (hne c hc).2 heq

end Base64

/-! ## Decoding in a call -/

/-- `STANDARD.decode(…)?`. -/
def decodeBase64 (s : String) : Outcome Bytes := .okOr (Base64.decode s) "invalid base64"

theorem decodeBase64_eq_ok {s : String} {b : Bytes} :
    decodeBase64 s = .ok b ↔ Base64.decode s = some b :=
  Outcome.okOr_eq_ok

/-- `URL_SAFE_NO_PAD.decode(…)?`. -/
def decodeUrlSafeNoPad (s : String) : Outcome Bytes :=
  .okOr (Base64.decodeUrlSafeNoPad s) "invalid base64"

theorem decodeUrlSafeNoPad_eq_ok {s : String} {b : Bytes} :
    decodeUrlSafeNoPad s = .ok b ↔ Base64.decodeUrlSafeNoPad s = some b :=
  Outcome.okOr_eq_ok

end Trustmee
