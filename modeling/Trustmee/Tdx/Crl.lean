import Trustmee.Tdx.Collateral

/-!
# CRLs, and texts of them

The component takes the bytes of a CRL for a text of it where they can be read as one: PEM, then
hexadecimal, then base64. This is done with the answers of a server, which may be texts, and again
with what a cache file has, which is not. Bytes that begin as DER does are never base64, so a CRL is
taken for a text when it is hexadecimal or has a PEM block (`decodeCrlBytes_eq_none_iff`).
-/

namespace Trustmee.Tdx.Collateral

/-! ## The length of a CRL -/

variable {bytes crl more : Bytes} {n : ℕ}

theorem derTotalLen_short {b : UInt8} {rest : Bytes} (h : b.toNat < 0x80) :
    derTotalLen (0x30 :: b :: rest) = some (2 + b.toNat) := by
  have hone : b ≠ 0x81 := by
    rintro rfl
    exact absurd h (by decide)
  have htwo : b ≠ 0x82 := by
    rintro rfl
    exact absurd h (by decide)
  have hlow : b < 0x80 := UInt8.lt_iff_toNat_lt.2 h
  simp [derTotalLen, hone, htwo, hlow]

theorem derTotalLen_one (b : UInt8) (rest : Bytes) :
    derTotalLen (0x30 :: 0x81 :: b :: rest) = some (3 + b.toNat) := by
  simp [derTotalLen]

theorem derTotalLen_two (high low : UInt8) (rest : Bytes) :
    derTotalLen (0x30 :: 0x82 :: high :: low :: rest) =
      some (4 + (high.toNat * 256 + low.toNat)) := by
  simp [derTotalLen]

/-- A length of more bytes is not read. -/
theorem derTotalLen_long {b : UInt8} {rest : Bytes} (h : 0x82 < b.toNat) :
    derTotalLen (0x30 :: b :: rest) = none := by
  have hone : b ≠ 0x81 := by
    rintro rfl
    exact absurd h (by decide)
  have htwo : b ≠ 0x82 := by
    rintro rfl
    exact absurd h (by decide)
  have hhigh : ¬ b < 0x80 := by
    rw [UInt8.lt_iff_toNat_lt]
    change ¬ b.toNat < 0x80
    omega
  simp [derTotalLen, hone, htwo, hhigh]

/-- The length is in the first bytes. -/
theorem derTotalLen_append (h : derTotalLen crl = some n) : derTotalLen (crl ++ more) = some n := by
  match crl with
  | [] | [_] => simp [derTotalLen] at h
  | tag :: first :: rest =>
    simp only [derTotalLen, List.cons_append] at h ⊢
    split_ifs at h ⊢ with htag hone htwo hshort
    · match rest with
      | [] => simp at h
      | _ :: _ => exact h
    · match rest with
      | [] | [_] => simp at h
      | _ :: _ :: _ => exact h
    · exact h

theorem looksLikeDerCrl_iff : looksLikeDerCrl bytes = true ↔ derTotalLen bytes = some bytes.length :=
  beq_iff_eq

theorem exists_eq_cons_of_derTotalLen (h : derTotalLen bytes = some n) :
    ∃ rest, bytes = 0x30 :: rest := by
  match bytes with
  | [] | [_] => simp [derTotalLen] at h
  | tag :: first :: rest =>
    simp only [derTotalLen] at h
    split_ifs at h with htag
    all_goals exact ⟨first :: rest, by rw [not_not.1 htag]⟩

theorem trimDerTrailing_prefix (bytes : Bytes) : trimDerTrailing bytes <+: bytes := by
  unfold trimDerTrailing
  split
  · split_ifs
    · exact List.take_prefix _ _
    · exact List.prefix_rfl
  · exact List.prefix_rfl

/-- **Trimming finds the CRL that the bytes begin with.** -/
theorem trimDerTrailing_eq_iff (hcrl : looksLikeDerCrl crl = true) :
    trimDerTrailing bytes = crl ↔ crl <+: bytes := by
  constructor
  · rintro rfl
    exact trimDerTrailing_prefix bytes
  · rintro ⟨more, rfl⟩
    have hlength := looksLikeDerCrl_iff.1 hcrl
    obtain ⟨rest, rfl⟩ := exists_eq_cons_of_derTotalLen hlength
    rw [trimDerTrailing, derTotalLen_append hlength]
    dsimp only
    rw [if_pos ⟨by simp, by simp⟩, List.take_left]

theorem trimDerTrailing_of_looksLike (hcrl : looksLikeDerCrl crl = true) :
    trimDerTrailing crl = crl :=
  (trimDerTrailing_eq_iff hcrl).2 List.prefix_rfl

namespace Component

variable {C : Component}

theorem crlOf_eq (bytes : Bytes) : C.crlOf bytes = trimDerTrailing (C.normalizeCrlBytes bytes) := by
  change (if looksLikeDerCrl (C.normalizeCrlBytes bytes) then C.normalizeCrlBytes bytes
    else trimDerTrailing (C.normalizeCrlBytes bytes)) = _
  split_ifs with hlooks
  · exact (trimDerTrailing_of_looksLike hlooks).symm
  · rfl

variable (C) in
/-- `decode_crl_bytes`. -/
def decodeCrlBytes (bytes : Bytes) : Option Bytes := (fromUtf8 bytes).bind C.decodeText

theorem normalizeCrlBytes_of_none (h : C.decodeCrlBytes bytes = none) :
    C.normalizeCrlBytes bytes = bytes := by
  rw [normalizeCrlBytes, ← decodeCrlBytes, h, Option.getD_none]

theorem normalizeCrlBytes_of_some {content : Bytes} (h : C.decodeCrlBytes bytes = some content) :
    C.normalizeCrlBytes bytes = content := by
  rw [normalizeCrlBytes, ← decodeCrlBytes, h, Option.getD_some]

end Component

/-! ## Texts -/

/-- The characters of a text that are not white. -/
def symbols (s : String) : List Char := s.toList.filter fun c => !isWhitespace c

/-- A text of hexadecimal digits in pairs, with whitespace. -/
def IsHexText (s : String) : Prop :=
  symbols s ≠ [] ∧ (symbols s).length % 2 = 0 ∧ ∀ c ∈ symbols s, (hexValue c).isSome

variable {s : String} {content : Bytes}

theorem toNat_lt_of_hexValue {c : Char} (h : (hexValue c).isSome) : c.toNat < 0x80 := by
  unfold hexValue at h
  simp only [Char.le_def, UInt32.le_iff_toNat_le] at h
  split_ifs at h <;> simp only [Char.toNat] <;> simp at * <;> omega

theorem decodeHexString_eq (s : String) : decodeHexString s =
    if symbols s = [] ∨ (toUtf8 (String.ofList (symbols s))).length % 2 ≠ 0 ∨
      ¬ (symbols s).all fun c => (hexValue c).isSome then none
    else hexDecodeChars (symbols s) := rfl

theorem decodeBase64String_eq (s : String) : decodeBase64String s =
    if symbols s = [] then none
    else (Base64.decode (String.ofList (symbols s))).filter
      fun bytes => bytes.head? == some 0x30 := rfl

theorem decodeHexString_of_isHexText (h : IsHexText s) :
    decodeHexString s = hexDecodeChars (symbols s) := by
  obtain ⟨hne, heven, hdigits⟩ := h
  have hlength := length_toUtf8_of_ascii fun c hc => toNat_lt_of_hexValue (hdigits c hc)
  have hall : ((symbols s).all fun c => (hexValue c).isSome) = true := List.all_eq_true.2 hdigits
  rw [decodeHexString_eq]
  refine if_neg ?_
  rintro (hnil | hodd | hnot)
  · exact hne hnil
  · exact hodd (hlength ▸ heven)
  · exact hnot hall

theorem isHexText_of_isSome (h : (decodeHexString s).isSome) : IsHexText s := by
  rw [decodeHexString_eq] at h
  split_ifs at h with hno
  · cases h
  rw [not_or, not_or, not_not, not_not] at hno
  obtain ⟨hne, heven, hall⟩ := hno
  have hdigits : ∀ c ∈ symbols s, (hexValue c).isSome := List.all_eq_true.1 hall
  refine ⟨hne, ?_, hdigits⟩
  rw [← length_toUtf8_of_ascii fun c hc => toNat_lt_of_hexValue (hdigits c hc)]
  exact heven

/-- **A text is read as hexadecimal** when it is a text of digits in pairs. -/
theorem isSome_decodeHexString_iff : (decodeHexString s).isSome ↔ IsHexText s := by
  constructor
  · exact isHexText_of_isSome
  · intro h
    rw [decodeHexString_of_isHexText h]
    exact isSome_hexDecodeChars h.2.1 h.2.2

theorem decodeHexString_eq_none_iff : decodeHexString s = none ↔ ¬ IsHexText s := by
  rw [← isSome_decodeHexString_iff, Option.not_isSome_iff_eq_none]

/-- There are fewer bytes than digits. -/
theorem length_lt_of_decodeHexString (h : decodeHexString s = some content) :
    content.length < (toUtf8 s).length := by
  have htext := isHexText_of_isSome (by rw [h]; rfl)
  rw [decodeHexString_of_isHexText htext] at h
  have hdigits := length_of_hexDecodeChars h
  have hpos : 0 < (symbols s).length := List.length_pos_iff.2 htext.1
  have hle : (symbols s).length ≤ s.toList.length := List.length_filter_le ..
  have hbytes := length_toList_le s
  omega

/-- A text that begins with a zero is not the base64 of a CRL. -/
theorem decodeBase64String_of_zero {l : List Char} (h : s.toList = '0' :: l) :
    decodeBase64String s = none := by
  have hsymbols : symbols s = '0' :: symbols (String.ofList l) := by
    rw [symbols, h, symbols, String.toList_ofList, List.filter_cons_of_pos (by decide)]
  rw [decodeBase64String_eq, if_neg (by simp [hsymbols]), Option.filter_eq_none_iff]
  intro decoded hdecoded hhead
  rw [Base64.decode, String.toList_ofList, hsymbols] at hdecoded
  cases decoded with
  | nil => cases hhead
  | cons x rest =>
    obtain ⟨c, d, l', m, n, hl, hm, hn, rfl⟩ := Base64.exists_of_decodeChars_eq_cons hdecoded
    obtain ⟨rfl, -⟩ := List.cons.inj hl
    obtain rfl : m = 52 := by simpa [Base64.sextet] using hm.symm
    have hlt := Base64.sextet_lt hn
    have hbyte : UInt8.ofNat (52 * 4 + n / 16) = 0x30 := by simpa using hhead
    have hnat := congrArg UInt8.toNat hbyte
    rw [toNat_ofNat_lt (by omega)] at hnat
    change 52 * 4 + n / 16 = 48 at hnat
    omega

/-- The text that bytes are begins as they do. -/
theorem toList_of_fromUtf8 {rest : Bytes} (h : fromUtf8 (0x30 :: rest) = some s) :
    s.toList = '0' :: lossyChars rest :=
  toList_of_toUtf8_eq_cons (fromUtf8_eq_some.1 h).symm (by decide)

namespace Component

variable {C : Component}

variable (C) in
/-- The contents of a PEM block are shorter than the text that has it. -/
def ShortensPem : Prop :=
  ∀ s blocks, C.pemParseMany s = some blocks → ∀ block ∈ blocks,
    block.2.length < (toUtf8 s).length

theorem length_lt_of_decodePemCrl (hpem : C.ShortensPem) (h : C.decodePemCrl s = some content) :
    content.length < (toUtf8 s).length := by
  unfold decodePemCrl at h
  split_ifs at h
  simp only [Option.bind_eq_bind, Option.bind_eq_some_iff] at h
  obtain ⟨blocks, hblocks, block, hblock, heq⟩ := h
  cases heq
  exact hpem s blocks hblocks block (List.mem_of_find?_eq_some hblock)

variable (C) in
/-- Bytes that are a text with a CRL: one with a PEM block of a CRL, or of hexadecimal digits. -/
def IsTextOfCrl (bytes : Bytes) : Prop :=
  ∃ s, fromUtf8 bytes = some s ∧ ((C.decodePemCrl s).isSome ∨ IsHexText s)

/-- **What begins as DER does is taken for a text** when it has a PEM block or is hexadecimal. -/
theorem decodeCrlBytes_eq_none_iff {rest : Bytes} :
    C.decodeCrlBytes (0x30 :: rest) = none ↔ ¬ C.IsTextOfCrl (0x30 :: rest) := by
  unfold decodeCrlBytes IsTextOfCrl
  cases htext : fromUtf8 (0x30 :: rest) with
  | none => simp
  | some s =>
    have hbase := decodeBase64String_of_zero (toList_of_fromUtf8 htext)
    rw [Option.bind_some, decodeText, hbase, Option.or_none, Option.or_eq_none_iff,
      decodeHexString_eq_none_iff]
    simp

/-- A text of a CRL that begins as DER does is longer than what is read from it. -/
theorem length_lt_of_decodeCrlBytes (hpem : C.ShortensPem) {rest : Bytes}
    (h : C.decodeCrlBytes (0x30 :: rest) = some content) :
    content.length < (0x30 :: rest : Bytes).length := by
  obtain ⟨s, htext, hread⟩ := Option.bind_eq_some_iff.1 h
  rw [decodeText, decodeBase64String_of_zero (toList_of_fromUtf8 htext), Option.or_none,
    Option.or_eq_some_iff] at hread
  rw [fromUtf8_eq_some.1 htext]
  rcases hread with hpemText | ⟨-, hhex⟩
  · exact length_lt_of_decodePemCrl hpem hpemText
  · exact length_lt_of_decodeHexString hhex

/-- **A CRL is kept by the reader** when it is no text. -/
theorem crlOf_eq_self_iff (hpem : C.ShortensPem) (hcrl : looksLikeDerCrl crl = true) :
    C.crlOf crl = crl ↔ ¬ C.IsTextOfCrl crl := by
  obtain ⟨rest, rfl⟩ := exists_eq_cons_of_derTotalLen (looksLikeDerCrl_iff.1 hcrl)
  rw [crlOf_eq, trimDerTrailing_eq_iff hcrl, ← decodeCrlBytes_eq_none_iff]
  cases hread : C.decodeCrlBytes (0x30 :: rest) with
  | none => simp [normalizeCrlBytes_of_none hread]
  | some content =>
    have hshort := length_lt_of_decodeCrlBytes hpem hread
    rw [normalizeCrlBytes_of_some hread]
    refine iff_of_false (fun hprefix => ?_) (by simp)
    exact absurd hprefix.length_le (by omega)

end Component

end Trustmee.Tdx.Collateral
