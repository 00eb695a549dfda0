import Trustmee.Tdx.Crl
import Mathlib.Data.List.Infix

/-!
# The cache file of the component

The component writes collateral to a file with `serde_json`, the byte fields as hexadecimal texts,
and reads the fields one by one. What it has read of a CRL it takes for a text once more, although
the texts are gone by then. A CRL that is itself a text, one of hexadecimal digits or one with a PEM
block, is not read back; every other is (`readsBack_iff`).
-/

namespace Trustmee.Tdx.Collateral

variable {C : Component} {s : String} {b : Bytes}

/-! ## Bytes as texts -/

theorem isWhitespace_hexDigit {n : ℕ} (h : n < 16) : isWhitespace (hexDigit n) = false := by
  have hall : ∀ n < 16, isWhitespace (hexDigit n) = false := by decide
  exact hall n h

theorem exists_of_mem_hexEncode {c : Char} (h : c ∈ (hexEncode b).toList) :
    ∃ n < 16, c = hexDigit n := by
  rw [hexEncode, String.toList_ofList, List.mem_flatMap] at h
  obtain ⟨x, -, hc⟩ := h
  have hx := x.toNat_lt
  rcases List.mem_pair.1 hc with rfl | rfl
  · exact ⟨x.toNat / 16, by omega, rfl⟩
  · exact ⟨x.toNat % 16, by omega, rfl⟩

theorem symbols_hexEncode (b : Bytes) : symbols (hexEncode b) = (hexEncode b).toList := by
  refine List.filter_eq_self.2 fun c hc => ?_
  obtain ⟨n, hn, rfl⟩ := exists_of_mem_hexEncode hc
  simp [isWhitespace_hexDigit hn]

theorem isHexText_hexEncode (hb : b ≠ []) : IsHexText (hexEncode b) := by
  have hlength := length_of_hexDecodeChars (hexDecode_hexEncode b)
  have hpos := List.length_pos_iff.2 hb
  refine ⟨?_, ?_, ?_⟩
  · rw [symbols_hexEncode]
    exact List.length_pos_iff.1 (by omega)
  · rw [symbols_hexEncode]
    omega
  · rw [symbols_hexEncode]
    intro c hc
    obtain ⟨n, hn, rfl⟩ := exists_of_mem_hexEncode hc
    rw [hexValue_hexDigit hn]
    rfl

namespace Component

/-- A text without the mark of PEM has no block. -/
theorem decodePemCrl_of_not_mem (h : 'G' ∉ s.toList) : C.decodePemCrl s = none := by
  refine if_neg fun hany => h ?_
  obtain ⟨text, htext, hprefix⟩ := List.any_eq_true.1 hany
  have hsuffix : text <:+ s.toList := (List.mem_tails _ _).1 htext
  exact hsuffix.subset ((List.isPrefixOf_iff_prefix.1 hprefix).subset (by decide))

theorem decodePemCrl_of_isHexText (h : IsHexText s) : C.decodePemCrl s = none := by
  apply decodePemCrl_of_not_mem
  intro hmem
  have hsymbol : 'G' ∈ symbols s := List.mem_filter.2 ⟨hmem, by decide⟩
  exact absurd (h.2.2 _ hsymbol) (by decide)

/-- A text of hexadecimal digits is read as such. -/
theorem decodeText_of_isHexText (h : IsHexText s) :
    C.decodeText s = hexDecodeChars (symbols s) := by
  obtain ⟨bytes, hbytes⟩ := Option.isSome_iff_exists.1 (isSome_hexDecodeChars h.2.1 h.2.2)
  rw [decodeText, decodePemCrl_of_isHexText h, Option.none_or, decodeHexString_of_isHexText h,
    hbytes, Option.some_or]

/-- **The text that bytes are written as is read as the bytes.** -/
theorem decodeBytesValue_hexEncode (hb : b ≠ []) :
    C.decodeBytesValue (.string (hexEncode b)) = some b := by
  rw [decodeBytesValue, decodeText_of_isHexText (isHexText_hexEncode hb), symbols_hexEncode]
  exact hexDecode_hexEncode b

end Component

/-! ## The members of the file -/

/-- The text that `serde_json` writes for collateral is read as an object with its fields. -/
def Component.WritesFields (C : Component) (c : QuoteCollateralV3) : Prop :=
  ∃ data obj, C.toVec c = .ok data ∧ C.serde.fromSlice .ok data = .ok (.object obj) ∧
    HasFields obj c

/-- Collateral with bytes in the fields that are read as texts. -/
structure Filled (c : QuoteCollateralV3) : Prop where
  rootCaCrl : looksLikeDerCrl c.rootCaCrl = true
  pckCrl : looksLikeDerCrl c.pckCrl = true
  tcbInfoSignature : c.tcbInfoSignature ≠ []
  qeIdentitySignature : c.qeIdentitySignature ≠ []

theorem ne_nil_of_looksLike {crl : Bytes} (h : looksLikeDerCrl crl = true) : crl ≠ [] := by
  rintro rfl
  cases h

namespace Component

theorem bytesOf_of_get {obj : Json.Map} {name : String}
    (hget : Json.Map.get obj name = some (.string (hexEncode b))) (hb : b ≠ []) :
    C.bytesOf obj name = some b := by
  rw [bytesOf, hget, Option.bind_some, decodeBytesValue_hexEncode hb]

/-- What is read of a file with the fields of collateral. -/
theorem parseCache_of_hasFields {c : QuoteCollateralV3} {data : Bytes} {obj : Json.Map}
    (hread : C.serde.fromSlice .ok data = .ok (.object obj)) (hfields : HasFields obj c)
    (hfilled : Filled c) :
    C.parseCache data =
      if looksLikeDerCrl (C.crlOf c.rootCaCrl) && looksLikeDerCrl (C.crlOf c.pckCrl) then
        some { c with rootCaCrl := C.crlOf c.rootCaCrl, pckCrl := C.crlOf c.pckCrl }
      else none := by
  have hroot := bytesOf_of_get (C := C) hfields.rootCaCrl (ne_nil_of_looksLike hfilled.rootCaCrl)
  have hpck := bytesOf_of_get (C := C) hfields.pckCrl (ne_nil_of_looksLike hfilled.pckCrl)
  have htcb := bytesOf_of_get (C := C) hfields.tcbInfoSignature hfilled.tcbInfoSignature
  have hqe := bytesOf_of_get (C := C) hfields.qeIdentitySignature hfilled.qeIdentitySignature
  simp only [parseCache, hread, Except.toOption, Json.asObject, hfields.pckCrlIssuerChain, hroot,
    hpck, hfields.tcbInfoIssuerChain, hfields.tcbInfo, htcb, hfields.qeIdentityIssuerChain,
    hfields.qeIdentity, hqe, hfields.pckCertificateChain, Option.bind_eq_bind, Option.bind_some]

/-- The collateral is read as it was when both CRLs are. -/
theorem parseCache_eq_iff {c : QuoteCollateralV3} {data : Bytes} {obj : Json.Map}
    (hpem : C.ShortensPem) (hread : C.serde.fromSlice .ok data = .ok (.object obj))
    (hfields : HasFields obj c) (hfilled : Filled c) :
    C.parseCache data = some c ↔ ¬ C.IsTextOfCrl c.rootCaCrl ∧ ¬ C.IsTextOfCrl c.pckCrl := by
  rw [parseCache_of_hasFields hread hfields hfilled, ← crlOf_eq_self_iff hpem hfilled.rootCaCrl,
    ← crlOf_eq_self_iff hpem hfilled.pckCrl]
  constructor
  · intro h
    split_ifs at h
    have hsame := Option.some.inj h
    exact ⟨congrArg QuoteCollateralV3.rootCaCrl hsame, congrArg QuoteCollateralV3.pckCrl hsame⟩
  · rintro ⟨hroot, hpck⟩
    rw [hroot, hpck, hfilled.rootCaCrl, hfilled.pckCrl]
    rfl

/-- The text of no bytes is not read. -/
theorem bytesOf_of_nil {obj : Json.Map} {name : String}
    (hget : Json.Map.get obj name = some (.string (hexEncode []))) : C.bytesOf obj name = none := by
  have hpem : C.decodePemCrl (hexEncode []) = none := decodePemCrl_of_not_mem (by simp [hexEncode])
  rw [bytesOf, hget, Option.bind_some, decodeBytesValue, decodeText, hpem]
  rfl

/-- Collateral that is read has signatures. -/
theorem signatures_of_parseCache {c : QuoteCollateralV3} {data : Bytes} {obj : Json.Map}
    (hread : C.serde.fromSlice .ok data = .ok (.object obj)) (hfields : HasFields obj c)
    (h : C.parseCache data = some c) :
    c.tcbInfoSignature ≠ [] ∧ c.qeIdentitySignature ≠ [] := by
  have htcb := hfields.tcbInfoSignature
  have hqe := hfields.qeIdentitySignature
  simp only [parseCache, hread, Except.toOption, Json.asObject, Option.bind_eq_bind,
    Option.bind_eq_some_iff, Option.some.injEq, exists_eq_left'] at h
  obtain ⟨-, -, -, -, -, -, -, -, -, -, tcb, htcb', -, -, -, -, qe, hqe', -⟩ := h
  constructor
  · intro hnil
    rw [hnil] at htcb
    rw [bytesOf_of_nil htcb] at htcb'
    cases htcb'
  · intro hnil
    rw [hnil] at hqe
    rw [bytesOf_of_nil hqe] at hqe'
    cases hqe'

end Component

/-! ## Writing and reading -/

variable {E : Env} {path : String} {c : QuoteCollateralV3} {calls : List Call}
  {fs fs' : FileSystem}

/-- Collateral is written when the directory is there, and the file can be. -/
theorem run_writeCache {fs₁ : FileSystem} {data : Bytes} (hparent : E.createParent fs path = .ok fs₁)
    (hdata : E.toVec c = .ok data) (hwrite : fs₁.write path data = .ok fs') :
    (writeCache E path c).run fs = ⟨.ok (), [.write path, .write path], fs'⟩ := by
  refine Traced.run_bind_eq_ok.2 ⟨(), [.write path], fs₁, [.write path], ?_,
    Traced.run_bind_eq_ok.2 ⟨data, [], fs₁, [.write path], ?_, ?_, rfl⟩, rfl⟩
  · rw [Traced.run_call, hparent]
  · rw [Traced.run_lift, hdata]
    rfl
  · rw [Traced.run_call, hwrite]

/-- A file that is written has what `serde_json` makes of the collateral. -/
theorem exists_read_of_writeCache (h : (writeCache E path c).run fs = ⟨.ok (), calls, fs'⟩) :
    ∃ data, E.toVec c = .ok data ∧ fs'.read path = .ok data := by
  unfold writeCache at h
  obtain ⟨_, _, fs₁, _, -, h, -⟩ := Traced.run_bind_eq_ok.1 h
  obtain ⟨data, _, fs₂, _, hdata, h, -⟩ := Traced.run_bind_eq_ok.1 h
  rw [Traced.run_lift] at hdata
  rw [Traced.run_call] at h
  refine ⟨data, ?_, ?_⟩
  · injection hdata with hvec
    cases htoVec : E.toVec c with
    | ok data' =>
      rw [htoVec] at hvec
      cases hvec
      rfl
    | error e =>
      rw [htoVec] at hvec
      cases hvec
  · cases hwrite : fs₂.write path data with
    | ok fs₃ =>
      rw [hwrite] at h
      cases h
      exact FileSystem.read_of_write hwrite
    | error e =>
      rw [hwrite] at h
      cases h

/-- What is read of a file that was written. -/
theorem exists_result_readCache (hserde : C.WritesFields c)
    (hwrite : (writeCache C.toEnv path c).run fs = ⟨.ok (), calls, fs'⟩) :
    ∃ data obj, C.serde.fromSlice .ok data = .ok (.object obj) ∧ HasFields obj c ∧
      ((readCache C.parseCache path).run fs').result = .ok (C.parseCache data) := by
  obtain ⟨data, hdata, hread⟩ := exists_read_of_writeCache hwrite
  obtain ⟨data', obj, hdata', hobj, hfields⟩ := hserde
  obtain rfl : data = data' := Except.ok.inj (hdata.symm.trans hdata')
  refine ⟨data, obj, hobj, hfields, ?_⟩
  rw [run_readCache, hread]
  rfl

/-- **The cache returns what was stored** exactly when neither CRL is a text of one. -/
theorem readsBack_iff (hpem : C.ShortensPem) (hserde : C.WritesFields c) (hfilled : Filled c)
    (hwrite : (writeCache C.toEnv path c).run fs = ⟨.ok (), calls, fs'⟩) :
    ((readCache C.parseCache path).run fs').result = .ok (some c) ↔
      ¬ C.IsTextOfCrl c.rootCaCrl ∧ ¬ C.IsTextOfCrl c.pckCrl := by
  obtain ⟨data, obj, hobj, hfields, hresult⟩ := exists_result_readCache hserde hwrite
  rw [hresult, ← Component.parseCache_eq_iff hpem hobj hfields hfilled]
  exact ⟨Except.ok.inj, congrArg Except.ok⟩

/-! ## A CRL of digits -/

/-- A component that reads the text of the collateral. -/
def keeping (c : QuoteCollateralV3) : Component where
  serde := { fromStr := fun deserialize _ => deserialize (.object (objectOf c)) }
  Quote := Unit
  parseQuote _ := .ok ()
  ca _ := .ok "platform"
  fmspc _ := .ok [0xAB]
  isSgx _ := false
  sha256 _ := [0, 0, 0, 0]
  parseRfc3339 _ := some 1893456000
  toVec c := .ok (toUtf8 (Json.object (fieldsOf c)).print)
  createParent fs _ := .ok fs
  disableCache := none
  now := 1700000000
  pemParseMany _ := some []
  fetchCollateralUncached _ := .ok c

theorem shortensPem_keeping (c : QuoteCollateralV3) : (keeping c).ShortensPem := by
  intro s blocks hblocks block hblock
  cases hblocks
  cases hblock

theorem writesFields_keeping (c : QuoteCollateralV3) : (keeping c).WritesFields c := by
  refine ⟨_, objectOf c, rfl, ?_, hasFields_objectOf c⟩
  rw [SerdeJson.fromSlice, fromUtf8_toUtf8]
  rfl

theorem exists_run_writeCache (c : QuoteCollateralV3) : ∃ calls fs',
    (writeCache (keeping c).toEnv (FileSystem.join "/cache" staleName) c).run (cacheTree []) =
      ⟨.ok (), calls, fs'⟩ := by
  have hwrite := FileSystem.write_eq (resolve_cacheTree []) rfl
    (toUtf8 (Json.object (fieldsOf c)).print)
  exact ⟨_, _, run_writeCache rfl rfl hwrite⟩

/-- Collateral with a CRL. -/
def collateralOf (crl : Bytes) : QuoteCollateralV3 where
  tcbInfo := "\x7b\x7d"
  qeIdentity := "\x7b\x7d"
  pckCrlIssuerChain := ""
  rootCaCrl := crl
  pckCrl := crl
  tcbInfoIssuerChain := ""
  tcbInfoSignature := [1]
  qeIdentityIssuerChain := ""
  qeIdentitySignature := [1]
  pckCertificateChain := none

/-- The DER of a CRL of 128 bytes, which is no text. -/
def binaryCrl : Bytes := 0x30 :: 0x81 :: 0x80 :: List.replicate 128 0

theorem looksLikeDerCrl_binaryCrl : looksLikeDerCrl binaryCrl = true := by
  rw [looksLikeDerCrl_iff]
  simp [binaryCrl, derTotalLen]

theorem not_isTextOfCrl_of_long {C : Component} {rest : Bytes} :
    ¬ C.IsTextOfCrl (0x30 :: 0x81 :: rest) := by
  rintro ⟨s, htext, -⟩
  rw [fromUtf8_eq_none (by decide) (by decide)] at htext
  cases htext

/-- Collateral with this CRL is read back. -/
theorem readsBack_binary : ∃ calls fs',
    (writeCache (keeping (collateralOf binaryCrl)).toEnv (FileSystem.join "/cache" staleName)
      (collateralOf binaryCrl)).run (cacheTree []) = ⟨.ok (), calls, fs'⟩ ∧
    ((readCache (keeping (collateralOf binaryCrl)).parseCache
      (FileSystem.join "/cache" staleName)).run fs').result =
      .ok (some (collateralOf binaryCrl)) := by
  obtain ⟨calls, fs', hwrite⟩ := exists_run_writeCache (collateralOf binaryCrl)
  have hfilled : Filled (collateralOf binaryCrl) :=
    ⟨looksLikeDerCrl_binaryCrl, looksLikeDerCrl_binaryCrl, by decide, by decide⟩
  exact ⟨calls, fs', hwrite, (readsBack_iff (shortensPem_keeping _) (writesFields_keeping _) hfilled
    hwrite).2 ⟨not_isTextOfCrl_of_long, not_isTextOfCrl_of_long⟩⟩

/-- A CRL whose bytes are the digits of a text. -/
def digitsCrl : Bytes := List.replicate 50 0x30

theorem isTextOfCrl_digitsCrl (C : Component) : C.IsTextOfCrl digitsCrl := by
  have hbytes : digitsCrl = toUtf8 (String.ofList (List.replicate 50 '0')) := by
    rw [toUtf8_eq_flatMap, String.toList_ofList]
    decide
  have hsymbols : symbols (String.ofList (List.replicate 50 '0')) = List.replicate 50 '0' := by
    rw [symbols, String.toList_ofList, List.filter_replicate_of_pos (by decide)]
  refine ⟨_, fromUtf8_eq_some.2 hbytes, .inr ?_⟩
  rw [IsHexText, hsymbols, List.length_replicate]
  refine ⟨by simp, by omega, fun c hc => ?_⟩
  rw [List.eq_of_mem_replicate hc]
  decide

/-- Collateral with a CRL of digits is not read back. -/
theorem not_readsBack_digits : (keeping (collateralOf digitsCrl)).ShortensPem ∧
    (keeping (collateralOf digitsCrl)).WritesFields (collateralOf digitsCrl) ∧
    Filled (collateralOf digitsCrl) ∧ ∃ calls fs',
      (writeCache (keeping (collateralOf digitsCrl)).toEnv (FileSystem.join "/cache" staleName)
        (collateralOf digitsCrl)).run (cacheTree []) = ⟨.ok (), calls, fs'⟩ ∧
      ((readCache (keeping (collateralOf digitsCrl)).parseCache
        (FileSystem.join "/cache" staleName)).run fs').result ≠
        .ok (some (collateralOf digitsCrl)) := by
  have hpem := shortensPem_keeping (collateralOf digitsCrl)
  have hserde := writesFields_keeping (collateralOf digitsCrl)
  have hfilled : Filled (collateralOf digitsCrl) := ⟨by decide, by decide, by decide, by decide⟩
  obtain ⟨calls, fs', hwrite⟩ := exists_run_writeCache (collateralOf digitsCrl)
  refine ⟨hpem, hserde, hfilled, calls, fs', hwrite, fun hread => ?_⟩
  obtain ⟨data, obj, hobj, hfields, hresult⟩ := exists_result_readCache hserde hwrite
  have hparse := Except.ok.inj (hresult.symm.trans hread)
  have htext := (Component.parseCache_eq_iff hpem hobj hfields hfilled).1 hparse
  exact htext.1 (isTextOfCrl_digitsCrl _)

end Trustmee.Tdx.Collateral
