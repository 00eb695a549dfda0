import Trustmee.Nvidia.Lossless
import Trustmee.Nvidia.Report

/-!
# Verified reports

What a report that is accepted says (`Verified`), and the reports that are neither accepted wrongly
nor end in a panic (`sound_iff`). Acceptance is sound without a condition. The panics are the ones of
the decoder, and one behind it: of the value of the certificate's FwId extension the last 48 bytes
are taken, and it may have fewer.
-/

namespace Trustmee.Nvidia

variable (S : OpenSsl)

/-! ## Steps behind the decoder -/

/-- Two halves of 48 bytes are a signature under the key of a certificate. -/
structure SignedBy (cert : S.X509) (signedBytes signatureBytes : Bytes) : Prop where
  length : signatureBytes.length = 96
  verify : ∃ ecdsaSig ecKey,
    S.fromPrivateComponents (leValue (signatureBytes.take 48).reverse)
      (leValue (signatureBytes.drop 48).reverse) = .ok ecdsaSig ∧
    S.ecKey cert = .ok ecKey ∧ S.verify ecdsaSig (S.sha384 signedBytes) ecKey = .ok true

/-- The last certificate has the fingerprint of NVIDIA's root. -/
def HasTrustedRoot (certs : List S.X509) : Prop :=
  ∃ root digest, certs.getLast? = some root ∧ S.sha1Digest root = .ok digest ∧
    hexEncode digest = S.nvidiaRootCa.digest

variable {S} {certs : List S.X509} {cert : S.X509} {signedBytes signatureBytes : Bytes}

theorem verifySignature_eq_ok {u : Unit} :
    SpdmReport.verifySignature S signedBytes signatureBytes cert = .ok u ↔
      SignedBy S cert signedBytes signatureBytes := by
  simp only [SpdmReport.verifySignature, Outcome.bind_eq_ok, Outcome.ensure_eq_ok,
    decide_eq_true_eq, Outcome.ofExcept_eq_ok, Outcome.mapErr_eq_ok, slice_eq_ok]
  constructor
  · rintro ⟨_, hlength, r, ⟨-, -, rfl⟩, s, ⟨-, -, rfl⟩, ecdsaSig, hsig, ecKey, hkey, _, hverify, rfl⟩
    rw [List.take_length] at hsig
    exact ⟨hlength, ecdsaSig, ecKey, hsig, hkey, hverify⟩
  · rintro ⟨hlength, ecdsaSig, ecKey, hsig, hkey, hverify⟩
    refine ⟨(), hlength, _, ⟨Nat.zero_le _, by omega, rfl⟩, _, ⟨by omega, le_rfl, rfl⟩, ecdsaSig, ?_,
      ecKey, hkey, true, hverify, rfl⟩
    rw [List.take_length]
    exact hsig

theorem returns_verifySignature :
    (SpdmReport.verifySignature S signedBytes signatureBytes cert).Returns := by
  apply returns_ensure_bind
  intro hlength
  apply returns_slice_bind (by omega) (by omega)
  intro r _
  apply returns_slice_bind (by omega) le_rfl
  intro s _
  apply (Outcome.returns_ofExcept _).bind
  intro ecdsaSig _
  apply (Outcome.returns_ofExcept _).bind
  intro ecKey _
  apply ((Outcome.returns_ofExcept _).mapErr _).bind
  intro result _
  exact Outcome.returns_ensure _ _

theorem checkRootCaIsTrusted_eq_ok {u : Unit} :
    checkRootCaIsTrusted S certs = .ok u ↔ HasTrustedRoot S certs := by
  simp only [checkRootCaIsTrusted, certificateFingerprint, Outcome.bind_eq_ok, Outcome.okOr_eq_ok,
    Outcome.ofExcept_eq_ok, Outcome.ensure_eq_ok, decide_eq_true_eq, Outcome.pure_eq,
    Outcome.ok.injEq, HasTrustedRoot]
  constructor
  · rintro ⟨root, hroot, _, ⟨digest, hdigest, rfl⟩, htrusted⟩
    exact ⟨root, digest, hroot, hdigest, htrusted⟩
  · rintro ⟨root, digest, hroot, hdigest, htrusted⟩
    exact ⟨root, hroot, _, ⟨digest, hdigest, rfl⟩, htrusted⟩

theorem returns_checkRootCaIsTrusted : (checkRootCaIsTrusted S certs).Returns := by
  apply (Outcome.returns_okOr _ _).bind
  intro root _
  apply Outcome.Returns.bind
  · exact (Outcome.returns_ofExcept _).bind fun _ _ => Outcome.returns_ok _
  · intro digest _
    exact Outcome.returns_ensure _ _

/-- The FwId of a certificate is the end of its extension's value. -/
theorem getFwidFromCert_eq_ok {fwid : String} :
    getFwidFromCert S true cert = .ok fwid ↔ ∃ front last : Bytes, last.length = 48 ∧
      S.fwidExtension cert = .ok (some (front ++ last)) ∧ hexEncode last = fwid := by
  simp only [getFwidFromCert, Outcome.bind_eq_ok, Outcome.ofExcept_eq_ok, Outcome.okOr_eq_ok,
    Outcome.pure_eq, Outcome.ok.injEq]
  constructor
  · rintro ⟨_, hextension, value, rfl, start, hstart, last, hlast, rfl⟩
    have hreturns : (subUsize true value.length 48).Returns := by
      rw [hstart]
      exact Outcome.returns_ok _
    have hle : 48 ≤ value.length := (returns_subUsize_iff.1 hreturns).resolve_right (by simp)
    rw [subUsize, if_pos hle, Outcome.ok.injEq] at hstart
    subst hstart
    obtain ⟨-, -, rfl⟩ := getRange_eq_some.1 hlast
    rw [List.take_length]
    refine ⟨value.take (value.length - 48), _, ?_, ?_, rfl⟩
    · rw [List.length_drop]
      omega
    · rw [List.take_append_drop]
      exact hextension
  · rintro ⟨front, last, hlength, hextension, rfl⟩
    have hle : 48 ≤ (front ++ last).length := by
      rw [List.length_append]
      omega
    have hfront : (front ++ last).length - 48 = front.length := by
      rw [List.length_append]
      omega
    refine ⟨_, hextension, _, rfl, front.length, ?_, last, ?_, rfl⟩
    · rw [subUsize, if_pos hle, hfront]
    · rw [getRange_eq_some, List.take_length, List.drop_left]
      exact ⟨by omega, le_rfl, rfl⟩

/-- The FwId of a certificate is not found without a panic where the extension's value is short. -/
theorem returns_getFwidFromCert_iff : (getFwidFromCert S true cert).Returns ↔
    ∀ value, S.fwidExtension cert = .ok (some value) → 48 ≤ value.length := by
  unfold getFwidFromCert
  rw [Outcome.returns_bind_iff, and_iff_right (Outcome.returns_ofExcept _)]
  constructor
  · intro h value hvalue
    have hrest := h (some value) (Outcome.ofExcept_eq_ok.2 hvalue)
    rw [Outcome.okOr, Outcome.ok_bind] at hrest
    exact (returns_subUsize_iff.1 (Outcome.returns_bind_iff.1 hrest).1).resolve_right (by simp)
  · intro h extension hextension
    apply (Outcome.returns_okOr _ _).bind
    intro value hvalue
    rw [Outcome.okOr_eq_ok] at hvalue
    subst hvalue
    have hle := h value (Outcome.ofExcept_eq_ok.1 hextension)
    apply (returns_subUsize_iff.2 (.inl hle)).bind
    intro start _
    exact (Outcome.returns_okOr _ _).bind fun _ _ => Outcome.returns_ok _

/-- What a chain is verified for. -/
theorem verifyChain_eq_ok {fwid : String} {u : Unit} :
    verifyChain S true certs fwid = .ok u ↔ 2 ≤ certs.length ∧ HasTrustedRoot S certs ∧
      ∃ leaf, certs.head? = some leaf ∧ (∃ front last : Bytes, last.length = 48 ∧
          S.fwidExtension leaf = .ok (some (front ++ last)) ∧ hexEncode last = fwid) ∧
        S.verifyCert S.nvidiaRootCa.cert leaf certs.dropLast = .ok true := by
  simp only [verifyChain, getLeafCertificate, Outcome.bind_eq_ok, Outcome.ensure_eq_ok,
    decide_eq_true_eq, Outcome.okOr_eq_ok, Outcome.ofExcept_eq_ok, checkRootCaIsTrusted_eq_ok,
    getFwidFromCert_eq_ok]
  constructor
  · rintro ⟨_, hlength, _, hroot, leaf, hleaf, _, hfwid, _, rfl, _, hverified, rfl⟩
    exact ⟨hlength, hroot, leaf, hleaf, hfwid, hverified⟩
  · rintro ⟨hlength, hroot, leaf, hleaf, hfwid, hverified⟩
    exact ⟨(), hlength, (), hroot, leaf, hleaf, fwid, hfwid, (), rfl, true, hverified, rfl⟩

theorem returns_verifyChain_iff {fwid : String} : (verifyChain S true certs fwid).Returns ↔
    (2 ≤ certs.length → HasTrustedRoot S certs → ∀ leaf, certs.head? = some leaf →
      ∀ value, S.fwidExtension leaf = .ok (some value) → 48 ≤ value.length) := by
  unfold verifyChain
  constructor
  · intro h hlength hroot leaf hleaf
    rw [ensure_of hlength, Outcome.ok_bind, checkRootCaIsTrusted_eq_ok (u := ()) |>.2 hroot,
      Outcome.ok_bind, getLeafCertificate, hleaf, Outcome.okOr, Outcome.ok_bind] at h
    exact returns_getFwidFromCert_iff.1 (Outcome.returns_bind_iff.1 h).1
  · intro h
    apply returns_ensure_bind
    intro hlength
    apply returns_checkRootCaIsTrusted.bind
    intro _ hroot
    apply (Outcome.returns_okOr _ _).bind
    intro leaf hleaf
    rw [Outcome.okOr_eq_ok] at hleaf
    apply (returns_getFwidFromCert_iff.2
      (h hlength (checkRootCaIsTrusted_eq_ok.1 hroot) leaf hleaf)).bind
    intro certFwid _
    apply (Outcome.returns_ensure _ _).bind
    intro _ _
    apply (Outcome.returns_ofExcept _).bind
    intro verified _
    exact Outcome.returns_ensure _ _

/-! ## Reports -/

/-- A report as it is written: its request, its response up to the signature, the items of the
response's opaque data, the signature, and what follows. -/
structure ReportText (reportBytes : Bytes) (signatureLength : ℕ) where
  request : SpdmGetMeasurementRequest
  response : ResponseText
  items : List ItemText
  tail : Bytes
  signature : Bytes
  rest : Bytes
  request_wellFormed : request.WellFormed
  accepted : Accepted response.opaqueData items tail
  length_signature : signature.length = signatureLength
  eq : reportBytes = (request.encode ++ response.encode) ++ (signature ++ rest)

/-- The bytes before the signature. -/
def ReportText.signed {reportBytes : Bytes} {signatureLength : ℕ}
    (text : ReportText reportBytes signatureLength) : Bytes :=
  text.request.encode ++ text.response.encode

/-- A report is verified by its text and the leaf of the chain. What the claims take from it, its
blocks and its opaque data, are the ones of the signed bytes. -/
structure VerifiedBy (S : OpenSsl) {reportBytes : Bytes} {signatureLength : ℕ}
    (text : ReportText reportBytes signatureLength) (certs : List S.X509) (leaf : S.X509)
    (expectedNonce : Bytes) (report : SpdmReport) : Prop where
  signature : SignedBy S leaf text.signed report.response.signature
  signature_eq : report.response.signature = text.signature
  blocks : report.response.measurementRecord = text.response.blocks.map BlockText.block
  items : ReadAll true [] text.items report.response.opaqueData
  first : certs.head? = some leaf
  root : HasTrustedRoot S certs
  chain : S.verifyCert S.nvidiaRootCa.cert leaf certs.dropLast = .ok true
  fwid : ∃ item ∈ text.items, item.type = .Fwid ∧ item.data.length = 48 ∧
    ∃ front, S.fwidExtension leaf = .ok (some (front ++ item.data))
  nonce : (text.signed.drop 4).take 32 = expectedNonce

/-- Verification of the report returns, and what it accepts is verified. -/
def Sound (S : OpenSsl) (reportBytes : Bytes) (signatureLength : ℕ)
    (certChainBytes expectedNonce : Bytes) : Prop :=
  ∀ overflowChecks,
    (SpdmReport.tryNew S overflowChecks reportBytes signatureLength certChainBytes
      expectedNonce).Returns ∧
    ∀ report, SpdmReport.tryNew S overflowChecks reportBytes signatureLength certChainBytes
        expectedNonce = .ok report →
      ∃ (text : ReportText reportBytes signatureLength) (certs : List S.X509) (leaf : S.X509),
        S.stackFromPem certChainBytes = .ok certs ∧
          VerifiedBy S text certs leaf expectedNonce report

/-- The reports and chains that are met without a panic: the counts of an item can be numbered, the
signature of accepted data ends below the greatest length, and where the signature verifies, the
FwId extension of the leaf has its 48 bytes. -/
structure Guarded (S : OpenSsl) (reportBytes : Bytes) (signatureLength : ℕ)
    (certChainBytes : Bytes) : Prop where
  counts : ∀ (request : SpdmGetMeasurementRequest) (text : ResponseText) (rest : Bytes),
    request.WellFormed → reportBytes = request.encode ++ (text.encode ++ rest) →
      ¬ HasCountOverflow text.opaqueData
  stop : ∀ (request : SpdmGetMeasurementRequest) (text : ResponseText) (rest : Bytes),
    request.WellFormed → reportBytes = request.encode ++ (text.encode ++ rest) →
      ∀ items tail, Accepted text.opaqueData items tail →
        text.encode.length + signatureLength < 2 ^ 64
  fwid : ∀ (text : ReportText reportBytes signatureLength) (certs : List S.X509) (leaf : S.X509),
    S.stackFromPem certChainBytes = .ok certs → 2 ≤ certs.length → HasTrustedRoot S certs →
      certs.head? = some leaf → SignedBy S leaf text.signed text.signature →
        (∃ item ∈ text.items, item.type = .Fwid) →
          ∀ value, S.fwidExtension leaf = .ok (some value) → 48 ≤ value.length

section

variable {reportBytes certChainBytes expectedNonce : Bytes} {signatureLength : ℕ}

/-- The report that a text is decoded to. -/
def ReportText.report (text : ReportText reportBytes signatureLength) (opaqueData : Json.Map) :
    SpdmReport := ⟨text.request, text.response.response opaqueData text.signature⟩

theorem ReportText.length_signed (text : ReportText reportBytes signatureLength) :
    text.signed.length = 37 + text.response.encode.length := by
  rw [ReportText.signed, List.length_append, text.request_wellFormed.length_encode]

theorem ReportText.decode_eq_ok (text : ReportText reportBytes signatureLength)
    {opaqueData : Json.Map}
    (hdecode : OpaqueData.decode true text.response.opaqueData = .ok opaqueData)
    (hlt : text.response.encode.length + signatureLength < 2 ^ 64) :
    SpdmReport.decode true reportBytes signatureLength =
      .ok (text.report opaqueData, text.signed.length + signatureLength) := by
  have hsignature : getRange (text.response.encode ++ (text.signature ++ text.rest))
      text.response.encode.length (text.response.encode.length + signatureLength) =
        some text.signature := by
    refine getRange_of_drop ?_ List.drop_left text.length_signature
    rw [List.length_append]
    exact Nat.le_add_right _ _
  have hbytes := text.eq
  rw [List.append_assoc] at hbytes
  calc SpdmReport.decode true reportBytes signatureLength
      = SpdmReport.decode true (text.request.encode ++ (text.response.encode ++
          (text.signature ++ text.rest))) signatureLength := by rw [← hbytes]
    _ = _ := by
      rw [SpdmReport.decode_encode text.request_wellFormed, decode_of_readAll hdecode hlt,
        hsignature, Outcome.okOr, Outcome.ok_bind, Outcome.ok_bind, text.length_signed,
        Nat.add_assoc]
      rfl

/-- The steps behind the decoder, of the report of a text. -/
theorem ReportText.tryNew_eq (text : ReportText reportBytes signatureLength)
    {opaqueData : Json.Map}
    (hdecode : OpaqueData.decode true text.response.opaqueData = .ok opaqueData)
    (hlt : text.response.encode.length + signatureLength < 2 ^ 64) :
    SpdmReport.tryNew S true reportBytes signatureLength certChainBytes expectedNonce =
      Outcome.ofExcept (S.stackFromPem certChainBytes) >>= fun certs =>
        getLeafCertificate S certs >>= fun leaf =>
          SpdmReport.verifySignature S text.signed text.signature leaf >>= fun _ =>
            (text.report opaqueData).getFwid >>= fun fwid =>
              verifyChain S true certs fwid >>= fun _ =>
                (text.report opaqueData).validateNonce expectedNonce >>= fun _ =>
                  .ok (text.report opaqueData) := by
  have hsigned : getRange reportBytes 0 text.signed.length = some text.signed := by
    have hbytes : reportBytes.drop 0 = text.signed ++ (text.signature ++ text.rest) := text.eq
    have hget := getRange_of_drop (Nat.zero_le _) hbytes rfl
    rwa [Nat.zero_add] at hget
  rw [SpdmReport.tryNew, text.decode_eq_ok hdecode hlt, Outcome.ok_bind]
  simp only [Nat.le_add_left, if_true, Nat.add_sub_cancel, hsigned, Outcome.okOr,
    Outcome.ok_bind]
  rfl

/-- The FwId of a report is that of its item. -/
theorem ReportText.getFwid_eq_ok (text : ReportText reportBytes signatureLength)
    {opaqueData : Json.Map} (hread : ReadAll true [] text.items opaqueData) {fwid : String} :
    (text.report opaqueData).getFwid = .ok fwid ↔
      ∃ item ∈ text.items, item.type = .Fwid ∧ hexEncode item.data = fwid := by
  have hmap : (text.report opaqueData).response.opaqueData = opaqueData := rfl
  simp only [SpdmReport.getFwid, hmap, Outcome.bind_eq_ok, Outcome.okOr_eq_ok]
  constructor
  · rintro ⟨value, hget, hfwid⟩
    obtain ⟨item, hitem, htype⟩ := (hread.isSome_get_iff .Fwid).1 (by rw [hget]; rfl)
    obtain ⟨v, hv, hgetItem⟩ := hread.get_of_mem hitem
    rw [htype] at hv hgetItem
    rw [hget, Option.some.injEq] at hgetItem
    subst hgetItem
    obtain rfl : .string (hexEncode item.data) = value := Outcome.ok.inj hv
    exact ⟨item, hitem, htype, Option.some.inj hfwid⟩
  · rintro ⟨item, hitem, htype, rfl⟩
    obtain ⟨v, hv, hget⟩ := hread.get_of_mem hitem
    rw [htype] at hv hget
    obtain rfl : .string (hexEncode item.data) = v := Outcome.ok.inj hv
    exact ⟨_, hget, rfl⟩

theorem SpdmReport.returns_getFwid (report : SpdmReport) : report.getFwid.Returns := by
  apply (Outcome.returns_okOr _ _).bind
  intro value _
  exact Outcome.returns_okOr _ _

/-- **What is accepted is verified.** -/
theorem ReportText.verifiedBy (text : ReportText reportBytes signatureLength)
    {opaqueData : Json.Map}
    (hdecode : OpaqueData.decode true text.response.opaqueData = .ok opaqueData)
    (hread : ReadAll true [] text.items opaqueData)
    (hlt : text.response.encode.length + signatureLength < 2 ^ 64) {report : SpdmReport}
    (h : SpdmReport.tryNew S true reportBytes signatureLength certChainBytes expectedNonce =
      .ok report) :
    ∃ (certs : List S.X509) (leaf : S.X509), S.stackFromPem certChainBytes = .ok certs ∧
      VerifiedBy S text certs leaf expectedNonce report := by
  rw [text.tryNew_eq hdecode hlt] at h
  simp only [getLeafCertificate, SpdmReport.validateNonce, Outcome.bind_eq_ok,
    Outcome.ofExcept_eq_ok, Outcome.okOr_eq_ok, verifySignature_eq_ok, text.getFwid_eq_ok hread,
    verifyChain_eq_ok, Outcome.ensure_eq_ok, decide_eq_true_eq, Outcome.ok.injEq] at h
  obtain ⟨certs, hcerts, leaf, hleaf, _, hsigned, fwid, ⟨item, hitem, htype, rfl⟩, _,
    ⟨hlength, hroot, leaf', hleaf', ⟨front, last, hlast, hextension, hhex⟩, hchain⟩, _, hnonce,
    rfl⟩ := h
  rw [hleaf, Option.some.injEq] at hleaf'
  subst hleaf'
  obtain rfl := hexEncode_injective hhex
  refine ⟨certs, leaf, hcerts, {
    signature := hsigned
    signature_eq := rfl
    blocks := rfl
    items := hread
    first := hleaf
    root := hroot
    chain := hchain
    fwid := ⟨item, hitem, htype, hlast, front, hextension⟩
    nonce := ?_ }⟩
  rw [hnonce]
  exact text.request_wellFormed.nonce_encode _

/-- A report that is not refused has a text, where its decoder returns. -/
theorem exists_reportText (hreturns : (SpdmReport.decode true reportBytes signatureLength).Returns)
    (h : ∀ e, SpdmReport.tryNew S true reportBytes signatureLength certChainBytes expectedNonce ≠
      .err e) :
    ∃ (text : ReportText reportBytes signatureLength) (opaqueData : Json.Map),
      OpaqueData.decode true text.response.opaqueData = .ok opaqueData ∧
        ReadAll true [] text.items opaqueData ∧
          text.response.encode.length + signatureLength < 2 ^ 64 := by
  obtain ⟨decoded, hdecoded, -⟩ := hreturns.exists_eq_ok h
  obtain ⟨request, responseBytes, hrequest, rfl, hresponse⟩ :=
    SpdmReport.exists_request (Outcome.ne_err_of_ok hdecoded)
  obtain ⟨text, rest, rfl⟩ := SpdmGetMeasurementsResponse.exists_responseText hresponse
  rw [SpdmReport.decode_encode hrequest] at hreturns hdecoded
  have hstop := ((text.returns_decode_iff rest signatureLength).1
    (Outcome.returns_bind_iff.1 hreturns).1).2
  obtain ⟨response, hresponse, -⟩ := Outcome.bind_eq_ok.1 hdecoded
  rw [text.decode_encode] at hresponse
  obtain ⟨opaqueData, hopaqueData, -⟩ := Outcome.bind_eq_ok.1 hresponse
  obtain ⟨items, tail, haccepted, hread⟩ := exists_accepted hopaqueData
  have hlt := hstop items tail haccepted
  rw [← text.decode_encode, decode_of_readAll hopaqueData hlt] at hresponse
  obtain ⟨signature, hsignature, -⟩ := Outcome.bind_eq_ok.1 hresponse
  rw [Outcome.okOr_eq_ok] at hsignature
  obtain ⟨hlength, hdrop⟩ := (getRange_eq_some_iff (by rw [List.length_append]; omega)).1 hsignature
  rw [List.drop_left] at hdrop
  have heq : request.encode ++ (text.encode ++ rest) = (request.encode ++ text.encode) ++
      (signature ++ (text.encode ++ rest).drop (text.encode.length + signatureLength)) := by
    rw [← hdrop, List.append_assoc]
  exact ⟨⟨request, text, items, tail, signature, _, hrequest, haccepted, hlength, heq⟩, opaqueData,
    hopaqueData, hread, hlt⟩

theorem unchecks_tryNew : (SpdmReport.tryNew S true reportBytes signatureLength certChainBytes
    expectedNonce).Unchecks (SpdmReport.tryNew S false reportBytes signatureLength certChainBytes
      expectedNonce) := by
  have hdecode : (SpdmReport.decode true reportBytes signatureLength).Unchecks
      (SpdmReport.decode false reportBytes signatureLength) := by
    unfold SpdmReport.decode
    exact .bind (.refl _) fun _ => .bind (.refl _) fun _ =>
      .bind (SpdmGetMeasurementsResponse.unchecks_decode _ _) fun _ => .refl _
  have hfwid (cert : S.X509) : (getFwidFromCert S true cert).Unchecks
      (getFwidFromCert S false cert) := by
    unfold getFwidFromCert
    exact .bind (.refl _) fun _ => .bind (.refl _) fun _ =>
      .bind (unchecks_subUsize _ _) fun _ => .refl _
  have hchain (certs : List S.X509) (fwid : String) : (verifyChain S true certs fwid).Unchecks
      (verifyChain S false certs fwid) := by
    unfold verifyChain
    exact .bind (.refl _) fun _ => .bind (.refl _) fun _ => .bind (.refl _) fun leaf =>
      .bind (hfwid leaf) fun _ => .refl _
  unfold SpdmReport.tryNew
  refine .bind hdecode fun _ => ?_
  iterate 6 refine .bind (.refl _) fun _ => ?_
  exact .bind (hchain _ _) fun _ => .refl _

/-- The steps behind the decoder return where the FwId extension is long enough. -/
theorem ReportText.returns_tryNew_iff (text : ReportText reportBytes signatureLength)
    {opaqueData : Json.Map}
    (hdecode : OpaqueData.decode true text.response.opaqueData = .ok opaqueData)
    (hread : ReadAll true [] text.items opaqueData)
    (hlt : text.response.encode.length + signatureLength < 2 ^ 64) :
    (SpdmReport.tryNew S true reportBytes signatureLength certChainBytes expectedNonce).Returns ↔
      ∀ (certs : List S.X509) (leaf : S.X509), S.stackFromPem certChainBytes = .ok certs →
        2 ≤ certs.length → HasTrustedRoot S certs → certs.head? = some leaf →
          SignedBy S leaf text.signed text.signature →
            (∃ item ∈ text.items, item.type = .Fwid) →
              ∀ value, S.fwidExtension leaf = .ok (some value) → 48 ≤ value.length := by
  rw [text.tryNew_eq hdecode hlt]
  constructor
  · intro h certs leaf hcerts hlength hroot hleaf hsigned hitem
    obtain ⟨item, hitem, htype⟩ := hitem
    have hfwid := (text.getFwid_eq_ok hread).2 ⟨item, hitem, htype, rfl⟩
    rw [hcerts, Outcome.ofExcept, Outcome.ok_bind, getLeafCertificate, hleaf, Outcome.okOr,
      Outcome.ok_bind, (verifySignature_eq_ok (u := ())).2 hsigned, Outcome.ok_bind, hfwid,
      Outcome.ok_bind] at h
    exact returns_verifyChain_iff.1 (Outcome.returns_bind_iff.1 h).1 hlength hroot leaf hleaf
  · intro h
    apply (Outcome.returns_ofExcept _).bind
    intro certs hcerts
    apply (Outcome.returns_okOr _ _).bind
    intro leaf hleaf
    apply returns_verifySignature.bind
    intro _ hsigned
    apply (SpdmReport.returns_getFwid _).bind
    intro fwid hfwid
    obtain ⟨item, hitem, htype, -⟩ := (text.getFwid_eq_ok hread).1 hfwid
    rw [Outcome.ofExcept_eq_ok] at hcerts
    rw [Outcome.okOr_eq_ok] at hleaf
    refine Outcome.Returns.bind (returns_verifyChain_iff.2 ?_) fun _ _ =>
      (Outcome.returns_ensure _ _).bind fun _ _ => Outcome.returns_ok _
    intro hlength hroot leaf' hleaf' value hvalue
    rw [hleaf, Option.some.injEq] at hleaf'
    subst hleaf'
    exact h certs leaf hcerts hlength hroot hleaf (verifySignature_eq_ok.1 hsigned)
      ⟨item, hitem, htype⟩ value hvalue

theorem Sound.guarded (h : Sound S reportBytes signatureLength certChainBytes expectedNonce) :
    Guarded S reportBytes signatureLength certChainBytes := by
  have hreturns := (h true).1
  have hdecode := (Outcome.returns_bind_iff.1 hreturns).1
  have hresponse (request : SpdmGetMeasurementRequest) (text : ResponseText) (rest : Bytes)
      (hrequest : request.WellFormed)
      (hbytes : reportBytes = request.encode ++ (text.encode ++ rest)) :
      (SpdmGetMeasurementsResponse.decode true (text.encode ++ rest) signatureLength).Returns := by
    rw [hbytes, SpdmReport.decode_encode hrequest] at hdecode
    exact (Outcome.returns_bind_iff.1 hdecode).1
  have hstop (request : SpdmGetMeasurementRequest) (text : ResponseText) (rest : Bytes)
      (hrequest : request.WellFormed)
      (hbytes : reportBytes = request.encode ++ (text.encode ++ rest)) :=
    (text.returns_decode_iff rest signatureLength).1 (hresponse request text rest hrequest hbytes)
  refine ⟨fun request text rest hrequest hbytes => (hstop request text rest hrequest hbytes).1,
    fun request text rest hrequest hbytes => (hstop request text rest hrequest hbytes).2, ?_⟩
  intro text
  have hbytes := text.eq
  rw [List.append_assoc] at hbytes
  have hlt := (hstop _ _ _ text.request_wellFormed hbytes).2 _ _ text.accepted
  obtain ⟨opaqueData, hopaqueData, hread⟩ := text.accepted.exists_readAll
  exact (text.returns_tryNew_iff hopaqueData hread hlt).1 hreturns

theorem Guarded.sound (h : Guarded S reportBytes signatureLength certChainBytes) :
    Sound S reportBytes signatureLength certChainBytes expectedNonce := by
  intro overflowChecks
  have hdecode : (SpdmReport.decode true reportBytes signatureLength).Returns := by
    by_cases herr : ∃ e, SpdmReport.decode true reportBytes signatureLength = .err e
    · obtain ⟨e, he⟩ := herr
      rw [he]
      exact fun _ => Outcome.err_ne_panic
    · obtain ⟨request, responseBytes, hrequest, rfl, hresponse⟩ :=
        SpdmReport.exists_request fun e he => herr ⟨e, he⟩
      obtain ⟨text, rest, rfl⟩ := SpdmGetMeasurementsResponse.exists_responseText hresponse
      rw [SpdmReport.decode_encode hrequest]
      exact ((text.returns_decode_iff rest signatureLength).2 ⟨h.counts _ _ _ hrequest rfl,
        h.stop _ _ _ hrequest rfl⟩).bind fun _ _ => Outcome.returns_ok _
  have hchecked :
      (SpdmReport.tryNew S true reportBytes signatureLength certChainBytes
        expectedNonce).Returns ∧
      ∀ report, SpdmReport.tryNew S true reportBytes signatureLength certChainBytes
          expectedNonce = .ok report →
        ∃ (text : ReportText reportBytes signatureLength) (certs : List S.X509) (leaf : S.X509),
          S.stackFromPem certChainBytes = .ok certs ∧
            VerifiedBy S text certs leaf expectedNonce report := by
    by_cases herr : ∃ e, SpdmReport.tryNew S true reportBytes signatureLength certChainBytes
        expectedNonce = .err e
    · obtain ⟨e, he⟩ := herr
      rw [he]
      exact ⟨fun _ => Outcome.err_ne_panic, nofun⟩
    · obtain ⟨text, opaqueData, hopaqueData, hread, hlt⟩ :=
        exists_reportText hdecode fun e he => herr ⟨e, he⟩
      refine ⟨(text.returns_tryNew_iff hopaqueData hread hlt).2 (h.fwid text), ?_⟩
      intro report hreport
      exact ⟨text, text.verifiedBy hopaqueData hread hlt hreport⟩
  cases overflowChecks with
  | true => exact hchecked
  | false =>
    rw [unchecks_tryNew hchecked.1]
    exact hchecked

variable (S reportBytes signatureLength certChainBytes expectedNonce) in
/-- **Local verification is sound exactly on what is guarded.** -/
theorem sound_iff : Sound S reportBytes signatureLength certChainBytes expectedNonce ↔
    Guarded S reportBytes signatureLength certChainBytes :=
  ⟨Sound.guarded, Guarded.sound⟩

end

/-- A leaf whose FwId extension has one byte, in front of the root. -/
def shortFwid : OpenSsl where
  X509 := Bool
  EcKey := Bool
  EcdsaSig := ℕ × ℕ
  stackFromPem _ := .ok [false, true]
  sha1Digest cert := .ok [if cert then 1 else 0]
  nvidiaRootCa := ⟨true, hexEncode [1]⟩
  ecKey cert := .ok cert
  fromPrivateComponents r s := .ok (r, s)
  verify _ _ ecKey := .ok (!ecKey)
  sha384 _ := List.replicate 48 0
  fwidExtension cert := .ok (if cert then none else some [0x30])
  verifyCert root _ _ := .ok root

/-- The request of a report without measurements. -/
def emptyRequest : SpdmGetMeasurementRequest :=
  ⟨SPDM_VERSION_SUPPORTED, 0xe0, 0, 0, List.replicate 32 0, 0⟩

/-- The response of a report without measurements: both versions, and a FwId of 48 bytes. -/
def emptyResponse : ResponseText :=
  { emptyLastItem with
    opaqueData := [6, 0, 1, 0, 0x96, 3, 0, 1, 0, 0x35, 20, 0, 48, 0] ++ List.replicate 48 7
    length_opaqueData_lt := by decide }

/-- With a short FwId extension, verification panics. -/
theorem not_sound_shortFwid :
    ¬ Sound shortFwid ((emptyRequest.encode ++ emptyResponse.encode) ++ List.replicate 96 1) 96 []
      (List.replicate 32 0) := by
  intro h
  let vbios : ItemText := ⟨.VbiosVersion, [0x96], by decide, by decide⟩
  let driver : ItemText := ⟨.DriverVersion, [0x35], by decide, by decide⟩
  let fwid : ItemText := ⟨.Fwid, List.replicate 48 7, by decide, by decide⟩
  have haccepted : Accepted emptyResponse.opaqueData [vbios, driver, fwid] [] := {
    eq := by decide
    tiles := ⟨by decide, by decide, by decide, Nat.zero_le 4⟩
    readable := ⟨by decide, by simp [vbios, driver, fwid, ItemText.WellSized], by
      simp [vbios, driver, fwid, OpaqueData.TooManyCounts]⟩
    versions := .inr ⟨⟨vbios, by simp, rfl⟩, driver, by simp, rfl⟩ }
  let text : ReportText ((emptyRequest.encode ++ emptyResponse.encode) ++ List.replicate 96 1) 96 :=
    ⟨emptyRequest, emptyResponse, _, [], List.replicate 96 1, [], ⟨rfl, rfl⟩, haccepted, rfl,
      by rw [List.append_nil]⟩
  have hsigned : SignedBy shortFwid false text.signed text.signature :=
    ⟨rfl, _, _, rfl, rfl, rfl⟩
  have hle := h.guarded.fwid text [false, true] false rfl (Nat.le_refl 2)
    ⟨true, [1], rfl, rfl, rfl⟩ rfl hsigned ⟨fwid, by simp [text], rfl⟩ [0x30] rfl
  exact absurd hle (by decide)

/-! ## Claims -/

/-- `try_new`, as the verifier of devices takes it. -/
def tryNewReport (S : OpenSsl) (overflowChecks : Bool) (reportBytes : Bytes)
    (signatureLength : ℕ) (certChainBytes expectedNonce : Bytes) :
    Outcome NvidiaAttestationReport := do
  let report ← SpdmReport.tryNew S overflowChecks reportBytes signatureLength certChainBytes
    expectedNonce
  return report.response.report

/-- **The claims of a device are those of a verified report.** -/
theorem evaluateDeviceLocally_verified {E : Env} {overflowChecks : Bool}
    (hE : E.tryNew = tryNewReport S overflowChecks) {device : NvDeviceReportAndCert}
    {expectedNonce : Bytes} {claims : Json × String}
    (h : evaluateDeviceLocally E device expectedNonce = .ok claims)
    (hguarded : ∀ reportBytes certChainBytes, decodeEvidence device.evidence = .ok reportBytes →
      decodeBase64 device.certificate = .ok certChainBytes →
        Guarded S reportBytes HOPPER_SIGNATURE_LENGTH certChainBytes) :
    ∃ (reportBytes : Bytes) (text : ReportText reportBytes HOPPER_SIGNATURE_LENGTH)
      (certs : List S.X509) (leaf : S.X509) (report : SpdmReport),
      decodeEvidence device.evidence = .ok reportBytes ∧
        VerifiedBy S text certs leaf expectedNonce report ∧
          claims = (.object (deviceClaims device report.response.report), "gpu") := by
  simp only [evaluateDeviceLocally, hE, tryNewReport, Outcome.bind_eq_ok, Outcome.pure_eq,
    Outcome.ok.injEq] at h
  obtain ⟨_, -, certChainBytes, hchain, reportBytes, hreport, _, ⟨report, htry, rfl⟩, rfl⟩ := h
  obtain ⟨text, certs, leaf, -, hverified⟩ :=
    ((hguarded reportBytes certChainBytes hreport hchain).sound overflowChecks).2 report htry
  exact ⟨reportBytes, text, certs, leaf, report, hreport, hverified, rfl⟩

end Trustmee.Nvidia
