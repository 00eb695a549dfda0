import Trustmee.Snp.Soundness
import Trustmee.Verifier.InitDataPcr

/-!
# What accepted TPM quotes are worth

The Azure verifiers accept evidence exactly when its TPM quote is signed by the attestation key of
the HCL report and bound as it should be, and the hardware report, which the platform signs, has the
hash of that HCL report's data (`AzSnpVtpm.verifyEvidence_eq_ok`, `AzTdxVtpm.verifyEvidence_eq_ok`).
The TPM verifier accepts it when the key is one of the trusted ones (`Tpm.evaluate_eq_ok`). The
claims have the PCRs of the quote by their numbers (`Vtpm.get_pcrClaims`).
-/

namespace Trustmee

namespace Vtpm

/-! ## The claims of the PCRs -/

/-- The number of a PCR is read off its name. -/
theorem ofDigitChars_pcrName (i : ℕ) :
    Nat.ofDigitChars 10 ((pcrName i).toList.drop 3) 0 = i := by
  unfold pcrName
  split <;>
    simp [Nat.ofDigitChars_cons, Nat.ofDigitChars_ten_toDigits]

theorem pcrName_injective : Function.Injective pcrName := by
  intro i j h
  rw [← ofDigitChars_pcrName i, h, ofDigitChars_pcrName]

theorem nodup_pcrClaims (pcrs : List Bytes) : ((pcrClaims pcrs).map Prod.fst).Nodup := by
  have hnames : (pcrClaims pcrs).map Prod.fst = (pcrs.zipIdx.map Prod.snd).map pcrName := by
    rw [pcrClaims, List.map_map, List.map_map]
    rfl
  rw [hnames, List.zipIdx_map_snd]
  exact List.Nodup.map pcrName_injective List.nodup_range'

/-- **The PCRs are in the claims by their numbers**, and no others are. -/
theorem get_pcrClaims {m : Json.Map} (pcrs : List Bytes) {i : ℕ} (hm : m.get (pcrName i) = none) :
    (m.extend (pcrClaims pcrs)).get (pcrName i) =
      pcrs[i]?.map fun pcr => .string (hexEncode pcr) := by
  ext v
  rw [Json.Map.get_extend_eq_some (nodup_pcrClaims pcrs), hm, pcrClaims, List.mem_map,
    Option.map_eq_some_iff]
  constructor
  · rintro (⟨p, hp, heq⟩ | ⟨-, hnone⟩)
    · obtain ⟨hname, rfl⟩ := Prod.mk.inj heq
      obtain rfl := pcrName_injective hname
      exact ⟨p.1, List.mem_zipIdx_iff_getElem?.1 hp, rfl⟩
    · cases hnone
  · rintro ⟨pcr, hpcr, rfl⟩
    exact .inl ⟨(pcr, i), List.mem_zipIdx_iff_getElem?.2 hpcr, rfl⟩

/-! ## The checks of a quote -/

section Checks

variable {T : Vtpm} {msg : String} {quote : T.Quote} {report : T.HclReport}

/-- The quote is signed with the attestation key of the HCL report. -/
def SignedByAk (quote : T.Quote) (report : T.HclReport) : Prop :=
  ∃ akPub der key, T.akPub report = .ok akPub ∧ T.akPubToDer akPub = .ok der ∧
    T.publicKeyFromDer der = .ok key ∧ T.verifySignature quote key = .ok ()

/-- The PCR of the init data is the one for the hash, where there is a hash. -/
def InitDataIs (quote : T.Quote) (expected : InitDataHash) : Prop :=
  ∀ hash, expected = .value hash → T.PcrIs quote hash

theorem verifySignatureOf_eq_ok :
    T.verifySignatureOf msg quote report = .ok () ↔ SignedByAk quote report := by
  simp only [verifySignatureOf, SignedByAk, Outcome.bind_eq_ok, Outcome.context_eq_ok,
    Outcome.ofExcept_eq_ok]
  constructor
  · rintro ⟨akPub, hakPub, der, hder, key, hkey, hverify⟩
    exact ⟨akPub, der, key, hakPub, hder, hkey, hverify⟩
  · rintro ⟨akPub, der, key, hakPub, hder, hkey, hverify⟩
    exact ⟨akPub, hakPub, der, hder, key, hkey, hverify⟩

theorem verifyPcrsOf_eq_ok : T.verifyPcrsOf quote = .ok () ↔ T.verifyPcrs quote = .ok () := by
  rw [verifyPcrsOf, Outcome.context_eq_ok, Outcome.ofExcept_eq_ok]

theorem initDataIs_of_check {expected : InitDataHash}
    (h : T.checkInitData msg (T.pcrsSha256 quote) expected = .ok ()) :
    InitDataIs quote expected := by
  rintro hash rfl
  exact checkInitData_value h

theorem checkInitData_eq_ok {expected : InitDataHash} :
    T.checkInitData msg (T.pcrsSha256 quote) expected = .ok () ↔ InitDataIs quote expected := by
  refine ⟨initDataIs_of_check, fun h => ?_⟩
  cases expected with
  | notProvided => rfl
  | value hash =>
    obtain ⟨hlength, hpcr⟩ := h hash rfl
    simp [checkInitData, extendedPcr, hlength, initDataPcr, hpcr, Outcome.ensure_eq_ok]

/-- The members that the Azure verifiers add to the claims. -/
def extendedMembers (m : Json.Map) (pcrs : List Bytes) (pcr nonce : Bytes) : Json.Map :=
  ((m.insert "tpm" (.object (Json.Map.ofList (pcrClaims pcrs)))).insert "init_data"
    (.string (hexEncode pcr))).insert "report_data" (.string (hexEncode nonce))

theorem extendClaim_eq_ok {m : Json.Map} {claim : Json} {expected : Bytes}
    (hnonce : T.NonceIs quote expected) : T.extendClaim (.object m) quote = .ok claim ↔
      ∃ pcr, (T.pcrsSha256 quote)[INITDATA_PCR]? = some pcr ∧
        claim = .object (extendedMembers m (T.pcrsSha256 quote) pcr expected) := by
  rw [NonceIs] at hnonce
  simp only [extendClaim, Outcome.bind_eq_ok, initDataPcr_eq_ok, hnonce, Outcome.ofExcept_eq_ok,
    Except.ok.injEq, exists_eq_left', Outcome.pure_eq, Outcome.ok.injEq, extendedMembers]
  constructor
  · rintro ⟨pcr, hpcr, rfl⟩
    exact ⟨pcr, hpcr, rfl⟩
  · rintro ⟨pcr, hpcr, rfl⟩
    exact ⟨pcr, hpcr, rfl⟩

/-- Only the claims of an object are extended. -/
theorem exists_object_of_extendClaim {v claim : Json} (h : T.extendClaim v quote = .ok claim) :
    ∃ m, v = .object m := by
  cases v with
  | object m => exact ⟨m, rfl⟩
  | _ => exact absurd h Outcome.bail_ne_ok

end Checks

end Vtpm

/-! ## Azure SEV-SNP -/

namespace AzSnpVtpm

open Snp (AttestationReport)
open Snp.Native

variable {E : Env} {ev : Evidence E} {report : AttestationReport} {expected : Bytes}
  {initDataHash : InitDataHash}

/-- The report is signed by an endorsement key of Milan that says of it what it says itself. -/
structure SignedByVcek (ev : Evidence E) (report : AttestationReport) : Prop where
  chain : E.validateChain (E.snp.vendorCerts .Milan) = .ok ()
  vcek : ∃ vcek key, E.vcekFromPem ev.vcek = .ok vcek ∧
    E.validateVcek vcek (E.snp.vendorCerts .Milan) = .ok () ∧ Endorses report vcek key ∧
    E.verifySignature vcek report = .ok true

/-- What accepted evidence is worth. -/
structure Sound (ev : Evidence E) (report : AttestationReport) (expected : Bytes)
    (initDataHash : InitDataHash) : Prop where
  hcl : ∃ hcl, E.vtpm.hclReport ev.report = .ok hcl ∧ Vtpm.SignedByAk ev.quote hcl ∧
    E.vtpm.snpReport hcl = .ok report ∧
    report.reportData.toList.take 32 = E.vtpm.varDataSha256 hcl
  nonce : E.vtpm.NonceIs ev.quote expected
  pcrs : E.vtpm.verifyPcrs ev.quote = .ok ()
  signed : SignedByVcek ev report
  vmpl : report.vmpl = 0
  initData : Vtpm.InitDataIs ev.quote initDataHash

theorem verifyReportSignature_eq_ok {vcek : E.snp.Certificate} :
    verifyReportSignature E report vcek = .ok () ↔
      ∃ key, Endorses report vcek key ∧ E.verifySignature vcek report = .ok true := by
  have hkey : verifyReportSignature E report vcek = (checkKey report vcek >>= fun _ =>
      Outcome.ofExcept (E.verifySignature vcek report) >>= fun signed =>
        Outcome.ensure signed "Signature validation failed.") := by
    simp only [verifyReportSignature, checkKey, Outcome.bind_assoc, Outcome.pure_eq,
      Outcome.ok_bind]
  rw [hkey]
  simp only [Outcome.bind_eq_ok, checkKey_eq_ok, Outcome.ofExcept_eq_ok, Outcome.ensure_eq_ok]
  constructor
  · rintro ⟨key, hendorses, signed, hsigned, rfl⟩
    exact ⟨key, hendorses, hsigned⟩
  · rintro ⟨key, hendorses, hsigned⟩
    exact ⟨key, hendorses, true, hsigned, rfl⟩

/-- **The verifier accepts exactly sound evidence**, and its claims are those of the report and of
the quote. -/
theorem verifyEvidence_eq_ok {claim : Json} :
    verifyEvidence E ev expected initDataHash = .ok claim ↔ ∃ report m pcr,
      Sound ev report expected initDataHash ∧ parseTeeEvidenceAz report = .object m ∧
      (E.vtpm.pcrsSha256 ev.quote)[Vtpm.INITDATA_PCR]? = some pcr ∧
      claim = .object (Vtpm.extendedMembers m (E.vtpm.pcrsSha256 ev.quote) pcr expected) := by
  simp only [verifyEvidence, verifyReportData, verifySnpReport, Vtpm.verifyInitData,
    Outcome.bind_eq_ok, Unique.exists_iff, PUnit.default_eq_unit, Outcome.context_eq_ok,
    Outcome.ofExcept_eq_ok, Outcome.ensure_eq_ok, beq_iff_eq, decide_eq_true_eq,
    Vtpm.verifySignatureOf_eq_ok, Vtpm.verifyNonce_eq_ok, Vtpm.verifyPcrsOf_eq_ok,
    verifyReportSignature_eq_ok, Vtpm.checkInitData_eq_ok]
  constructor
  · rintro ⟨hcl, hhcl, hak, hnonce, hpcrs, report, hreport, hdata, vcek, hvcek, hchain, hvalid,
      ⟨⟨key, hendorses, hsigned⟩, hvmpl⟩, hinit, hclaim⟩
    obtain ⟨pcr, hpcr, rfl⟩ := (Vtpm.extendClaim_eq_ok hnonce).1 hclaim
    exact ⟨report, _, pcr, ⟨⟨hcl, hhcl, hak, hreport, hdata.symm⟩, hnonce, hpcrs,
      ⟨hchain, vcek, key, hvcek, hvalid, hendorses, hsigned⟩, hvmpl, hinit⟩, rfl, hpcr, rfl⟩
  · rintro ⟨report, m, pcr, ⟨⟨hcl, hhcl, hak, hreport, hdata⟩, hnonce, hpcrs,
      ⟨hchain, vcek, key, hvcek, hvalid, hendorses, hsigned⟩, hvmpl, hinit⟩, hm, hpcr, rfl⟩
    refine ⟨hcl, hhcl, hak, hnonce, hpcrs, report, hreport, hdata.symm, vcek, hvcek, hchain, hvalid,
      ⟨⟨key, hendorses, hsigned⟩, hvmpl⟩, hinit, ?_⟩
    rw [hm]
    exact (Vtpm.extendClaim_eq_ok hnonce).2 ⟨pcr, hpcr, rfl⟩

end AzSnpVtpm

/-! ## Azure TDX -/

namespace AzTdxVtpm

open Tdx (CustomClaims parseTdxQuote)

variable {E : Env} {ev : Evidence E} {expected : Bytes} {initDataHash : InitDataHash}

/-- What accepted evidence is worth: the quote of the TD is verified, and it has the hash of the HCL
report's data. -/
structure Sound (ev : Evidence E) (custom : CustomClaims) (quote : Tdx.Quote) (expected : Bytes)
    (initDataHash : InitDataHash) : Prop where
  hcl : ∃ hcl, E.vtpm.hclReport ev.hclReport = .ok hcl ∧ Vtpm.SignedByAk ev.tpmQuote hcl ∧
    quote.reportData.take 32 = E.vtpm.varDataSha256 hcl
  nonce : E.vtpm.NonceIs ev.tpmQuote expected
  pcrs : E.vtpm.verifyPcrs ev.tpmQuote = .ok ()
  verification : E.ecdsaQuoteVerification ev.tdQuote = .ok custom
  parse : parseTdxQuote ev.tdQuote = .ok quote
  initData : Vtpm.InitDataIs ev.tpmQuote initDataHash

/-- **The verifier accepts exactly sound evidence**, and its claims are those of the TD, of the quote
of the TPM and of the verification. -/
theorem verifyEvidence_eq_ok {claim : Json} :
    verifyEvidence E ev expected initDataHash = .ok claim ↔ ∃ custom quote m pcr,
      Sound ev custom quote expected initDataHash ∧
      Tdx.generateParsedClaim (E := E.tdx) quote none = .ok (.object m) ∧
      (E.vtpm.pcrsSha256 ev.tpmQuote)[Vtpm.INITDATA_PCR]? = some pcr ∧
      claim = .object ((Vtpm.extendedMembers m (E.vtpm.pcrsSha256 ev.tpmQuote) pcr
        expected).extend custom.map) := by
  simp only [verifyEvidence, verifyHclVarData, Vtpm.verifyInitData, Outcome.bind_eq_ok,
    Unique.exists_iff, PUnit.default_eq_unit, Outcome.ofExcept_eq_ok, Outcome.ensure_eq_ok,
    beq_iff_eq, Vtpm.verifySignatureOf_eq_ok, Vtpm.verifyNonce_eq_ok, Vtpm.verifyPcrsOf_eq_ok,
    Vtpm.checkInitData_eq_ok]
  constructor
  · rintro ⟨hcl, hhcl, hak, hnonce, hpcrs, custom, hcustom, quote, hquote, hdata, hinit, parsed,
      hparsed, extended, hextended, hclaim⟩
    obtain ⟨m, rfl⟩ := Vtpm.exists_object_of_extendClaim hextended
    obtain ⟨pcr, hpcr, rfl⟩ := (Vtpm.extendClaim_eq_ok hnonce).1 hextended
    cases hclaim
    exact ⟨custom, quote, m, pcr, ⟨⟨hcl, hhcl, hak, hdata.symm⟩, hnonce, hpcrs, hcustom, hquote,
      hinit⟩, hparsed, hpcr, rfl⟩
  · rintro ⟨custom, quote, m, pcr, ⟨⟨hcl, hhcl, hak, hdata⟩, hnonce, hpcrs, hcustom, hquote, hinit⟩,
      hparsed, hpcr, rfl⟩
    exact ⟨hcl, hhcl, hak, hnonce, hpcrs, custom, hcustom, quote, hquote, hdata.symm, hinit, _,
      hparsed, _, (Vtpm.extendClaim_eq_ok hnonce).2 ⟨pcr, hpcr, rfl⟩, rfl⟩

end AzTdxVtpm

/-! ## TPM -/

namespace Tpm

variable {T : Vtpm} {trustedAkHashes : List Bytes} {evidence : Json} {reportData : ReportData}
  {initDataHash : InitDataHash}

/-- What accepted evidence is worth: its key is a trusted one, and signs the quote. -/
structure Sound (T : Vtpm) (trustedAkHashes : List Bytes) (ev : Evidence) (quote : T.Quote)
    (reportData : ReportData) (initDataHash : InitDataHash) : Prop where
  parse : toQuote T ev.tpmQuote = .ok quote
  key : ∃ der key, decodeBase64 ev.akPublic = .ok der ∧ T.sha256 der ∈ trustedAkHashes ∧
    T.publicKeyFromDer der = .ok key ∧ T.verifySignature quote key = .ok ()
  pcrs : T.verifyPcrs quote = .ok ()
  nonce : ∀ expected, reportData = .value expected →
    T.NonceIs quote (regularizeData expected TPM_REPORT_DATA_SIZE)
  initData : Vtpm.InitDataIs quote initDataHash

theorem verifyNonce_eq_ok {quote : T.Quote} : verifyNonce T quote reportData = .ok () ↔
    ∀ expected, reportData = .value expected →
      T.NonceIs quote (regularizeData expected TPM_REPORT_DATA_SIZE) := by
  cases reportData with
  | notProvided =>
    refine iff_of_true rfl ?_
    intro expected h
    cases h
  | value expected =>
    constructor
    · rintro h _ ⟨⟩
      exact Vtpm.verifyNonce_eq_ok.1 h
    · intro h
      exact Vtpm.verifyNonce_eq_ok.2 (h expected rfl)

theorem verifySignature_eq_ok {quote : T.Quote} {akPublic : String} :
    verifySignature T quote akPublic = .ok () ↔ ∃ der key, decodeBase64 akPublic = .ok der ∧
      T.publicKeyFromDer der = .ok key ∧ T.verifySignature quote key = .ok () := by
  simp only [verifySignature, Outcome.bind_eq_ok, Outcome.context_eq_ok, Outcome.ofExcept_eq_ok]
  constructor
  · rintro ⟨der, hder, key, hkey, hsigned⟩
    exact ⟨der, key, hder, hkey, hsigned⟩
  · rintro ⟨der, key, hder, hkey, hsigned⟩
    exact ⟨der, hder, key, hkey, hsigned⟩

/-- **The verifier accepts exactly sound evidence**, and its claims are those of the quote. -/
theorem evaluate_eq_ok {claims : Claims} :
    evaluate T trustedAkHashes evidence reportData initDataHash = .ok claims ↔ ∃ ev quote pcr,
      Evidence.fromValue evidence = .ok ev ∧
      Sound T trustedAkHashes ev quote reportData initDataHash ∧
      (T.pcrsSha256 quote)[Vtpm.INITDATA_PCR]? = some pcr ∧
      claims = [(.object (Json.Map.extend (Json.Map.ofList
        [("init_data", .string (hexEncode pcr)),
         ("report_data", .string (hexEncode (nonceOrDefault T quote)))])
        (Vtpm.pcrClaims (T.pcrsSha256 quote))), "cpu")] := by
  simp only [evaluate, parseTeeEvidence, verifyInitData, Outcome.bind_eq_ok, Unique.exists_iff,
    PUnit.default_eq_unit, Outcome.context_eq_ok, Outcome.ofExcept_eq_ok, Outcome.ensure_eq_ok,
    List.contains_iff_mem, verifySignature_eq_ok, Vtpm.verifyPcrsOf_eq_ok, verifyNonce_eq_ok,
    Vtpm.checkInitData_eq_ok, Vtpm.initDataPcr_eq_ok, Outcome.pure_eq, Outcome.ok.injEq]
  constructor
  · rintro ⟨ev, hev, quote, hquote, der, hder, htrusted, ⟨der', key, hder', hkey, hsigned⟩, hpcrs,
      hnonce, hinit, _, ⟨pcr, hpcr, rfl⟩, rfl⟩
    obtain rfl : der = der' := Outcome.ok.inj (hder.symm.trans hder')
    exact ⟨ev, quote, pcr, hev, ⟨hquote, ⟨der, key, hder, htrusted, hkey, hsigned⟩, hpcrs, hnonce,
      hinit⟩, hpcr, rfl⟩
  · rintro ⟨ev, quote, pcr, hev, ⟨hquote, ⟨der, key, hder, htrusted, hkey, hsigned⟩, hpcrs, hnonce,
      hinit⟩, hpcr, rfl⟩
    exact ⟨ev, hev, quote, hquote, der, hder, htrusted, ⟨der, key, hder, hkey, hsigned⟩, hpcrs,
      hnonce, hinit, _, ⟨pcr, hpcr, rfl⟩, rfl⟩

end Tpm

end Trustmee
