import Trustmee.Snp.Native
import Trustmee.Tdx.Native

/-!
# The verifiers of TPM quotes

`AzSnpVtpm::evaluate`, `AzTdxVtpm::evaluate` and `TpmVerifier::evaluate` of the `verifier` crate.
The report data is the nonce of a TPM quote, and the init data hash is extended into the eighth PCR.
On Azure the key of the quote is vouched for by the hardware report, whose own report data is the
hash of the variable data with the key; a TPM's key has to be one of the trusted ones.
-/

namespace Trustmee

/-! ## TPM quotes -/

/-- The vTPM crates and what they take from `openssl`. -/
structure Vtpm where
  Quote : Type
  /-- The `Deserialize` of `Quote`. -/
  quoteFromValue : Json → Except String Quote
  /-- A quote from its signature, message and PCRs. -/
  quoteFromParts : Bytes → Bytes → List Bytes → Except String Quote
  /-- `Quote::nonce`. -/
  nonce : Quote → Except String Bytes
  /-- `Quote::pcrs_sha256`. -/
  pcrsSha256 : Quote → List Bytes
  /-- `Quote::verify_pcrs`. -/
  verifyPcrs : Quote → Except String Unit
  PublicKey : Type
  /-- `PKey::public_key_from_der`. -/
  publicKeyFromDer : Bytes → Except String PublicKey
  /-- `Quote::verify_signature`. -/
  verifySignature : Quote → PublicKey → Except String Unit
  HclReport : Type
  /-- `HclReport::new`. -/
  hclReport : Bytes → Except String HclReport
  /-- `HclReport::ak_pub`. -/
  AkPub : Type
  akPub : HclReport → Except String AkPub
  /-- `try_to_der`. -/
  akPubToDer : AkPub → Except String Bytes
  /-- `HclReport::var_data_sha256`. -/
  varDataSha256 : HclReport → Bytes
  /-- The SNP report in an HCL report. -/
  snpReport : HclReport → Except String Snp.AttestationReport
  /-- `openssl::sha::sha256`. -/
  sha256 : Bytes → Bytes
  /-- `Signature::unmarshall`: the bytes of an RSA-SSA signature, or nothing for another kind. -/
  unmarshallSignature : Bytes → Except String (Option Bytes)

namespace Vtpm

variable (T : Vtpm)

def INITDATA_PCR : ℕ := 8

/-- `pcrs[INITDATA_PCR]`. -/
def initDataPcr (pcrs : List Bytes) : Outcome Bytes :=
  match pcrs[INITDATA_PCR]? with
  | some pcr => .ok pcr
  | none => .panic ("index out of bounds: the len is " ++ toString pcrs.length ++
      " but the index is 8")

/-- What the PCR holds after the hash is extended into it: `sha256(0x00 * 32 || hash)`. A hash that
is not as long as the second half of the input is a panic of `copy_from_slice`. -/
def extendedPcr (hash : Bytes) : Outcome Bytes :=
  if hash.length = 32 then .ok (T.sha256 (List.replicate 32 0 ++ hash))
  else .panic ("copy_from_slice: source slice length (" ++ toString hash.length ++
    ") does not match destination slice length (32)")

/-- The check of the init data, with its message. -/
def checkInitData (msg : String) (pcrs : List Bytes) : InitDataHash → Outcome Unit
  | .value hash => do
    let digest ← T.extendedPcr hash
    let pcr ← initDataPcr pcrs
    Outcome.ensure (digest == pcr) msg
  | .notProvided => .ok ()

/-- `format!("pcr{:02}", i)`. -/
def pcrName (i : ℕ) : String := "pcr" ++ (if i < 10 then "0" ++ toString i else toString i)

/-- The claims of the PCRs. -/
def pcrClaims (pcrs : List Bytes) : List (String × Json) :=
  pcrs.zipIdx.map fun p => (pcrName p.2, .string (hexEncode p.1))

/-- `verify_signature` of the Azure verifiers, with its message. -/
def verifySignatureOf (msg : String) (quote : T.Quote) (report : T.HclReport) : Outcome Unit := do
  let akPub ← (Outcome.ofExcept (T.akPub report)).context "Failed to get AKpub"
  let der ← Outcome.ofExcept (T.akPubToDer akPub)
  let key ← (Outcome.ofExcept (T.publicKeyFromDer der)).context "Failed to parse AKpub"
  (Outcome.ofExcept (T.verifySignature quote key)).context msg

/-- `verify_nonce` of the Azure verifiers. -/
def verifyNonce (quote : T.Quote) (reportData : Bytes) : Outcome Unit := do
  let nonce ← Outcome.ofExcept (T.nonce quote)
  Outcome.ensure (nonce == reportData) "TPM quote nonce doesn't match expected report_data"

/-- `verify_pcrs`. -/
def verifyPcrsOf (quote : T.Quote) : Outcome Unit :=
  (Outcome.ofExcept (T.verifyPcrs quote)).context "Digest of PCRs does not match digest in Quote"

/-- `verify_init_data` of the Azure verifiers. -/
def verifyInitData (expected : InitDataHash) (pcrs : List Bytes) : Outcome Unit :=
  T.checkInitData "Expected init_data digest is different from the content of PCR8" pcrs expected

/-- `extend_claim` of the Azure verifiers. -/
def extendClaim (claim : Json) (quote : T.Quote) : Outcome Json :=
  match claim with
  | .object map => do
    let pcrs := T.pcrsSha256 quote
    let map := Json.Map.insert map "tpm" (.object (Json.Map.ofList (pcrClaims pcrs)))
    let pcr ← initDataPcr pcrs
    let map := map.insert "init_data" (.string (hexEncode pcr))
    let nonce ← Outcome.ofExcept (T.nonce quote)
    let map := map.insert "report_data" (.string (hexEncode nonce))
    return .object map
  | _ => .bail "failed to extend the claim, not an object"

/-- The nonce of the quote is the expected report data. -/
def NonceIs (quote : T.Quote) (expected : Bytes) : Prop := T.nonce quote = .ok expected

/-- The PCR of the init data holds what the expected hash extends it to. -/
def PcrIs (quote : T.Quote) (expected : Bytes) : Prop :=
  expected.length = 32 ∧
    (T.pcrsSha256 quote)[INITDATA_PCR]? = some (T.sha256 (List.replicate 32 0 ++ expected))

theorem verifyNonce_eq_ok {T : Vtpm} {quote : T.Quote} {expected : Bytes} :
    T.verifyNonce quote expected = .ok () ↔ T.NonceIs quote expected := by
  simp only [verifyNonce, Outcome.bind_eq_ok, Outcome.ofExcept_eq_ok, Outcome.ensure_eq_ok,
    beq_iff_eq, NonceIs]
  constructor
  · rintro ⟨nonce, h, rfl⟩
    exact h
  · intro h
    exact ⟨expected, h, rfl⟩

theorem checkInitData_value {T : Vtpm} {msg : String} {quote : T.Quote} {expected : Bytes}
    (h : T.checkInitData msg (T.pcrsSha256 quote) (.value expected) = .ok ()) :
    T.PcrIs quote expected := by
  simp only [checkInitData, Outcome.bind_eq_ok, Outcome.ensure_eq_ok, beq_iff_eq] at h
  obtain ⟨digest, hdigest, pcr, hpcr, rfl⟩ := h
  unfold extendedPcr at hdigest
  unfold initDataPcr at hpcr
  split at hdigest
  · next hlen =>
    cases hdigest
    split at hpcr
    · next hget =>
      cases hpcr
      exact ⟨hlen, hget⟩
    · cases hpcr
  · cases hdigest

end Vtpm

/-! ## Azure SEV-SNP -/

namespace AzSnpVtpm

open Snp (AttestationReport)
open Snp.Native

/-- The crates of the verifier. -/
structure Env where
  vtpm : Vtpm
  snp : Snp.Env
  /-- `Vcek::from_pem`. -/
  vcekFromPem : String → Except String snp.Certificate
  /-- `AmdChain::validate`. -/
  validateChain : Snp.VendorCertificates snp.Certificate → Except String Unit
  /-- `Vcek::validate`. -/
  validateVcek : snp.Certificate → Snp.VendorCertificates snp.Certificate → Except String Unit
  /-- The ECDSA verification of a report with the key of a certificate. -/
  verifySignature : snp.Certificate → AttestationReport → Except String Bool

/-- `Evidence`. -/
structure Evidence (E : Env) where
  quote : E.vtpm.Quote
  report : Bytes
  vcek : String

variable (E : Env)

/-- The derived `Deserialize` of `Evidence`. -/
def Evidence.fromValue (v : Json) : Except String (Evidence E) := do
  let m ← Deserialize.fields "Evidence" ["quote", "report", "vcek"] 3 v
  let quote ← Deserialize.required E.vtpm.quoteFromValue m "quote"
  let report ← Deserialize.required (Deserialize.vec Deserialize.u8) m "report"
  let vcek ← Deserialize.required Deserialize.string m "vcek"
  return ⟨quote, report, vcek⟩

/-- `verify_report_data`. -/
def verifyReportData (varDataHash : Bytes) (report : AttestationReport) : Outcome Unit :=
  .ensure (varDataHash == report.reportData.toList.take 32) "SNP report report_data mismatch"

/-- `verify_report_signature`. -/
def verifyReportSignature (report : AttestationReport) (vcek : E.snp.Certificate) :
    Outcome Unit := do
  let der ← Outcome.ofExcept (E.snp.toDer vcek)
  let key ← Outcome.ofExcept (E.snp.parseX509 der)
  let commonName ← (getCommonName vcek).context "No common name found in certificate"
  checkChipId report key commonName
  checkSpl key UCODE_SPL_OID report.reportedTcb.microcode "Microcode version mismatch"
  checkSpl key SNP_SPL_OID report.reportedTcb.snp "SNP version mismatch"
  checkSpl key TEE_SPL_OID report.reportedTcb.tee "TEE version mismatch"
  checkSpl key LOADER_SPL_OID report.reportedTcb.bootloader "Boot loader version mismatch"
  let signed ← Outcome.ofExcept (E.verifySignature vcek report)
  Outcome.ensure signed "Signature validation failed."

/-- `verify_snp_report`. -/
def verifySnpReport (report : AttestationReport) (vcek : E.snp.Certificate) : Outcome Unit := do
  verifyReportSignature E report vcek
  Outcome.ensure (report.vmpl = 0) "VMPL of SNP report is not 0"

/-- `parse_tee_evidence_az`. -/
def parseTeeEvidenceAz (report : AttestationReport) : Json := .object (Json.Map.ofList
  [("policy_abi_major", .string (toString report.policy.abiMajor)),
   ("policy_abi_minor", .string (toString report.policy.abiMinor)),
   ("policy_smt_allowed", .string (toString report.policy.smtAllowed)),
   ("policy_migrate_ma", .string (toString report.policy.migrateMaAllowed)),
   ("policy_debug_allowed", .string (toString report.policy.debugAllowed)),
   ("policy_single_socket", .string (toString report.policy.singleSocketRequired)),
   ("reported_tcb_bootloader", .string (toString report.reportedTcb.bootloader.toNat)),
   ("reported_tcb_tee", .string (toString report.reportedTcb.tee.toNat)),
   ("reported_tcb_snp", .string (toString report.reportedTcb.snp.toNat)),
   ("reported_tcb_microcode", .string (toString report.reportedTcb.microcode.toNat)),
   ("platform_tsme_enabled", .string (toString report.platInfo.tsmeEnabled)),
   ("platform_smt_enabled", .string (toString report.platInfo.smtEnabled)),
   ("measurement", .string (Base64.encode report.measurement.toList)),
   ("report_data", .string (Base64.encode report.reportData.toList)),
   ("init_data", .string (Base64.encode report.hostData.toList))])

/-- `AzSnpVtpm::evaluate`, with the report data that has to be there. -/
def verifyEvidence (evidence : Evidence E) (expectedReportData : Bytes)
    (expectedInitDataHash : InitDataHash) : Outcome Json := do
  let hclReport ← Outcome.ofExcept (E.vtpm.hclReport evidence.report)
  E.vtpm.verifySignatureOf "vTPM quote is not signed by AKpub" evidence.quote hclReport
  E.vtpm.verifyNonce evidence.quote expectedReportData
  E.vtpm.verifyPcrsOf evidence.quote
  let varDataHash := E.vtpm.varDataSha256 hclReport
  let snpReport ← Outcome.ofExcept (E.vtpm.snpReport hclReport)
  verifyReportData varDataHash snpReport
  let vcek ← Outcome.ofExcept (E.vcekFromPem evidence.vcek)
  (Outcome.ofExcept (E.validateChain (E.snp.vendorCerts .Milan))).context
    "Failed to validate CA chain"
  (Outcome.ofExcept (E.validateVcek vcek (E.snp.vendorCerts .Milan))).context
    "Failed to validate VCEK"
  verifySnpReport E snpReport vcek
  E.vtpm.verifyInitData expectedInitDataHash (E.vtpm.pcrsSha256 evidence.quote)
  E.vtpm.extendClaim (parseTeeEvidenceAz snpReport) evidence.quote

/-- `AzSnpVtpm::evaluate`. -/
def evaluate (evidence : Json) (expectedReportData : ReportData)
    (expectedInitDataHash : InitDataHash) : Outcome Claims :=
  match expectedReportData with
  | .value expectedReportData => do
    let evidence ← (Outcome.ofExcept (Evidence.fromValue E evidence)).context
      "Failed to deserialize Azure vTPM SEV-SNP evidence"
    let claim ← verifyEvidence E evidence expectedReportData expectedInitDataHash
    return [(claim, "cpu")]
  | .notProvided => .bail "unexpected empty report data"

/-- The nonce of the quote is the expected report data. -/
def ReportDataBound (evidence : Json) (expected : Bytes) : Prop :=
  ∃ ev, Evidence.fromValue E evidence = .ok ev ∧ E.vtpm.NonceIs ev.quote expected

/-- The PCR of the init data holds what the expected hash extends it to. -/
def InitDataBound (evidence : Json) (expected : Bytes) : Prop :=
  ∃ ev, Evidence.fromValue E evidence = .ok ev ∧ E.vtpm.PcrIs ev.quote expected

/-- What was checked on accepted evidence. -/
theorem evaluate_checks {evidence : Json} {reportData : ReportData} {initDataHash : InitDataHash}
    {claims : Claims} (h : evaluate E evidence reportData initDataHash = .ok claims) :
    ∃ ev expected, Evidence.fromValue E evidence = .ok ev ∧ reportData = .value expected ∧
      E.vtpm.verifyNonce ev.quote expected = .ok () ∧
      E.vtpm.verifyInitData initDataHash (E.vtpm.pcrsSha256 ev.quote) = .ok () := by
  unfold evaluate at h
  split at h
  · next expected =>
    simp only [verifyEvidence, Outcome.bind_eq_ok, Outcome.context_eq_ok,
      Outcome.ofExcept_eq_ok] at h
    obtain ⟨ev, hev, -, ⟨_, -, _, -, _, hnonce, _, -, _, -, _, -, _, -, _, -, _, -, _, -, _, hinit,
      -⟩, -⟩ := h
    exact ⟨ev, expected, hev, rfl, hnonce, hinit⟩
  · exact absurd h Outcome.bail_ne_ok

/-- The Azure SNP verifier compares the report data. -/
theorem evaluate_bindsReportData : BindsReportData (evaluate E) (ReportDataBound E) := by
  intro evidence expected initDataHash claims h _
  obtain ⟨ev, _, hev, heq, hnonce, -⟩ := evaluate_checks E h
  cases heq
  exact ⟨ev, hev, Vtpm.verifyNonce_eq_ok.1 hnonce⟩

/-- The Azure SNP verifier compares the init data hash. -/
theorem evaluate_bindsInitData : BindsInitData (evaluate E) (InitDataBound E) := by
  intro evidence reportData expected claims h _
  obtain ⟨ev, -, hev, -, -, hinit⟩ := evaluate_checks E h
  exact ⟨ev, hev, Vtpm.checkInitData_value hinit⟩

/-- One piece of claims comes from accepted evidence. -/
theorem evaluate_givesOne : GivesOne (evaluate E) "cpu" := by
  intro evidence reportData initDataHash
  cases reportData with
  | value expected => exact .bind fun _ _ => .bind fun _ _ => .ok ⟨_, rfl⟩
  | notProvided => exact .bail

end AzSnpVtpm

/-! ## Azure TDX -/

namespace AzTdxVtpm

open Tdx (CustomClaims parseTdxQuote)

/-- The crates of the verifier. -/
structure Env where
  vtpm : Vtpm
  tdx : Tdx.Env
  /-- `ecdsa_quote_verification`. -/
  ecdsaQuoteVerification : Bytes → Outcome CustomClaims

/-- `Evidence`. -/
structure Evidence (E : Env) where
  tpmQuote : E.vtpm.Quote
  hclReport : Bytes
  tdQuote : Bytes

variable (E : Env)

/-- The derived `Deserialize` of `Evidence`. -/
def Evidence.fromValue (v : Json) : Except String (Evidence E) := do
  let m ← Deserialize.fields "Evidence" ["tpm_quote", "hcl_report", "td_quote"] 3 v
  let tpmQuote ← Deserialize.required E.vtpm.quoteFromValue m "tpm_quote"
  let hclReport ← Deserialize.required (Deserialize.vec Deserialize.u8) m "hcl_report"
  let tdQuote ← Deserialize.required (Deserialize.vec Deserialize.u8) m "td_quote"
  return ⟨tpmQuote, hclReport, tdQuote⟩

/-- `verify_hcl_var_data`. -/
def verifyHclVarData (hclReport : E.vtpm.HclReport) (tdQuote : Tdx.Quote) : Outcome Unit :=
  .ensure (E.vtpm.varDataSha256 hclReport == tdQuote.reportData.take 32)
    "TDX Quote report data mismatch"

/-- `AzTdxVtpm::evaluate`, with the report data that has to be there. -/
def verifyEvidence (evidence : Evidence E) (expectedReportData : Bytes)
    (expectedInitDataHash : InitDataHash) : Outcome Json := do
  let hclReport ← Outcome.ofExcept (E.vtpm.hclReport evidence.hclReport)
  E.vtpm.verifySignatureOf "Failed to verify vTPM quote" evidence.tpmQuote hclReport
  E.vtpm.verifyNonce evidence.tpmQuote expectedReportData
  E.vtpm.verifyPcrsOf evidence.tpmQuote
  let customClaims ← E.ecdsaQuoteVerification evidence.tdQuote
  let tdQuote ← parseTdxQuote evidence.tdQuote
  verifyHclVarData E hclReport tdQuote
  E.vtpm.verifyInitData expectedInitDataHash (E.vtpm.pcrsSha256 evidence.tpmQuote)
  let claim ← Tdx.generateParsedClaim (E := E.tdx) tdQuote none
  let claim ← E.vtpm.extendClaim claim evidence.tpmQuote
  Tdx.Native.extendUsingCustomClaims claim customClaims

/-- `AzTdxVtpm::evaluate`. -/
def evaluate (evidence : Json) (expectedReportData : ReportData)
    (expectedInitDataHash : InitDataHash) : Outcome Claims :=
  match expectedReportData with
  | .value expectedReportData => do
    let evidence ← (Outcome.ofExcept (Evidence.fromValue E evidence)).context
      "Failed to deserialize Azure vTPM TDX evidence"
    let claim ← verifyEvidence E evidence expectedReportData expectedInitDataHash
    return [(claim, "cpu")]
  | .notProvided => .bail "unexpected empty report data"

/-- The nonce of the quote is the expected report data. -/
def ReportDataBound (evidence : Json) (expected : Bytes) : Prop :=
  ∃ ev, Evidence.fromValue E evidence = .ok ev ∧ E.vtpm.NonceIs ev.tpmQuote expected

/-- The PCR of the init data holds what the expected hash extends it to. -/
def InitDataBound (evidence : Json) (expected : Bytes) : Prop :=
  ∃ ev, Evidence.fromValue E evidence = .ok ev ∧ E.vtpm.PcrIs ev.tpmQuote expected

/-- What was checked on accepted evidence. -/
theorem evaluate_checks {evidence : Json} {reportData : ReportData} {initDataHash : InitDataHash}
    {claims : Claims} (h : evaluate E evidence reportData initDataHash = .ok claims) :
    ∃ ev expected, Evidence.fromValue E evidence = .ok ev ∧ reportData = .value expected ∧
      E.vtpm.verifyNonce ev.tpmQuote expected = .ok () ∧
      E.vtpm.verifyInitData initDataHash (E.vtpm.pcrsSha256 ev.tpmQuote) = .ok () := by
  unfold evaluate at h
  split at h
  · next expected =>
    simp only [verifyEvidence, Outcome.bind_eq_ok, Outcome.context_eq_ok,
      Outcome.ofExcept_eq_ok] at h
    obtain ⟨ev, hev, -, ⟨_, -, _, -, _, hnonce, _, -, _, -, _, -, _, -, _, hinit, -⟩, -⟩ := h
    exact ⟨ev, expected, hev, rfl, hnonce, hinit⟩
  · exact absurd h Outcome.bail_ne_ok

/-- The Azure TDX verifier compares the report data. -/
theorem evaluate_bindsReportData : BindsReportData (evaluate E) (ReportDataBound E) := by
  intro evidence expected initDataHash claims h _
  obtain ⟨ev, _, hev, heq, hnonce, -⟩ := evaluate_checks E h
  cases heq
  exact ⟨ev, hev, Vtpm.verifyNonce_eq_ok.1 hnonce⟩

/-- The Azure TDX verifier compares the init data hash. -/
theorem evaluate_bindsInitData : BindsInitData (evaluate E) (InitDataBound E) := by
  intro evidence reportData expected claims h _
  obtain ⟨ev, -, hev, -, -, hinit⟩ := evaluate_checks E h
  exact ⟨ev, hev, Vtpm.checkInitData_value hinit⟩

/-- One piece of claims comes from accepted evidence. -/
theorem evaluate_givesOne : GivesOne (evaluate E) "cpu" := by
  intro evidence reportData initDataHash
  cases reportData with
  | value expected => exact .bind fun _ _ => .bind fun _ _ => .ok ⟨_, rfl⟩
  | notProvided => exact .bail

end AzTdxVtpm

/-! ## TPM -/

namespace Tpm

/-- The fields of the quote that a TPM attester sends. -/
structure Quote where
  signature : String
  message : String
  pcrs : List String

/-- `Evidence`. -/
structure Evidence where
  akPublic : String
  tpmQuote : Quote

def Quote.fromValue (v : Json) : Except String Quote := do
  let m ← Deserialize.fields "Quote" ["signature", "message", "pcrs"] 3 v
  let signature ← Deserialize.required Deserialize.string m "signature"
  let message ← Deserialize.required Deserialize.string m "message"
  let pcrs ← Deserialize.required (Deserialize.vec Deserialize.string) m "pcrs"
  return ⟨signature, message, pcrs⟩

/-- The derived `Deserialize` of `Evidence`. -/
def Evidence.fromValue (v : Json) : Except String Evidence := do
  let m ← Deserialize.fields "Evidence" ["ak_public", "tpm_quote"] 2 v
  let akPublic ← Deserialize.required Deserialize.string m "ak_public"
  let tpmQuote ← Deserialize.required Quote.fromValue m "tpm_quote"
  return ⟨akPublic, tpmQuote⟩

variable (T : Vtpm)

/-- `extract_raw_signature_bytes`. -/
def extractRawSignatureBytes (quote : Quote) : Outcome Bytes := do
  let signatureMarshalled ← (decodeBase64 quote.signature).context
    "Failed to decode signature from base64"
  let tssSignature ← (Outcome.ofExcept (T.unmarshallSignature signatureMarshalled)).context
    "Failed to unmarshal TSS signature"
  .okOr tssSignature "Unsupported signature type, expected RSA-SSA"

/-- One PCR of `parse_pcr_values`. -/
def parsePcrValue (pcr : String) : Outcome Bytes := do
  Outcome.ensure (pcr.utf8ByteSize = 64)
    ("PCR should be 64 hex characters (32 bytes), got " ++ toString pcr.utf8ByteSize)
  let pcrBytes ← (Outcome.okOr (hexDecode pcr) "Invalid character").context
    ("Failed to decode PCR from hex: " ++ pcr)
  Outcome.ensure (pcrBytes.length = 32)
    ("PCR should be exactly 32 bytes, got " ++ toString pcrBytes.length)
  return pcrBytes

/-- `parse_pcr_values`. -/
def parsePcrValues : List String → Outcome (List Bytes)
  | [] => .ok []
  | pcr :: pcrs => do
    let pcr ← parsePcrValue pcr
    let pcrs ← parsePcrValues pcrs
    return pcr :: pcrs

/-- `Quote::to_quote`. -/
def toQuote (quote : Quote) : Outcome T.Quote := do
  let rawSignatureBytes ← extractRawSignatureBytes T quote
  let message ← (decodeBase64 quote.message).context "Failed to decode message from base64"
  let pcrs ← parsePcrValues quote.pcrs
  (Outcome.ofExcept (T.quoteFromParts rawSignatureBytes message pcrs)).context
    "Failed to construct Quote from parsed data"

/-- `verify_signature`. -/
def verifySignature (quote : T.Quote) (akPublic : String) : Outcome Unit := do
  let pubBytes ← (decodeBase64 akPublic).context "Base64 decode of AK public failed"
  let akPub ← (Outcome.ofExcept (T.publicKeyFromDer pubBytes)).context
    "Failed to parse AK public key"
  (Outcome.ofExcept (T.verifySignature quote akPub)).context
    "TPM quote signature verification failed"

def TPM_REPORT_DATA_SIZE : ℕ := 32

/-- `verify_nonce`, where the expected value is resized as the attester does. -/
def verifyNonce (quote : T.Quote) : ReportData → Outcome Unit
  | .value expected => do
    let nonce ← Outcome.ofExcept (T.nonce quote)
    Outcome.ensure (nonce == regularizeData expected TPM_REPORT_DATA_SIZE)
      "TPM quote nonce doesn't match expected report_data"
  | .notProvided => .ok ()

/-- `verify_init_data`. -/
def verifyInitData (expected : InitDataHash) (quote : T.Quote) : Outcome Unit :=
  T.checkInitData "TPM PCR[8] doesn't match expected initdata hash" (T.pcrsSha256 quote) expected

/-- `quote.nonce().unwrap_or_default()`. -/
def nonceOrDefault (quote : T.Quote) : Bytes :=
  match T.nonce quote with
  | .ok nonce => nonce
  | .error _ => []

/-- `parse_tee_evidence` and `extend_claim`. -/
def parseTeeEvidence (quote : T.Quote) : Outcome Json.Map := do
  let pcr ← Vtpm.initDataPcr (T.pcrsSha256 quote)
  let claims := Json.Map.ofList
    [("init_data", .string (hexEncode pcr)),
     ("report_data", .string (hexEncode (nonceOrDefault T quote)))]
  return claims.extend (Vtpm.pcrClaims (T.pcrsSha256 quote))

/-- `TpmVerifier::evaluate`, with the hashes of the trusted keys. -/
def evaluate (trustedAkHashes : List Bytes) (evidence : Json) (expectedReportData : ReportData)
    (expectedInitDataHash : InitDataHash) : Outcome Claims := do
  let guestEv ← (Outcome.ofExcept (Evidence.fromValue evidence)).context
    "Failed to deserialize TPM Evidence"
  let quote ← (toQuote T guestEv.tpmQuote).context "Failed to convert quote from string format"
  let akPublicBytes ← decodeBase64 guestEv.akPublic
  Outcome.ensure (trustedAkHashes.contains (T.sha256 akPublicBytes))
    "The provided AK public key is not in the list of trusted keys"
  verifySignature T quote guestEv.akPublic
  T.verifyPcrsOf quote
  verifyNonce T quote expectedReportData
  verifyInitData T expectedInitDataHash quote
  let claims ← parseTeeEvidence T quote
  return [(.object claims, "cpu")]

/-- The quote of the evidence. -/
def QuoteOf (evidence : Json) (quote : T.Quote) : Prop :=
  ∃ ev, Evidence.fromValue evidence = .ok ev ∧ toQuote T ev.tpmQuote = .ok quote

/-- The nonce of the quote is the expected report data, brought to its length. -/
def ReportDataBound (evidence : Json) (expected : Bytes) : Prop :=
  ∃ quote, QuoteOf T evidence quote ∧ T.NonceIs quote (regularizeData expected 32)

/-- The PCR of the init data holds what the expected hash extends it to. -/
def InitDataBound (evidence : Json) (expected : Bytes) : Prop :=
  ∃ quote, QuoteOf T evidence quote ∧ T.PcrIs quote expected

/-- What was checked on accepted evidence. -/
theorem evaluate_checks {trustedAkHashes : List Bytes} {evidence : Json} {reportData : ReportData}
    {initDataHash : InitDataHash} {claims : Claims}
    (h : evaluate T trustedAkHashes evidence reportData initDataHash = .ok claims) :
    ∃ quote, QuoteOf T evidence quote ∧ verifyNonce T quote reportData = .ok () ∧
      verifyInitData T initDataHash quote = .ok () := by
  simp only [evaluate, Outcome.bind_eq_ok, Outcome.context_eq_ok, Outcome.ofExcept_eq_ok] at h
  obtain ⟨ev, hev, quote, hquote, _, -, _, -, _, -, _, -, _, hnonce, _, hinit, -⟩ := h
  exact ⟨quote, ⟨ev, hev, hquote⟩, hnonce, hinit⟩

/-- The TPM verifier compares the report data. -/
theorem evaluate_bindsReportData (trustedAkHashes : List Bytes) :
    BindsReportData (evaluate T trustedAkHashes) (ReportDataBound T) := by
  intro evidence expected initDataHash claims h _
  obtain ⟨quote, hquote, hnonce, -⟩ := evaluate_checks T h
  exact ⟨quote, hquote, Vtpm.verifyNonce_eq_ok.1 hnonce⟩

/-- The TPM verifier compares the init data hash. -/
theorem evaluate_bindsInitData (trustedAkHashes : List Bytes) :
    BindsInitData (evaluate T trustedAkHashes) (InitDataBound T) := by
  intro evidence reportData expected claims h _
  obtain ⟨quote, hquote, -, hinit⟩ := evaluate_checks T h
  exact ⟨quote, hquote, Vtpm.checkInitData_value hinit⟩

/-- One piece of claims comes from accepted evidence. -/
theorem evaluate_givesOne (trustedAkHashes : List Bytes) :
    GivesOne (evaluate T trustedAkHashes) "cpu" := by
  intro evidence reportData initDataHash
  exact .bind fun _ _ => .bind fun _ _ => .bind fun _ _ => .bind fun _ _ => .bind fun _ _ =>
    .bind fun _ _ => .bind fun _ _ => .bind fun _ _ => .bind fun _ _ => .ok ⟨_, rfl⟩

end Tpm

end Trustmee
