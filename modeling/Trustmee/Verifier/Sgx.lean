import Trustmee.Tdx.Native

/-!
# The SGX verifier

`SgxVerifier::evaluate` of the `verifier` crate. The DCAP library verifies the quote, and the report
data and the init data hash are compared with the report data and the `CONFIGID` of its body.
-/

namespace Trustmee.Sgx

open Tdx (CustomClaims field hexClaim)

/-- `SgxEvidence`. -/
structure SgxEvidence where
  quote : String

/-- The derived `Deserialize`. -/
def SgxEvidence.fromValue (v : Json) : Except String SgxEvidence := do
  let m ← Deserialize.fields "SgxEvidence" ["quote"] 1 v
  let quote ← Deserialize.required Deserialize.string m "quote"
  return ⟨quote⟩

/-! ## Quotes -/

def QUOTE_SIZE : ℕ := 436

/-- `sgx_quote_header_t`. -/
structure QuoteHeader where
  version : Bytes
  attKeyType : Bytes
  attKeyData0 : Bytes
  qeSvn : Bytes
  pceSvn : Bytes
  vendorId : Bytes
  userData : Bytes

/-- `sgx_report_body_t`. -/
structure ReportBody where
  cpuSvn : Bytes
  miscSelect : Bytes
  reserved1 : Bytes
  isvExtProdId : Bytes
  attributesFlags : Bytes
  attributesXfrm : Bytes
  mrEnclave : Bytes
  reserved2 : Bytes
  mrSigner : Bytes
  reserved3 : Bytes
  configId : Bytes
  isvProdId : Bytes
  isvSvn : Bytes
  configSvn : Bytes
  reserved4 : Bytes
  isvFamilyId : Bytes
  reportData : Bytes

/-- `sgx_quote3_t`. -/
structure Quote where
  header : QuoteHeader
  reportBody : ReportBody

def parseHeader (b : Bytes) : QuoteHeader where
  version := field b 0 2
  attKeyType := field b 2 2
  attKeyData0 := field b 4 4
  qeSvn := field b 8 2
  pceSvn := field b 10 2
  vendorId := field b 12 16
  userData := field b 28 20

def parseBody (b : Bytes) : ReportBody where
  cpuSvn := field b 0 16
  miscSelect := field b 16 4
  reserved1 := field b 20 12
  isvExtProdId := field b 32 16
  attributesFlags := field b 48 8
  attributesXfrm := field b 56 8
  mrEnclave := field b 64 32
  reserved2 := field b 96 32
  mrSigner := field b 128 32
  reserved3 := field b 160 32
  configId := field b 192 64
  isvProdId := field b 256 2
  isvSvn := field b 258 2
  configSvn := field b 260 2
  reserved4 := field b 262 42
  isvFamilyId := field b 304 16
  reportData := field b 320 64

/-- `parse_sgx_quote`. The slice has the size of the structure, so that reading it never fails. -/
def parseSgxQuote (quote : Bytes) : Outcome Quote := do
  let quoteBody ← Tdx.slice quote 0 QUOTE_SIZE
  return ⟨parseHeader quoteBody, parseBody (field quoteBody 48 384)⟩

/-! ## Claims -/

def headerClaims (header : QuoteHeader) : Json.Map := .ofList
  [hexClaim "version" header.version,
   hexClaim "att_key_type" header.attKeyType,
   hexClaim "att_key_data_0" header.attKeyData0,
   hexClaim "qe_svn" header.qeSvn,
   hexClaim "pce_svn" header.pceSvn,
   hexClaim "vendor_id" header.vendorId,
   hexClaim "user_data" header.userData]

def bodyClaims (body : ReportBody) : Json.Map := .ofList
  [hexClaim "cpu_svn" body.cpuSvn,
   hexClaim "misc_select" body.miscSelect,
   hexClaim "reserved1" body.reserved1,
   hexClaim "isv_ext_prod_id" body.isvExtProdId,
   hexClaim "attributes.flags" body.attributesFlags,
   hexClaim "attributes.xfrm" body.attributesXfrm,
   hexClaim "mr_enclave" body.mrEnclave,
   hexClaim "reserved2" body.reserved2,
   hexClaim "mr_signer" body.mrSigner,
   hexClaim "reserved3" body.reserved3,
   hexClaim "config_id" body.configId,
   hexClaim "isv_prod_id" body.isvProdId,
   hexClaim "isv_svn" body.isvSvn,
   hexClaim "config_svn" body.configSvn,
   hexClaim "reserved4" body.reserved4,
   hexClaim "isv_family_id" body.isvFamilyId,
   hexClaim "report_data" body.reportData]

/-- `generate_parsed_claims`. -/
def generateParsedClaims (quote : Quote) : Json := .object (Json.Map.ofList
  [("header", .object (headerClaims quote.header)),
   ("body", .object (bodyClaims quote.reportBody)),
   hexClaim "report_data" quote.reportBody.reportData,
   hexClaim "init_data" quote.reportBody.configId])

/-! ## The evaluation -/

/-- The binding of the report data. -/
def checkReportData (quote : Quote) : ReportData → Outcome Unit
  | .value expected =>
    .ensure (regularizeData expected 64 == quote.reportBody.reportData)
      "REPORT_DATA is different from that in SGX Quote"
  | .notProvided => .ok ()

/-- The binding of the init data. -/
def checkConfigId (quote : Quote) : InitDataHash → Outcome Unit
  | .value expected =>
    .ensure (regularizeData expected 64 == quote.reportBody.configId)
      "CONFIGID is different from that in SGX Quote"
  | .notProvided => .ok ()

variable (ecdsaQuoteVerification : Bytes → Outcome CustomClaims)

/-- `verify_evidence`. -/
def verifyEvidence (expectedReportData : ReportData) (expectedInitDataHash : InitDataHash)
    (evidence : SgxEvidence) : Outcome Json := do
  Outcome.ensure (evidence.quote ≠ "") "SGX Quote is empty."
  let quoteBin ← decodeBase64 evidence.quote
  let customClaims ← (ecdsaQuoteVerification quoteBin).context
    "Evidence's identity verification error."
  let quote ← parseSgxQuote quoteBin
  checkReportData quote expectedReportData
  checkConfigId quote expectedInitDataHash
  Tdx.Native.extendUsingCustomClaims (generateParsedClaims quote) customClaims

/-- `SgxVerifier::evaluate`. -/
def evaluate (evidence : Json) (expectedReportData : ReportData)
    (expectedInitDataHash : InitDataHash) : Outcome Claims := do
  let teeEvidence ← (Outcome.ofExcept (SgxEvidence.fromValue evidence)).context
    "Deserialize Quote failed."
  let claims ← (verifyEvidence ecdsaQuoteVerification expectedReportData expectedInitDataHash
    teeEvidence).mapErr fun e => ["SGX Verifier: " ++ e.debug]
  return [(claims, "cpu")]

/-! ## What the claims mean -/

/-- The quote of the evidence. -/
def QuoteOf (evidence : Json) (quote : Quote) : Prop :=
  ∃ ev quoteBin, SgxEvidence.fromValue evidence = .ok ev ∧ Base64.decode ev.quote = some quoteBin ∧
    parseSgxQuote quoteBin = .ok quote

/-- The report data of the quote is the expected one, brought to its length. -/
def ReportDataBound (evidence : Json) (expected : Bytes) : Prop :=
  ∃ quote, QuoteOf evidence quote ∧ regularizeData expected 64 = quote.reportBody.reportData

/-- The `CONFIGID` of the quote is the expected hash, brought to its length. -/
def InitDataBound (evidence : Json) (expected : Bytes) : Prop :=
  ∃ quote, QuoteOf evidence quote ∧ regularizeData expected 64 = quote.reportBody.configId

/-- What was checked on accepted evidence. -/
theorem evaluate_checks {evidence : Json} {reportData : ReportData} {initDataHash : InitDataHash}
    {claims : Claims}
    (h : evaluate ecdsaQuoteVerification evidence reportData initDataHash = .ok claims) :
    ∃ quote, QuoteOf evidence quote ∧ checkReportData quote reportData = .ok () ∧
      checkConfigId quote initDataHash = .ok () := by
  simp only [evaluate, verifyEvidence, Outcome.bind_eq_ok, Outcome.context_eq_ok,
    Outcome.mapErr_eq_ok, Outcome.ofExcept_eq_ok, decodeBase64_eq_ok] at h
  obtain ⟨ev, hev, -, ⟨_, -, quoteBin, hbin, -, -, quote, hquote, _, hreport, _, hinit, -⟩, -⟩ := h
  exact ⟨quote, ⟨ev, quoteBin, hev, hbin, hquote⟩, hreport, hinit⟩

/-- The SGX verifier compares the report data. -/
theorem evaluate_bindsReportData :
    BindsReportData (evaluate ecdsaQuoteVerification) ReportDataBound := by
  intro evidence expected initDataHash claims h _
  obtain ⟨quote, hquote, hcheck, -⟩ := evaluate_checks _ h
  exact ⟨quote, hquote, by simpa [checkReportData] using hcheck⟩

/-- The SGX verifier compares the init data hash. -/
theorem evaluate_bindsInitData :
    BindsInitData (evaluate ecdsaQuoteVerification) InitDataBound := by
  intro evidence reportData expected claims h _
  obtain ⟨quote, hquote, -, hcheck⟩ := evaluate_checks _ h
  exact ⟨quote, hquote, by simpa [checkConfigId] using hcheck⟩

/-- One piece of claims comes from accepted evidence. -/
theorem evaluate_givesOne : GivesOne (evaluate ecdsaQuoteVerification) "cpu" := by
  intro evidence reportData initDataHash
  exact .bind fun _ _ => .bind fun _ _ => .ok ⟨_, rfl⟩

end Trustmee.Sgx
