import Trustmee.Foundations.Deserialize
import Trustmee.Foundations.JsonText
import Trustmee.Kbs.Backend

/-!
# Intel Trust Authority

The KBS can have evidence verified by Intel Trust Authority. One request carries all of it: the body
has a place for TDX evidence, one for SGX evidence and one for a GPU, and the loop over the evidence
fills them.
-/

namespace Trustmee.Kbs.IntelTrustAuthority

/-! ## The evidence -/

/-- `DcapTeeEvidence`. -/
structure DcapTeeEvidence where
  quote : String
  runtimeData : String
  userData : Option String
  eventLog : Option String
  deriving DecidableEq

/-- `AzItaTeeEvidence`. -/
structure AzItaTeeEvidence where
  hclReport : Bytes
  tdQuote : Bytes

/-- `NvDeviceReportAndCert`. -/
structure NvDeviceReportAndCert where
  evidence : String
  gpuNonce : String
  certificate : String
  arch : String
  deriving DecidableEq

/-- The derived `Deserialize` of `DcapTeeEvidence`, which leaves the runtime data out. -/
def DcapTeeEvidence.fromValue (v : Json) : Except String DcapTeeEvidence := do
  let m ← Deserialize.fields "DcapTeeEvidence" ["quote", "user_data", "cc_eventlog"] 3 v
  let quote ← Deserialize.required Deserialize.string m "quote"
  let userData ← Deserialize.optional Deserialize.string m "user_data"
  let eventLog ← Deserialize.optional Deserialize.string m "cc_eventlog"
  return ⟨quote, "", userData, eventLog⟩

/-- The derived `Deserialize` of `AzItaTeeEvidence`. -/
def AzItaTeeEvidence.fromValue (v : Json) : Except String AzItaTeeEvidence := do
  let m ← Deserialize.fields "AzItaTeeEvidence" ["hcl_report", "td_quote"] 2 v
  let hclReport ← Deserialize.required (Deserialize.vec Deserialize.u8) m "hcl_report"
  let tdQuote ← Deserialize.required (Deserialize.vec Deserialize.u8) m "td_quote"
  return ⟨hclReport, tdQuote⟩

/-- The derived `Deserialize` of `NvDeviceReportAndCert`, which leaves the nonce out. -/
def NvDeviceReportAndCert.fromValue (v : Json) : Except String NvDeviceReportAndCert := do
  let m ← Deserialize.fields "NvDeviceReportAndCert" ["evidence", "certificate", "arch"] 3 v
  let evidence ← Deserialize.required Deserialize.string m "evidence"
  let certificate ← Deserialize.required Deserialize.string m "certificate"
  let arch ← Deserialize.required Deserialize.string m "arch"
  return ⟨evidence, "", certificate, arch⟩

/-- The derived `Deserialize` of `NvDeviceEvidence`: its list of devices. -/
def deviceEvidenceList (v : Json) : Except String (List NvDeviceReportAndCert) := do
  let m ← Deserialize.fields "NvDeviceEvidence" ["device_evidence_list"] 1 v
  Deserialize.required (Deserialize.vec NvDeviceReportAndCert.fromValue) m "device_evidence_list"

/-! ## The request -/

/-- `AttestReqData`. -/
structure AttestReqData where
  policyIds : List String
  policyMustMatch : Bool
  tdx : Option DcapTeeEvidence
  sgx : Option DcapTeeEvidence
  nvgpu : Option NvDeviceReportAndCert

/-- A field that is left out when there is nothing in it. -/
def optionalField (name : String) (v : Option Json) : Json.Map := v.toList.map fun v => (name, v)

/-- The derived `Serialize` of `DcapTeeEvidence`. -/
def DcapTeeEvidence.toJson (evidence : DcapTeeEvidence) : Json := .object
  ([("quote", .string evidence.quote), ("runtime_data", .string evidence.runtimeData)] ++
    optionalField "user_data" (evidence.userData.map .string) ++
    optionalField "event_log" (evidence.eventLog.map .string))

/-- The derived `Serialize` of `NvDeviceReportAndCert`. -/
def NvDeviceReportAndCert.toJson (device : NvDeviceReportAndCert) : Json := .object
  [("evidence", .string device.evidence), ("gpu_nonce", .string device.gpuNonce),
    ("certificate", .string device.certificate), ("arch", .string device.arch)]

/-- The derived `Serialize` of `AttestReqData`. -/
def AttestReqData.toJson (reqData : AttestReqData) : Json := .object
  ([("policy_ids", .array (reqData.policyIds.map .string)),
    ("policy_must_match", .bool reqData.policyMustMatch)] ++
    optionalField "tdx" (reqData.tdx.map DcapTeeEvidence.toJson) ++
    optionalField "sgx" (reqData.sgx.map DcapTeeEvidence.toJson) ++
    optionalField "nvgpu" (reqData.nvgpu.map NvDeviceReportAndCert.toJson))

/-- `IntelTrustAuthorityConfig`. -/
structure Config where
  baseUrl : String
  apiKey : String
  allowUnmatchedPolicy : Option Bool
  policyIds : List String

/-- What the verifier takes from other crates. -/
structure ItaEnv where
  /-- `HclReport::new`, and the `var_data` of the report. -/
  varData : Bytes → Except String Bytes
  sha512 : Bytes → Vector UInt8 64

/-- A request to the service. -/
structure HttpRequest where
  url : String
  apiKey : String
  body : String

def BASE_AS_ADDR : String := "/appraisal/v2/attest"
def AZURE_ADDR_SUFFIX : String := "/azure"

/-- `{:?}` of a `Tee`. -/
def teeDebug : Tee → String
  | .AzSnpVtpm => "AzSnpVtpm"
  | .AzTdxVtpm => "AzTdxVtpm"
  | .Cca => "Cca"
  | .Csv => "Csv"
  | .HygonDcu => "HygonDcu"
  | .Nvidia => "Nvidia"
  | .Sample => "Sample"
  | .SampleDevice => "SampleDevice"
  | .Se => "Se"
  | .Sev => "Sev"
  | .Sgx => "Sgx"
  | .Snp => "Snp"
  | .Tdx => "Tdx"
  | .Tpm => "Tpm"

/-- `from_value`, with the context of each branch. -/
def fromValue {α : Type} (deserialize : Json → Except String α) (evidence : IndependentEvidence) :
    Outcome α :=
  (Outcome.ofExcept (deserialize evidence.teeEvidence)).context
    ("Failed to deserialize TEE: " ++ teeDebug evidence.tee ++ " Evidence")

/-- The runtime data in base64. -/
def runtimeData (evidence : IndependentEvidence) : String :=
  Base64.encode (toUtf8 evidence.runtimeData.print)

variable (E : ItaEnv)

/-- The nonce of a GPU. -/
def gpuNonce (evidence : IndependentEvidence) : String :=
  hexEncode ((E.sha512 (toUtf8 evidence.runtimeData.print)).toList.take 32)

/-- The body of the loop, on the data and the URL of the request. -/
def addEvidence (independentEvidence : IndependentEvidence) :
    AttestReqData × String → Outcome (AttestReqData × String)
  | (reqData, attUrl) =>
    match independentEvidence.tee with
    | .AzTdxVtpm => do
      let evidence ← fromValue AzItaTeeEvidence.fromValue independentEvidence
      let varData ← Outcome.ofExcept (E.varData evidence.hclReport)
      let tdx : DcapTeeEvidence :=
        ⟨Base64.encode evidence.tdQuote, Base64.encode varData,
          some (runtimeData independentEvidence), none⟩
      return ({ reqData with tdx := some tdx }, attUrl ++ AZURE_ADDR_SUFFIX)
    | .Tdx => do
      let evidence ← fromValue DcapTeeEvidence.fromValue independentEvidence
      let tdx := { evidence with runtimeData := runtimeData independentEvidence }
      return ({ reqData with tdx := some tdx }, attUrl)
    | .Sgx => do
      let evidence ← fromValue DcapTeeEvidence.fromValue independentEvidence
      let sgx := { evidence with runtimeData := runtimeData independentEvidence }
      return ({ reqData with sgx := some sgx }, attUrl)
    | .Nvidia => do
      let devices ← fromValue deviceEvidenceList independentEvidence
      match devices with
      | [] => return (reqData, attUrl)
      | device :: _ =>
        -- Only one GPU is supported.
        let nvgpu := { device with gpuNonce := gpuNonce E independentEvidence }
        return ({ reqData with nvgpu := some nvgpu }, attUrl)
    | tee => .bail ("Intel Trust Authority: TEE " ++ teeDebug tee ++ " is not supported.")

/-- The loop. -/
def addAll : List IndependentEvidence → AttestReqData × String → Outcome (AttestReqData × String)
  | [], request => .ok request
  | evidence :: rest, request => do
    let request ← addEvidence E evidence request
    addAll rest request

variable (config : Config)

/-- The data and the URL before the loop. -/
def emptyRequest : AttestReqData × String :=
  (⟨config.policyIds,
    if config.policyIds.isEmpty then false else !config.allowUnmatchedPolicy.getD false,
    none, none, none⟩, config.baseUrl ++ BASE_AS_ADDR)

/-- The request with its data as text. -/
def toRequest (request : AttestReqData × String) : HttpRequest :=
  ⟨request.2, config.apiKey, request.1.toJson.print⟩

/-- `IntelTrustAuthority::verify`; `send` posts the request, reads the answer and checks the token
in it. -/
def verify (send : HttpRequest → Outcome String) (evidenceToVerify : List IndependentEvidence) :
    Outcome String := do
  let request ← addAll E evidenceToVerify (emptyRequest config)
  send (toRequest config request)

end Trustmee.Kbs.IntelTrustAuthority
