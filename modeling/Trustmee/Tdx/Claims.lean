import Trustmee.Foundations.Encoding
import Trustmee.Foundations.Json
import Trustmee.Tdx.Quote
import Mathlib.Tactic.SplitIfs

/-!
# The claims of a TDX quote

The claims that a parsed quote and its event log give (`generateParsedClaim`), which the native
verifier and the component compile from the same file, and the claims that the verification of the
quote adds to them. No claim is called `error`, the name under which a component reports a failure.
-/

namespace Trustmee.Tdx

/-- `ReferenceMeasurement` of the `eventlog` crate, always with the algorithm SHA-384. -/
structure ReferenceMeasurement where
  index : ℕ
  reference : Bytes

/-! ## Custom claims -/

/-- The claims that the verification of a quote adds. -/
structure CustomClaims where
  map : Json.Map
  get_error : Json.Map.get map "error" = none

/-- What `dcap_qvl` says of a verified quote. -/
structure VerifiedReport where
  status : String
  advisoryIds : List String
  ppid : Bytes

/-- `custom_claims_from_verified_report`, and the claim `collateral_expired` that follows it. -/
def CustomClaims.fromVerifiedReport (report : VerifiedReport) (collateralExpired : Bool) :
    CustomClaims where
  map :=
    let map := Json.Map.ofList
      [("tcb_status", .string report.status),
       ("advisory_ids", .array (report.advisoryIds.map .string)),
       ("platform_provider_id", .string (hexEncode report.ppid))]
    if collateralExpired then map.insert "collateral_expired" (.bool true) else map
  get_error := by
    cases collateralExpired <;> simp [Json.Map.ofList, Json.Map.extend, Json.Map.get_insert]

/-- The results of the DCAP library that are not terminal. -/
inductive QvResult
  | ok | configNeeded | outOfDate | outOfDateConfigNeeded | swHardeningNeeded
  | configAndSwHardeningNeeded | tdRelaunchAdvised | tdRelaunchAdvisedConfigNeeded

def QvResult.asStr : QvResult → String
  | ok => "UpToDate"
  | configNeeded => "ConfigurationNeeded"
  | outOfDate => "OutOfDate"
  | outOfDateConfigNeeded => "OutOfDateConfigurationNeeded"
  | swHardeningNeeded => "SWHardeningNeeded"
  | configAndSwHardeningNeeded => "ConfigurationAndSWHardeningNeeded"
  | tdRelaunchAdvised => "TDRelaunchAdvised"
  | tdRelaunchAdvisedConfigNeeded => "TDRelaunchAdvisedConfigurationNeeded"

/-- What the DCAP library says of a verified quote, with its dates already written as texts. -/
structure SupplementalData where
  earliestIssueDate : String
  latestIssueDate : String
  earliestExpirationDate : String
  tcbLevelDateTag : String
  pckCrlNum : ℕ
  rootCaCrlNum : ℕ
  pckPpid : Bytes
  sgxType : ℕ
  dynamicPlatform : ℕ
  cachedKeys : ℕ
  smtEnabled : ℕ
  rootKeyId : Bytes
  saList : String

def sgxTypeName : ℕ → String
  | 0 => "Standard"
  | 1 => "Scalable"
  | 2 => "Scalable with Integrity"
  | other => "Unknown (" ++ toString other ++ ")"

/-- `get_sa_list`. -/
def saListClaim (saList : String) : Json :=
  if saList = "" then .array []
  else .array ((saList.splitOn ",").map .string)

/-- The members about the platform, of types other than the first. -/
def platformMembers (supp : SupplementalData) : List (String × Json) :=
  if 0 < supp.sgxType then
    [("is_dynamic_platform", .bool (supp.dynamicPlatform = 1)),
     ("is_cached_keys", .bool (supp.cachedKeys = 1)),
     ("is_smt_enabled", .bool (supp.smtEnabled = 1))]
  else []

/-- `prepare_custom_claims_map`. -/
def CustomClaims.prepareCustomClaimsMap (supp : SupplementalData)
    (collateralExpirationStatus : ℕ) (result : QvResult) : CustomClaims where
  map := Json.Map.ofList (
    [("earliest_issue_date", .string supp.earliestIssueDate),
     ("latest_issue_date", .string supp.latestIssueDate),
     ("earliest_expiration_date", .string supp.earliestExpirationDate),
     ("tcb_date", .string supp.tcbLevelDateTag),
     ("pck_crl_num", .number (.int supp.pckCrlNum)),
     ("root_ca_crl_num", .number (.int supp.rootCaCrlNum)),
     ("tcb_eval_num", .number (.int supp.rootCaCrlNum)),
     ("platform_provider_id", .string (hexEncode supp.pckPpid)),
     ("sgx_type", .string (sgxTypeName supp.sgxType))] ++
    platformMembers supp ++
    [("root_key_id", .string (hexEncode supp.rootKeyId)),
     ("tcb_status", .string result.asStr),
     ("collateral_expiration_status", .string (toString collateralExpirationStatus)),
     ("advisory_ids", saListClaim supp.saList)])
  get_error := by
    rw [Json.Map.ofList, Json.Map.get_extend_of_none]
    · rfl
    · unfold platformMembers
      split_ifs <;> simp [Json.Map.get_cons]

/-- What the crates beside the verifiers do. Both verifiers check a quote with the same function. -/
structure Env where
  /-- `CcEventLog`. -/
  EventLog : Type
  /-- `CcEventLog::try_from`. -/
  parseEventLog : Bytes → Outcome EventLog
  /-- `CcEventLog::replay_and_match`. -/
  replayAndMatch : EventLog → List ReferenceMeasurement → Except String Unit
  /-- `serde_json::to_value` of the log. -/
  logToValue : EventLog → Except String Json
  /-- The verification of the quote's signature. -/
  quoteVerification : Bytes → Outcome CustomClaims

/-- What the event log is replayed against. -/
def compareObj (quote : Quote) : List ReferenceMeasurement :=
  [⟨1, quote.rtmr0⟩, ⟨2, quote.rtmr1⟩, ⟨3, quote.rtmr2⟩, ⟨4, quote.rtmr3⟩]

/-! ## The claims of a quote -/

def hexClaim (name : String) (b : Bytes) : String × Json := (name, .string (hexEncode b))

def headerClaims (version : Bytes) (header : QuoteHeader) : Json.Map := .ofList
  [hexClaim "version" version,
   hexClaim "att_key_type" header.attKeyType,
   hexClaim "tee_type" header.teeType,
   hexClaim "reserved" header.reserved,
   hexClaim "vendor_id" header.vendorId,
   hexClaim "user_data" header.userData]

def bodyMembers (body : ReportBody2) : List (String × Json) :=
  [hexClaim "tcb_svn" body.tcbSvn,
   hexClaim "mr_seam" body.mrSeam,
   hexClaim "mrsigner_seam" body.mrsignerSeam,
   hexClaim "seam_attributes" body.seamAttributes,
   hexClaim "td_attributes" body.tdAttributes,
   hexClaim "xfam" body.xfam,
   hexClaim "mr_td" body.mrTd,
   hexClaim "mr_config_id" body.mrConfigId,
   hexClaim "mr_owner" body.mrOwner,
   hexClaim "mr_owner_config" body.mrOwnerConfig,
   hexClaim "rtmr_0" body.rtmr0,
   hexClaim "rtmr_1" body.rtmr1,
   hexClaim "rtmr_2" body.rtmr2,
   hexClaim "rtmr_3" body.rtmr3,
   hexClaim "report_data" body.reportData]

def v5BodyClaims : QuoteV5Body → Json.Map
  | .Tdx10 body => .ofList (bodyMembers body)
  | .Tdx15 body => .ofList (bodyMembers body.toReportBody2 ++
      [hexClaim "tee_tcb_svn2" body.teeTcbSvn2, hexClaim "mr_servicetd" body.mrServicetd])

/-- The claim `quote`. -/
def quoteClaims : Quote → Json.Map
  | .V4 header body => .ofList
      [("header", .object (headerClaims [4, 0] header)),
       ("body", .object (Json.Map.ofList (bodyMembers body)))]
  | .V5 header type size body => .ofList
      [hexClaim "type" type.asBytes,
       hexClaim "size" size,
       ("header", .object (headerClaims [5, 0] header)),
       ("body", .object (v5BodyClaims body))]

/-- `u64::from_le_bytes`. -/
def fromLeBytes (b : Bytes) : ℕ := b.foldr (fun x n => x.toNat + 256 * n) 0

/-- The flags of `TdAttributesFlags`, in lower case, with their bits. -/
def tdAttributesFlags : List (String × ℕ) :=
  [("debug", 0), ("septve_disable", 28), ("protection_keys", 30), ("key_locker", 31),
   ("perfmon", 63)]

/-- `parse_td_attributes`. -/
def parseTdAttributes (data : Bytes) : Outcome Json.Map :=
  if data.length = 8 then
    .ok (.ofList (tdAttributesFlags.map fun f => (f.1, .bool ((fromLeBytes data).testBit f.2))))
  else .bail "could not convert slice to array"

variable {E : Env}

/-- The claims of the event log. -/
def eventLogClaims (ccEventlog : Option E.EventLog) : Outcome Json.Map :=
  match ccEventlog with
  | some ccel => do
    let result ← Outcome.ofExcept (E.logToValue ccel)
    return Json.Map.insert [] "uefi_event_logs" result
  | none => .ok []

/-- `generate_parsed_claim`. -/
def generateParsedClaim (quote : Quote) (ccEventlog : Option E.EventLog) : Outcome Json := do
  let quoteMap := quoteClaims quote
  let tdAttributes ← parseTdAttributes quote.tdAttributes
  let claims ← eventLogClaims ccEventlog
  let claims := claims.insert "quote" (.object quoteMap)
  let claims := claims.insert "td_attributes" (.object tdAttributes)
  let claims := claims.insert "report_data" (.string (hexEncode quote.reportData))
  let claims := claims.insert "init_data" (.string (hexEncode quote.mrConfigId))
  return .object claims

theorem get_eventLogClaims {ccEventlog : Option E.EventLog} {claims : Json.Map}
    (h : eventLogClaims ccEventlog = .ok claims) {k : String} (hk : k ≠ "uefi_event_logs") :
    Json.Map.get claims k = none := by
  unfold eventLogClaims at h
  split at h
  · obtain ⟨v, -, hv⟩ := Outcome.bind_eq_ok.1 h
    cases hv
    rw [Json.Map.get_insert, if_neg hk]
    rfl
  · cases h
    rfl

end Trustmee.Tdx
