import Trustmee.Tdx.Native

/-!
# The Hygon verifiers

`CsvVerifier::evaluate` and `HygonDcuVerifier::evaluate` of the `verifier` crate. The first verifies
the chain of certificates from the root that comes with it to the report, with the intermediate ones
from the evidence, from a directory or from the key server, and compares the report data. The second
leaves the verification of its reports, one for each device, to `csv_rs`, and puts the claims of a
device under its index. Neither looks at the init data hash or gives an init data claim.
-/

namespace Trustmee

/-- `u32::to_le_bytes`. -/
def toLeBytes (n : UInt32) : Bytes :=
  [n.toUInt8, (n >>> 8).toUInt8, (n >>> 16).toUInt8, (n >>> 24).toUInt8]

namespace Csv

open Tdx (hexClaim)

/-! ## Reports -/

/-- The bits of a guest's policy, as the accessors of `csv_rs` give them. -/
structure GuestPolicy where
  nodbg : ℕ
  noks : ℕ
  es : ℕ
  nosend : ℕ
  domain : ℕ
  csv : ℕ
  csv3 : ℕ
  asidReuse : ℕ
  hskVersion : ℕ
  cekVersion : ℕ
  apiMajor : ℕ
  apiMinor : ℕ

/-- `TeeInfo`, as the accessors of `csv_rs` give it. -/
structure TeeInfo where
  policy : GuestPolicy
  userPubkeyDigest : Bytes
  vmId : Bytes
  vmVersion : Bytes
  reportData : Bytes
  mnonce : Bytes
  measure : Bytes
  sigUsage : UInt32
  sigAlgo : UInt32

/-- What only the second version of a report has. -/
structure TeeInfoV2 where
  build : ℕ
  rtmrVersion : ℕ
  reserved0 : Bytes
  rtmr0 : Bytes
  rtmr1 : Bytes
  rtmr2 : Bytes
  rtmr3 : Bytes
  rtmr4 : Bytes
  reserved1 : Bytes

/-- `AttestationReport`. -/
inductive AttestationReport
  | V1 (info : TeeInfo) (anonce : UInt32)
  | V2 (info : TeeInfo) (more : TeeInfoV2)

/-- `AttestationReport::tee_info`. -/
def AttestationReport.teeInfo : AttestationReport → TeeInfo
  | V1 info _ => info
  | V2 info _ => info

/-- What the verifier takes from other crates, the directory of certificates and the key server. -/
structure Env where
  /-- `ca::Certificate`. -/
  CaCertificate : Type
  /-- `csv::Certificate`. -/
  CsvCertificate : Type
  /-- The `Deserialize` of `AttestationReportWrapper`, and `AttestationReport::try_from`. -/
  Wrapper : Type
  wrapperFromValue : Json → Except String Wrapper
  reportTryFrom : Wrapper → Except String AttestationReport
  caFromValue : Json → Except String CaCertificate
  csvFromValue : Json → Except String CsvCertificate
  /-- The two certificates of `hsk_cek.cert`. -/
  decodeHskCek : Bytes → Except String (CaCertificate × CsvCertificate)
  /-- The root, decoded from `hrk.cert`. -/
  hrk : Except String CaCertificate
  verifyCa : CaCertificate → CaCertificate → Except String Unit
  verifyCek : CaCertificate → CsvCertificate → Except String Unit
  verifyPek : CsvCertificate → CsvCertificate → Except String Unit
  verifyReport : CsvCertificate → AttestationReport → Except String Unit
  /-- `GuestPolicy::xor`. -/
  policyXor : GuestPolicy → UInt32 → GuestPolicy
  /-- A file of the directory of certificates. -/
  readFile : String → Option Bytes
  /-- The answer of the key server: its status and its body. -/
  get : String → Except String (ℕ × Except String Bytes)
  /-- `CcEventLog`, and its replay against SM3 measurements. -/
  EventLog : Type
  parseEventLog : Bytes → Outcome EventLog
  replayAndMatch : EventLog → List Tdx.ReferenceMeasurement → Except String Unit
  logToValue : EventLog → Except String Json

/-- `HskCek`. -/
structure HskCek (E : Env) where
  hsk : E.CaCertificate
  cek : E.CsvCertificate

/-- `CsvEvidence`, with the members of its certificate chain. -/
structure CsvEvidence (E : Env) where
  attestationReport : E.Wrapper
  hskCek : Option (HskCek E)
  pek : E.CsvCertificate
  serialNumber : Bytes
  ccEventlog : Option String

variable (E : Env)

/-- The derived `Deserialize` of `HskCek`. -/
def HskCek.fromValue (v : Json) : Except String (HskCek E) := do
  let m ← Deserialize.fields "HskCek" ["hsk", "cek"] 2 v
  let hsk ← Deserialize.required E.caFromValue m "hsk"
  let cek ← Deserialize.required E.csvFromValue m "cek"
  return ⟨hsk, cek⟩

/-- The derived `Deserialize` of `CertificateChain`. -/
def certificateChainFromValue (v : Json) :
    Except String (Option (HskCek E) × E.CsvCertificate) := do
  let m ← Deserialize.fields "CertificateChain" ["hsk_cek", "pek"] 2 v
  let hskCek ← Deserialize.optional (HskCek.fromValue E) m "hsk_cek"
  let pek ← Deserialize.required E.csvFromValue m "pek"
  return (hskCek, pek)

/-- The derived `Deserialize` of `CsvEvidence`. -/
def CsvEvidence.fromValue (v : Json) : Except String (CsvEvidence E) := do
  let m ← Deserialize.fields "CsvEvidence"
    ["attestation_report", "cert_chain", "serial_number", "cc_eventlog"] 4 v
  let attestationReport ← Deserialize.required E.wrapperFromValue m "attestation_report"
  let certChain ← Deserialize.required (certificateChainFromValue E) m "cert_chain"
  let serialNumber ← Deserialize.required (Deserialize.vec Deserialize.u8) m "serial_number"
  let ccEventlog ← Deserialize.optional Deserialize.string m "cc_eventlog"
  return ⟨attestationReport, certChain.1, certChain.2, serialNumber, ccEventlog⟩

/-! ## Certificates -/

def DEFAULT_CSV_CERT_DIR : String := "/opt/hygon/csv"

/-- `try_load_hskcek_offline`. -/
def tryLoadHskcekOffline (chipId : String) : Option Bytes :=
  E.readFile (DEFAULT_CSV_CERT_DIR ++ "/hsk_cek/" ++ chipId ++ "/hsk_cek.cert")

/-- `download_hskcek_from_kds`. -/
def downloadHskcekFromKds (chipId : String) : Outcome Bytes := do
  let hskCekRsp ← (Outcome.ofExcept
    (E.get ("https://cert.hygon.cn/hsk_cek?snumber=" ++ chipId))).context
    "Unable to send request for HSK_CEK"
  if hskCekRsp.1 = 200 then (Outcome.ofExcept hskCekRsp.2).context "Unable to parse HSK_CEK"
  else .bail ("Unable to fetch HSK_CEK from URL: " ++ toString hskCekRsp.1)

/-- The HSK and the CEK. -/
def loadHskCek (chipId : String) (hskCek : Option (HskCek E)) :
    Outcome (E.CaCertificate × E.CsvCertificate) :=
  match hskCek with
  | some hskCek => .ok (hskCek.hsk, hskCek.cek)
  | none => do
    let certData ← match tryLoadHskcekOffline E chipId with
      | some certData => Outcome.ok certData
      | none => downloadHskcekFromKds E chipId
    .ofExcept (E.decodeHskCek certData)

/-- `verify_report_signature`. -/
def verifyReportSignature (report : AttestationReport) (hsk : E.CaCertificate)
    (cek pek : E.CsvCertificate) : Outcome Unit := do
  let hrk ← Outcome.ofExcept E.hrk
  (Outcome.ofExcept (E.verifyCa hrk hrk)).mapErr
    fun e => ["HRK cert Signature verification failed: " ++ e.debug]
  (Outcome.ofExcept (E.verifyCa hrk hsk)).mapErr
    fun e => ["HSK cert Signature validation failed: " ++ e.debug]
  (Outcome.ofExcept (E.verifyCek hsk cek)).mapErr
    fun e => ["CEK cert Signature validation failed: " ++ e.debug]
  (Outcome.ofExcept (E.verifyPek cek pek)).mapErr
    fun e => ["PEK cert Signature validation failed: " ++ e.debug]
  (Outcome.ofExcept (E.verifyReport pek report)).mapErr
    fun e => ["Attestation Report Signature validation failed: " ++ e.debug]

/-! ## Claims -/

def natClaim (name : String) (n : ℕ) : String × Json := (name, .number (.int n))

def policyClaims (policy : GuestPolicy) : Json.Map := .ofList
  [natClaim "nodbg" policy.nodbg,
   natClaim "noks" policy.noks,
   natClaim "es" policy.es,
   natClaim "nosend" policy.nosend,
   natClaim "domain" policy.domain,
   natClaim "csv" policy.csv,
   natClaim "csv3" policy.csv3,
   natClaim "asid_reuse" policy.asidReuse,
   natClaim "hsk_version" policy.hskVersion,
   natClaim "cek_version" policy.cekVersion,
   natClaim "api_major" policy.apiMajor,
   natClaim "api_minor" policy.apiMinor]

/-- The members that both versions have. -/
def commonMembers (version : String) (policy : GuestPolicy) (info : TeeInfo) :
    List (String × Json) :=
  [("version", .string version),
   ("policy", .object (policyClaims policy)),
   hexClaim "user_pubkey_digest" info.userPubkeyDigest,
   hexClaim "vm_id" info.vmId,
   hexClaim "vm_version" info.vmVersion,
   hexClaim "report_data" info.reportData,
   hexClaim "mnonce" info.mnonce,
   hexClaim "measure" info.measure,
   hexClaim "sig_usage" (toLeBytes info.sigUsage),
   hexClaim "sig_algo" (toLeBytes info.sigAlgo)]

/-- The members of the second version. -/
def membersV2 (more : TeeInfoV2) : List (String × Json) :=
  [natClaim "build" more.build,
   natClaim "rtmr_version" more.rtmrVersion,
   hexClaim "reserved0" more.reserved0,
   hexClaim "rtmr0" more.rtmr0,
   hexClaim "rtmr1" more.rtmr1,
   hexClaim "rtmr2" more.rtmr2,
   hexClaim "rtmr3" more.rtmr3,
   hexClaim "rtmr4" more.rtmr4,
   hexClaim "reserved1" more.reserved1]

/-- What the event log is replayed against. -/
def compareObj (more : TeeInfoV2) : List Tdx.ReferenceMeasurement :=
  [⟨1, more.rtmr1⟩, ⟨2, more.rtmr2⟩, ⟨3, more.rtmr3⟩, ⟨4, more.rtmr4⟩]

/-- The claim of the event log. -/
def addEventLog (more : TeeInfoV2) (claims : Json.Map) (ccEventlog : Option String) :
    Outcome Json.Map :=
  match ccEventlog with
  | some el => do
    let ccelData ← decodeBase64 el
    let ccel ← (E.parseEventLog ccelData).mapErr
      fun e => ["Parse CC Eventlog failed: " ++ e.debug]
    Outcome.ofExcept (E.replayAndMatch ccel (compareObj more))
    let log ← Outcome.ofExcept (E.logToValue ccel)
    return claims.insert "uefi_event_logs" log
  | none => .ok claims

/-- The claims of a report. -/
def reportClaims (report : AttestationReport) (chipId : String) (ccEventlog : Option String) :
    Outcome Json.Map :=
  match report with
  | .V1 info anonce =>
    .ok (.ofList (commonMembers "1" (E.policyXor info.policy anonce) info ++
      [hexClaim "anonce" (toLeBytes anonce), ("serial_number", .string chipId)]))
  | .V2 info more =>
    addEventLog E more (.ofList (commonMembers "2" info.policy info ++ membersV2 more ++
      [("serial_number", .string chipId)])) ccEventlog

/-! ## The evaluation -/

/-- The binding of the report data. -/
def checkReportData (report : AttestationReport) : ReportData → Outcome Unit
  | .value expected =>
    .ensure (regularizeData expected 64 == report.teeInfo.reportData)
      "REPORT_DATA is different from that in CSV Quote"
  | .notProvided => .ok ()

/-- `CsvVerifier::evaluate`. -/
def evaluate (evidence : Json) (expectedReportData : ReportData)
    (_expectedInitDataHash : InitDataHash) : Outcome Claims := do
  let evidence ← (Outcome.ofExcept (CsvEvidence.fromValue E evidence)).context
    "Deserialize Quote failed."
  let report ← Outcome.ofExcept (E.reportTryFrom evidence.attestationReport)
  let serialNumber ← Outcome.okOr (fromUtf8 evidence.serialNumber) "invalid utf-8 sequence"
  let chipId := trimEndMatches serialNumber (Char.ofNat 0)
  let hskCek ← loadHskCek E chipId evidence.hskCek
  verifyReportSignature E report hskCek.1 hskCek.2 evidence.pek
  checkReportData report expectedReportData
  let claims ← reportClaims E report chipId evidence.ccEventlog
  return [(.object claims, "cpu")]

/-! ## What the claims mean -/

/-- The report data of the report is the expected one, brought to its length. -/
def ReportDataBound (evidence : Json) (expected : Bytes) : Prop :=
  ∃ ev report, CsvEvidence.fromValue E evidence = .ok ev ∧
    E.reportTryFrom ev.attestationReport = .ok report ∧
    regularizeData expected 64 = report.teeInfo.reportData

/-- The CSV verifier compares the report data. -/
theorem evaluate_bindsReportData : BindsReportData (evaluate E) (ReportDataBound E) := by
  intro evidence expected initDataHash claims h _
  simp only [evaluate, Outcome.bind_eq_ok, Outcome.context_eq_ok, Outcome.ofExcept_eq_ok] at h
  obtain ⟨ev, hev, report, hreport, -, -, -, -, _, -, _, hcheck, -⟩ := h
  exact ⟨ev, report, hev, hreport, by simpa [checkReportData] using hcheck⟩

theorem get_initData_addEventLog {more : TeeInfoV2} {claims claims' : Json.Map}
    {ccEventlog : Option String} (h : addEventLog E more claims ccEventlog = .ok claims') :
    Json.Map.get claims' "init_data" = Json.Map.get claims "init_data" := by
  unfold addEventLog at h
  split at h
  · simp only [Outcome.bind_eq_ok, Outcome.pure_eq, Outcome.ok.injEq] at h
    obtain ⟨-, -, -, -, -, -, log, -, rfl⟩ := h
    exact Json.Map.get_insert_of_ne _ _ (by decide)
  · cases h
    rfl

theorem get_initData_reportClaims {report : AttestationReport} {chipId : String}
    {ccEventlog : Option String} {claims : Json.Map}
    (h : reportClaims E report chipId ccEventlog = .ok claims) :
    Json.Map.get claims "init_data" = none := by
  cases report with
  | V1 info anonce =>
    rw [reportClaims, Outcome.ok.injEq] at h
    rw [← h, Json.Map.ofList, Json.Map.get_extend_of_none]
    · rfl
    · simp [commonMembers, hexClaim, Json.Map.get_cons]
  | V2 info more =>
    rw [get_initData_addEventLog E h, Json.Map.ofList, Json.Map.get_extend_of_none]
    · rfl
    · simp [commonMembers, membersV2, hexClaim, natClaim, Json.Map.get_cons]

/-- The CSV verifier gives no init data claim. -/
theorem evaluate_bindsInitData : BindsInitData (evaluate E) fun _ _ => False := by
  intro evidence reportData expected claims h
  simp only [evaluate, Outcome.bind_eq_ok, Outcome.pure_eq, Outcome.ok.injEq] at h
  obtain ⟨_, -, _, -, _, -, _, -, _, -, _, -, claims, hclaims, rfl⟩ := h
  exact not_emits_singleton (get_initData_reportClaims E hclaims)

/-- One piece of claims comes from accepted evidence. -/
theorem evaluate_givesOne : GivesOne (evaluate E) "cpu" := by
  intro evidence reportData initDataHash
  exact .bind fun _ _ => .bind fun _ _ => .bind fun _ _ => .bind fun _ _ => .bind fun _ _ =>
    .bind fun _ _ => .bind fun _ _ => .ok ⟨_, rfl⟩

end Csv

/-! ## Deep computing units -/

namespace HygonDcu

open Tdx (hexClaim)

/-- The body of a DCU report. -/
structure AttestationReport where
  version : ℕ
  chipId : Bytes
  userData : Bytes
  measure : Bytes
  reserved : Bytes
  sigUsage : ℕ
  sigAlgo : ℕ
  /-- What only the signature covers, and the signature. -/
  other : Bytes

/-- What the verifier takes from `csv_rs`. -/
structure Env where
  /-- The `Deserialize` of a report. -/
  reportFromValue : Json → Except String AttestationReport
  /-- `verify_reports`. -/
  verifyReports : List AttestationReport → Bytes → Except String Unit

/-- `{:x}`. -/
def lowerHex (n : ℕ) : String := String.ofList (Nat.toDigits 16 n)

/-- The claims of a device. -/
def reportClaims (report : AttestationReport) : Json := .object (Json.Map.ofList
  [("body", .object (Json.Map.ofList
     [("version", .number (.int report.version)),
      hexClaim "chip_id" report.chipId,
      hexClaim "user_data" report.userData,
      hexClaim "measure" report.measure,
      hexClaim "reserved" report.reserved,
      ("sig_usage", .string (lowerHex report.sigUsage)),
      ("sig_algo", .string (lowerHex report.sigAlgo))])),
   hexClaim "report_data" report.userData])

/-- `parse_tee_evidence`. -/
def parseTeeEvidence (reports : List AttestationReport) : Json.Map :=
  .ofList (reports.zipIdx.map fun p => (toString p.2, reportClaims p.1))

/-- The report data that the reports have to have. -/
def requireReportData : ReportData → Outcome Bytes
  | .value expected => .ok (regularizeData expected 64)
  | .notProvided => .bail "DCU must check report data"

variable (E : Env)

/-- `HygonDcuVerifier::evaluate`. -/
def evaluate (evidence : Json) (expectedReportData : ReportData)
    (_expectedInitDataHash : InitDataHash) : Outcome Claims := do
  let m ← Outcome.ofExcept (Deserialize.fields "DcuEvidence" ["attestation_reports"] 1 evidence)
  let reports ← Outcome.ofExcept
    (Deserialize.required (Deserialize.vec E.reportFromValue) m "attestation_reports")
  let expectedReportData ← requireReportData expectedReportData
  Outcome.ofExcept (E.verifyReports reports expectedReportData)
  return [(.object (parseTeeEvidence reports), "dcu")]

theorem underscore_notMem_toString (n : ℕ) : '_' ∉ (toString n).toList := by
  rw [Nat.toString_eq_ofList_toDigits, String.toList_ofList]
  exact Nat.underscore_not_in_toDigits

/-- The claims of the devices are under their indices, so that none has a name with an
underscore. -/
theorem get_parseTeeEvidence (reports : List AttestationReport) {name : String}
    (h : '_' ∈ name.toList) : Json.Map.get (parseTeeEvidence reports) name = none := by
  have aux : ∀ l : List (AttestationReport × ℕ),
      Json.Map.get (l.map fun p => (toString p.2, reportClaims p.1)) name = none := by
    intro l
    induction l with
    | nil => rfl
    | cons p l ih =>
      rw [List.map_cons, Json.Map.get_cons, if_neg, ih]
      rintro rfl
      exact underscore_notMem_toString p.2 h
  rw [parseTeeEvidence, Json.Map.ofList, Json.Map.get_extend_of_none _ _ (aux _)]
  rfl

theorem evaluate_eq_ok {evidence : Json} {reportData : ReportData} {initDataHash : InitDataHash}
    {claims : Claims} (h : evaluate E evidence reportData initDataHash = .ok claims) :
    ∃ reports, claims = [(.object (parseTeeEvidence reports), "dcu")] := by
  simp only [evaluate, Outcome.bind_eq_ok, Outcome.pure_eq, Outcome.ok.injEq] at h
  obtain ⟨_, -, reports, -, _, -, _, -, rfl⟩ := h
  exact ⟨reports, rfl⟩

/-- The DCU verifier gives no report data claim at the top. -/
theorem evaluate_bindsReportData : BindsReportData (evaluate E) fun _ _ => False := by
  intro evidence expected initDataHash claims h
  obtain ⟨reports, rfl⟩ := evaluate_eq_ok E h
  exact not_emits_singleton (get_parseTeeEvidence reports (by decide))

/-- The DCU verifier gives no init data claim. -/
theorem evaluate_bindsInitData : BindsInitData (evaluate E) fun _ _ => False := by
  intro evidence reportData expected claims h
  obtain ⟨reports, rfl⟩ := evaluate_eq_ok E h
  exact not_emits_singleton (get_parseTeeEvidence reports (by decide))

/-- One piece of claims comes from accepted evidence. -/
theorem evaluate_givesOne : GivesOne (evaluate E) "dcu" := by
  intro evidence reportData initDataHash
  exact .bind fun _ _ => .bind fun _ _ => .bind fun _ _ => .bind fun _ _ => .ok ⟨_, rfl⟩

end HygonDcu

end Trustmee
