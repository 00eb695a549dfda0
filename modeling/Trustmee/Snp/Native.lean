import Trustmee.Snp.Report
import Trustmee.Verifier.Interface

/-!
# The native SNP verifier

`Snp::evaluate` of the `verifier` crate. The certificates are those of the table that comes with
the report: the last ARK and ASK in it, the first VCEK or VLEK, and the ones that come with the
verifier for those it does not have. Without a table the VCEK is the one that the AMD key server
gives for the report.
-/

namespace Trustmee.Snp.Native

variable {V : Env}

def HW_ID_OID : Oid := "1.3.6.1.4.1.3704.1.4"
def UCODE_SPL_OID : Oid := "1.3.6.1.4.1.3704.1.3.8"
def SNP_SPL_OID : Oid := "1.3.6.1.4.1.3704.1.3.3"
def TEE_SPL_OID : Oid := "1.3.6.1.4.1.3704.1.3.2"
def LOADER_SPL_OID : Oid := "1.3.6.1.4.1.3704.1.3.1"
def FMC_SPL_OID : Oid := "1.3.6.1.4.1.3704.1.3.9"

def KDS_CERT_SITE : String := "https://kdsintf.amd.com"
def KDS_VCEK : String := "/vcek/v1"

def REPORT_VERSION_MIN : UInt32 := 3
def REPORT_VERSION_MAX : UInt32 := 5

/-- `SnpEvidence`. -/
structure SnpEvidence where
  attestationReport : AttestationReport
  certChain : Option (List CertTableEntry)

variable (V) in
/-- The derived `Deserialize` of `SnpEvidence`. -/
def SnpEvidence.fromValue : Json → Except String SnpEvidence
  | .object m => do
    let attestationReport ← Deserialize.required V.reportFromValue m "attestation_report"
    let certChain ← Deserialize.optional V.certTableFromValue m "cert_chain"
    return ⟨attestationReport, certChain⟩
  | .array [attestationReport, certChain] => do
    let attestationReport ← V.reportFromValue attestationReport
    let certChain ← Deserialize.option V.certTableFromValue certChain
    return ⟨attestationReport, certChain⟩
  | .array l => .error ("invalid length " ++ toString l.length ++
      ", expected struct SnpEvidence with 2 elements")
  | v => .error ("invalid type: " ++ Deserialize.unexpected v ++ ", expected struct SnpEvidence")

/-- `get_processor_generation`. The range of the second Genoa models is open at its end. -/
def getProcessorGeneration (attReport : AttestationReport) : Outcome ProcessorGeneration := do
  let cpuFam ← .okOr attReport.cpuidFamId "Attestation report version 3+ is missing CPU family ID"
  let cpuMod ← .okOr attReport.cpuidModId "Attestation report version 3+ is missing CPU model ID"
  if cpuFam = 0x19 then
    if cpuMod ≤ 0xF then return .Milan
    else if (0x10 ≤ cpuMod ∧ cpuMod ≤ 0x1F) ∨ (0xA0 ≤ cpuMod ∧ cpuMod < 0xAF) then return .Genoa
    else .bail "Processor model not supported"
  else if cpuFam = 0x1A then
    if cpuMod ≤ 0x11 then return .Turin
    else .bail "Processor model not supported"
  else .bail "Processor family not supported"

/-! ## The endorsement key -/

/-- The certificates found so far in a table. -/
structure Certs (V : Env) where
  ask : Option V.Certificate
  ark : Option V.Certificate
  vek : Option V.Certificate
  vekType : VendorEndorsementKey

/-- One entry of the table. -/
def readEntry (vendorCerts : VendorCertificates V.Certificate) (certs : Certs V)
    (cert : CertTableEntry) : Outcome (Certs V) :=
  match cert.certType with
  | .ARK => do
    let ark ← Outcome.ofExcept (V.fromBytes cert.data)
    (Outcome.ofExcept (V.verify vendorCerts.ark ark)).context "Provided ARK has an invalid signature"
    return { certs with ark := some ark }
  | .ASK => do
    let ask ← Outcome.ofExcept (V.fromBytes cert.data)
    return { certs with ask := some ask }
  | .VCEK =>
    if certs.vek.isNone then do
      let vek ← Outcome.ofExcept (V.fromBytes cert.data)
      return { certs with vek := some vek }
    else return certs
  | .VLEK =>
    if certs.vek.isNone then do
      let vek ← Outcome.ofExcept (V.fromBytes cert.data)
      return { certs with vek := some vek, vekType := .Vlek }
    else return certs
  | _ => return certs

/-- The loop over the table. -/
def readTable (vendorCerts : VendorCertificates V.Certificate) :
    Certs V → List CertTableEntry → Outcome (Certs V)
  | certs, [] => .ok certs
  | certs, cert :: table => do
    let certs ← readEntry vendorCerts certs cert
    readTable vendorCerts certs table

/-- The endorsement key of a certificate table. -/
def vekFromTable (vendorCerts : VendorCertificates V.Certificate) (table : List CertTableEntry) :
    Outcome V.Certificate := do
  let certs ← readTable vendorCerts ⟨none, none, none, .Vcek⟩ table
  let vek ← .okOr certs.vek "If a cert chain is provided, it must include a VCEK/VLEK"
  let chain : Chain V := {
    ark := certs.ark.getD vendorCerts.ark
    ask := certs.ask.getD (match certs.vekType with
      | .Vlek => vendorCerts.asvk
      | .Vcek => vendorCerts.ask)
    vek := vek }
  chain.verify.context "Certificate chain provided by user failed to verify"
  return vek

/-- The URL of the VCEK. -/
def vcekUrl (attReport : AttestationReport) (procGen : ProcessorGeneration) : Outcome String := do
  Outcome.ensure (attReport.chipId ≠ Vector.replicate 64 0)
    ("Hardware ID is 0s on attestation report. Confirm that MASK_CHIP_ID is set to 0 to request " ++
      "VCEK from KDS.")
  let hwId := match procGen with
    | .Turin => hexEncode (attReport.chipId.toList.take 8)
    | _ => hexEncode attReport.chipId.toList
  let tcb := attReport.reportedTcb
  match procGen with
  | .Turin =>
    let fmc ← .okOr tcb.fmc "A Turin processor must have a fmc value"
    return KDS_CERT_SITE ++ KDS_VCEK ++ "/" ++ procGen.name ++ "/" ++ hwId ++ "?fmcSPL=" ++
      twoDigits fmc ++ "&blSPL=" ++ twoDigits tcb.bootloader ++ "&teeSPL=" ++ twoDigits tcb.tee ++
      "&snpSPL=" ++ twoDigits tcb.snp ++ "&ucodeSPL=" ++ twoDigits tcb.microcode
  | _ =>
    return KDS_CERT_SITE ++ KDS_VCEK ++ "/" ++ procGen.name ++ "/" ++ hwId ++ "?blSPL=" ++
      twoDigits tcb.bootloader ++ "&teeSPL=" ++ twoDigits tcb.tee ++ "&snpSPL=" ++
      twoDigits tcb.snp ++ "&ucodeSPL=" ++ twoDigits tcb.microcode

variable (V) in
/-- `fetch_vcek_from_kds`. -/
def fetchVcekFromKds (attReport : AttestationReport) (procGen : ProcessorGeneration) :
    Outcome Bytes := do
  let vcekUrl ← vcekUrl attReport procGen
  let vcekRsp ← (Outcome.ofExcept (V.kds vcekUrl)).context "Unable to send request for VCEK"
  if vcekRsp.status = 200 then (Outcome.ofExcept vcekRsp.body).context "Unable to parse VCEK"
  else .bail ("Unable to fetch VCEK from URL: " ++ toString vcekRsp.status ++ ", " ++ vcekUrl)

/-- The VCEK is the body of an answer with status 200. -/
theorem fetchVcekFromKds_eq_ok {report : AttestationReport}
    {procGen : ProcessorGeneration} {body : Bytes} :
    fetchVcekFromKds V report procGen = .ok body ↔
      ∃ url, vcekUrl report procGen = .ok url ∧ V.kds url = .ok ⟨200, .ok body⟩ := by
  simp only [fetchVcekFromKds, Outcome.bind_eq_ok, Outcome.context_eq_ok, Outcome.ofExcept_eq_ok]
  constructor
  · rintro ⟨url, hurl, ⟨status, body'⟩, hrsp, h⟩
    by_cases hstatus : status = 200
    · subst hstatus
      obtain rfl : body' = .ok body := by simpa using h
      exact ⟨url, hurl, hrsp⟩
    · simp [hstatus] at h
  · rintro ⟨url, hurl, hrsp⟩
    exact ⟨url, hurl, _, hrsp, by simp⟩

/-- The endorsement key of the key server. -/
def vekFromKds (vendorCerts : VendorCertificates V.Certificate) (report : AttestationReport)
    (procGen : ProcessorGeneration) : Outcome V.Certificate := do
  let vcekBuf ← (fetchVcekFromKds V report procGen).context "Failed to fetch VCEK from KDS"
  let vcek ← (Outcome.ofExcept (V.fromBytes vcekBuf)).context
    "Failed to convert KDS VCEK into certificate"
  let chain : Chain V := { ark := vendorCerts.ark, ask := vendorCerts.ask, vek := vcek }
  chain.verify.context "Certificate chain from KDS failed verification"
  return vcek

/-! ## The TCB -/

/-- The value of an extension. -/
def extension (cert : V.TbsCertificate) (oid : Oid) : Outcome Bytes := do
  let ext ← Outcome.ofExcept (V.getExtensionUnique cert oid)
  .okOr ext "Oid not found"

/-- `try_into` an array. -/
def toArray (n : ℕ) (b : Bytes) : Option (ByteArray n) :=
  if h : b.length = n then some ⟨b.toArray, size_toArray h⟩ else none

/-- `get_oid_octets`: the value itself, when it has the length, or the octet string in it. -/
def getOidOctets (n : ℕ) (vcek : V.TbsCertificate) (oid : Oid) : Outcome (ByteArray n) := do
  let val ← extension vcek oid
  match toArray n val with
  | some octets => return octets
  | none =>
    let valOctet ← Outcome.ofExcept (V.octetString val)
    (Outcome.okOr (toArray n valOctet) "could not convert slice to array").context
      "Unexpected data size"

/-- `get_oid_int`. -/
def getOidInt (cert : V.TbsCertificate) (oid : Oid) : Outcome UInt8 := do
  let val ← extension cert oid
  let valInt ← Outcome.ofExcept (V.integer val)
  (Outcome.ofExcept (asU8 valInt)).context "Unexpected data size"

/-- `get_common_name`. -/
def getCommonName (cert : V.Certificate) : Outcome String :=
  match V.commonNames cert with
  | [] => .bail "No CN found"
  | [e] => .ofExcept e
  | _ => .bail "No CN found"

/-- The chip of a key whose common name is `VCEK`. -/
def checkChipId (report : AttestationReport) (key : V.TbsCertificate) (commonName : String) :
    Outcome Unit :=
  if commonName = "VCEK" then do
    let hwId ← getOidOctets 64 key HW_ID_OID
    Outcome.ensure (hwId = report.chipId) "Chip ID mismatch"
  else .ok ()

/-- A component of the TCB. -/
def checkSpl (key : V.TbsCertificate) (oid : Oid) (reported : UInt8) (msg : String) :
    Outcome Unit := do
  let spl ← getOidInt key oid
  Outcome.ensure (spl = reported) msg

/-- The FMC, of a Turin processor. A report without one is a panic here. -/
def checkFmc (report : AttestationReport) (key : V.TbsCertificate) (procGen : ProcessorGeneration) :
    Outcome Unit :=
  if procGen = .Turin then do
    let spl ← getOidInt key FMC_SPL_OID
    let fmc ← .unwrap report.reportedTcb.fmc
    Outcome.ensure (spl = fmc) "FMC version mismatch"
  else .ok ()

/-- `verify_report_tcb`. -/
def verifyReportTcb (report : AttestationReport) (vek : V.Certificate)
    (procGen : ProcessorGeneration) : Outcome Unit := do
  let der ← Outcome.ofExcept (V.toDer vek)
  let key ← Outcome.ofExcept (V.parseX509 der)
  let commonName ← (getCommonName vek).context "No common name found in certificate"
  checkChipId report key commonName
  checkSpl key UCODE_SPL_OID report.reportedTcb.microcode "Microcode version mismatch"
  checkSpl key SNP_SPL_OID report.reportedTcb.snp "SNP version mismatch"
  checkSpl key TEE_SPL_OID report.reportedTcb.tee "TEE version mismatch"
  checkSpl key LOADER_SPL_OID report.reportedTcb.bootloader "Boot loader version mismatch"
  checkFmc report key procGen

/-! ## The evaluation -/

/-- `parse_tee_evidence`. -/
def parseTeeEvidence (report : AttestationReport) : Json := .object (Json.Map.ofList
  [("policy_abi_major", .number (.int report.policy.abiMajor)),
   ("policy_abi_minor", .number (.int report.policy.abiMinor)),
   ("policy_smt_allowed", .bool report.policy.smtAllowed),
   ("policy_migrate_ma", .bool report.policy.migrateMaAllowed),
   ("policy_debug_allowed", .bool report.policy.debugAllowed),
   ("policy_single_socket", .bool report.policy.singleSocketRequired),
   ("reported_tcb_bootloader", .number (.int report.reportedTcb.bootloader.toNat)),
   ("reported_tcb_tee", .number (.int report.reportedTcb.tee.toNat)),
   ("reported_tcb_snp", .number (.int report.reportedTcb.snp.toNat)),
   ("reported_tcb_microcode", .number (.int report.reportedTcb.microcode.toNat)),
   ("platform_tsme_enabled", .bool report.platInfo.tsmeEnabled),
   ("platform_smt_enabled", .bool report.platInfo.smtEnabled),
   ("measurement", .string (Base64.encode report.measurement.toList)),
   ("report_data", .string (Base64.encode report.reportData.toList)),
   ("init_data", .string (Base64.encode report.hostData.toList))])

/-- The versions of reports that are taken. -/
def checkVersion (report : AttestationReport) : Outcome Unit :=
  if report.version < REPORT_VERSION_MIN then
    .bail "Attestation Report version is too old. Please update your firmware."
  else if report.version > REPORT_VERSION_MAX then
    .bail "Unexpected attestation report version. Check SNP Firmware ABI specification"
  else .ok ()

/-- The binding of the report data. -/
def checkReportData (report : AttestationReport) : ReportData → Outcome Unit
  | .value expected =>
    .ensure (regularizeData expected 64 = report.reportData.toList) "Report Data Mismatch"
  | .notProvided => .ok ()

/-- The binding of the init data. -/
def checkHostData (report : AttestationReport) : InitDataHash → Outcome Unit
  | .value expected =>
    .ensure (regularizeData expected 32 = report.hostData.toList) "Host Data Mismatch"
  | .notProvided => .ok ()

/-- The endorsement key. -/
def selectVek (report : AttestationReport) (procGen : ProcessorGeneration)
    (certChain : Option (List CertTableEntry)) : Outcome V.Certificate :=
  match certChain with
  | some table => vekFromTable (V.vendorCerts procGen) table
  | none => vekFromKds (V.vendorCerts procGen) report procGen

variable (V) in
/-- `Snp::evaluate`, after the evidence is deserialised. -/
def verifyEvidence (evidence : SnpEvidence) (expectedReportData : ReportData)
    (expectedInitDataHash : InitDataHash) : Outcome Json := do
  let report := evidence.attestationReport
  checkVersion report
  let procGen ← getProcessorGeneration report
  let vek ← selectVek (V := V) report procGen evidence.certChain
  (Outcome.ofExcept (V.verifyReport vek report)).context
    "Report signature verification against VEK signature failed"
  (verifyReportTcb report vek procGen).context "Reported TCB values do not match"
  Outcome.ensure (report.vmpl = 0) "VMPL Check Failed"
  checkReportData report expectedReportData
  checkHostData report expectedInitDataHash
  return parseTeeEvidence report

variable (V) in
/-- `Snp::evaluate`. -/
def evaluate (evidence : Json) (expectedReportData : ReportData)
    (expectedInitDataHash : InitDataHash) : Outcome Claims := do
  let evidence ← (Outcome.ofExcept (SnpEvidence.fromValue V evidence)).context
    "Deserialize SNP Evidence failed"
  let claims ← verifyEvidence V evidence expectedReportData expectedInitDataHash
  return [(claims, "cpu")]

theorem evaluate_eq_ok {evidence : Json} {expectedReportData : ReportData}
    {expectedInitDataHash : InitDataHash} {result : Claims} :
    evaluate V evidence expectedReportData expectedInitDataHash = .ok result ↔
      ∃ ev v, SnpEvidence.fromValue V evidence = .ok ev ∧
        verifyEvidence V ev expectedReportData expectedInitDataHash = .ok v ∧
        result = [(v, "cpu")] := by
  simp only [evaluate, Outcome.bind_eq_ok, Outcome.context_eq_ok, Outcome.ofExcept_eq_ok,
    Outcome.pure_eq, Outcome.ok.injEq]
  constructor
  · rintro ⟨ev, hev, v, hv, rfl⟩
    exact ⟨ev, v, hev, hv, rfl⟩
  · rintro ⟨ev, v, hev, hv, rfl⟩
    exact ⟨ev, hev, v, hv, rfl⟩

/-! ## What the claims mean -/

variable (V) in
/-- The report data of the report is the expected one, brought to its length. -/
def ReportDataBound (evidence : Json) (expected : Bytes) : Prop :=
  ∃ ev, SnpEvidence.fromValue V evidence = .ok ev ∧
    regularizeData expected 64 = ev.attestationReport.reportData.toList

variable (V) in
/-- The host data of the report is the expected hash, brought to its length. -/
def InitDataBound (evidence : Json) (expected : Bytes) : Prop :=
  ∃ ev, SnpEvidence.fromValue V evidence = .ok ev ∧
    regularizeData expected 32 = ev.attestationReport.hostData.toList

/-- What was checked on accepted evidence. -/
theorem evaluate_checks {evidence : Json} {reportData : ReportData} {initDataHash : InitDataHash}
    {claims : Claims} (h : evaluate V evidence reportData initDataHash = .ok claims) :
    ∃ ev, SnpEvidence.fromValue V evidence = .ok ev ∧
      checkReportData ev.attestationReport reportData = .ok () ∧
      checkHostData ev.attestationReport initDataHash = .ok () := by
  obtain ⟨ev, v, hev, hv, -⟩ := evaluate_eq_ok.1 h
  simp only [verifyEvidence, Outcome.bind_eq_ok] at hv
  obtain ⟨_, -, _, -, _, -, _, -, _, -, _, -, _, hreport, _, hhost, -⟩ := hv
  exact ⟨ev, hev, hreport, hhost⟩

/-- The SNP verifier compares the report data. -/
theorem evaluate_bindsReportData : BindsReportData (evaluate V) (ReportDataBound V) := by
  intro evidence expected initDataHash claims h _
  obtain ⟨ev, hev, hcheck, -⟩ := evaluate_checks h
  exact ⟨ev, hev, by simpa [checkReportData] using hcheck⟩

/-- The SNP verifier compares the init data hash. -/
theorem evaluate_bindsInitData : BindsInitData (evaluate V) (InitDataBound V) := by
  intro evidence reportData expected claims h _
  obtain ⟨ev, hev, -, hcheck⟩ := evaluate_checks h
  exact ⟨ev, hev, by simpa [checkHostData] using hcheck⟩

/-- One piece of claims comes from accepted evidence. -/
theorem evaluate_givesOne : GivesOne (evaluate V) "cpu" := by
  intro evidence reportData initDataHash
  exact .bind fun _ _ => .bind fun _ _ => .ok ⟨_, rfl⟩

end Trustmee.Snp.Native
