import Trustmee.Snp.Report
import Trustmee.Verifier.Interface

/-!
# The SNP verifier component

`snp-verifier-component`: the native verifier's procedure, copied by hand. The component takes the
bytes of the evidence, the text of an object or the report itself, and it keeps the VCEKs that the
key server gave in a directory.
-/

namespace Trustmee.Snp.Component

variable {V : Env}

def HW_ID_OID : Oid := "1.3.6.1.4.1.3704.1.4"
def UCODE_SPL_OID : Oid := "1.3.6.1.4.1.3704.1.3.8"
def SNP_SPL_OID : Oid := "1.3.6.1.4.1.3704.1.3.3"
def TEE_SPL_OID : Oid := "1.3.6.1.4.1.3704.1.3.2"
def LOADER_SPL_OID : Oid := "1.3.6.1.4.1.3704.1.3.1"
def FMC_SPL_OID : Oid := "1.3.6.1.4.1.3704.1.3.9"

def KDS_CERT_SITE : String := "https://kdsintf.amd.com"
def KDS_VCEK : String := "/vcek/v1"

def REPORT_VERSION_MIN : UInt32 := 3
def REPORT_VERSION_MAX : UInt32 := 5

/-- `SnpEvidence`. -/
structure SnpEvidence where
  attestationReport : AttestationReport
  certChain : Option (List CertTableEntry)

variable (V) in
/-- The derived `Deserialize` of `SnpEvidence`, on the objects it is used on. -/
def SnpEvidence.fromValue : Json → Except String SnpEvidence
  | .object m => do
    let attestationReport ← Deserialize.required V.reportFromValue m "attestation_report"
    let certChain ← Deserialize.optional V.certTableFromValue m "cert_chain"
    return ⟨attestationReport, certChain⟩
  | v => .error ("invalid type: " ++ Deserialize.unexpected v ++ ", expected struct SnpEvidence")

/-- The bytes of a report, without certificates. -/
def parseReportBytes (V : Env) (evidence : Bytes) : Outcome SnpEvidence := do
  let report ← (Outcome.ofExcept (V.reportFromBytes evidence)).context "parse SNP report bytes"
  return ⟨report, none⟩

/-- `parse_evidence_bytes`. -/
def parseEvidenceBytes (V : Env) (serde : SerdeJson) (evidence : Bytes) : Outcome SnpEvidence :=
  match fromUtf8 evidence with
  | some s =>
    if startsWithBrace s then
      (Outcome.ofExcept (serde.fromStr (SnpEvidence.fromValue V) s)).context
        "parse SNP evidence JSON"
    else parseReportBytes V evidence
  | none => parseReportBytes V evidence

/-- The component's own `regularize_data`. -/
def regularizeData (data : Bytes) (len : ℕ) : Bytes :=
  match compare data.length len with
  | .lt => data ++ List.replicate (len - data.length) 0
  | .eq => data
  | .gt => data.take len

/-- `get_processor_generation`. -/
def getProcessorGeneration (attReport : AttestationReport) : Outcome ProcessorGeneration := do
  let cpuFam ← .okOr attReport.cpuidFamId "Attestation report version 3+ is missing CPU family ID"
  let cpuMod ← .okOr attReport.cpuidModId "Attestation report version 3+ is missing CPU model ID"
  if cpuFam = 0x19 then
    if cpuMod ≤ 0xF then return .Milan
    else if (0x10 ≤ cpuMod ∧ cpuMod ≤ 0x1F) ∨ (0xA0 ≤ cpuMod ∧ cpuMod < 0xAF) then return .Genoa
    else .bail "Processor model not supported"
  else if cpuFam = 0x1A then
    if cpuMod ≤ 0x11 then return .Turin
    else .bail "Processor model not supported"
  else .bail "Processor family not supported"

/-! ## The endorsement key -/

/-- The certificates found so far in a table. -/
structure Certs (V : Env) where
  ask : Option V.Certificate
  ark : Option V.Certificate
  vek : Option V.Certificate
  vekType : VendorEndorsementKey

/-- One entry of the table. -/
def readEntry (vendorCerts : VendorCertificates V.Certificate) (certs : Certs V)
    (cert : CertTableEntry) : Outcome (Certs V) :=
  match cert.certType with
  | .ARK => do
    let ark ← Outcome.ofExcept (V.fromBytes cert.data)
    (Outcome.ofExcept (V.verify vendorCerts.ark ark)).context "Provided ARK has an invalid signature"
    return { certs with ark := some ark }
  | .ASK => do
    let ask ← Outcome.ofExcept (V.fromBytes cert.data)
    return { certs with ask := some ask }
  | .VCEK =>
    if certs.vek.isNone then do
      let vek ← Outcome.ofExcept (V.fromBytes cert.data)
      return { certs with vek := some vek }
    else return certs
  | .VLEK =>
    if certs.vek.isNone then do
      let vek ← Outcome.ofExcept (V.fromBytes cert.data)
      return { certs with vek := some vek, vekType := .Vlek }
    else return certs
  | _ => return certs

/-- The loop over the table. -/
def readTable (vendorCerts : VendorCertificates V.Certificate) :
    Certs V → List CertTableEntry → Outcome (Certs V)
  | certs, [] => .ok certs
  | certs, cert :: table => do
    let certs ← readEntry vendorCerts certs cert
    readTable vendorCerts certs table

/-- The endorsement key of a certificate table. -/
def vekFromTable (vendorCerts : VendorCertificates V.Certificate) (table : List CertTableEntry) :
    Outcome V.Certificate := do
  let certs ← readTable vendorCerts ⟨none, none, none, .Vcek⟩ table
  let vek ← .okOr certs.vek "If a cert chain is provided, it must include a VCEK/VLEK"
  let chain : Chain V := {
    ark := certs.ark.getD vendorCerts.ark
    ask := certs.ask.getD (match certs.vekType with
      | .Vlek => vendorCerts.asvk
      | .Vcek => vendorCerts.ask)
    vek := vek }
  chain.verify.context "Certificate chain provided by user failed to verify"
  return vek

/-- The URL of the VCEK. -/
def vcekUrl (attReport : AttestationReport) (procGen : ProcessorGeneration) : Outcome String := do
  Outcome.ensure (attReport.chipId ≠ Vector.replicate 64 0)
    ("Hardware ID is 0s on attestation report. Confirm that MASK_CHIP_ID is set to 0 to request " ++
      "VCEK from KDS.")
  let hwId := match procGen with
    | .Turin => hexEncode (attReport.chipId.toList.take 8)
    | _ => hexEncode attReport.chipId.toList
  let tcb := attReport.reportedTcb
  match procGen with
  | .Turin =>
    let fmc ← .okOr tcb.fmc "A Turin processor must have a fmc value"
    return KDS_CERT_SITE ++ KDS_VCEK ++ "/" ++ procGen.name ++ "/" ++ hwId ++ "?fmcSPL=" ++
      twoDigits fmc ++ "&blSPL=" ++ twoDigits tcb.bootloader ++ "&teeSPL=" ++ twoDigits tcb.tee ++
      "&snpSPL=" ++ twoDigits tcb.snp ++ "&ucodeSPL=" ++ twoDigits tcb.microcode
  | _ =>
    return KDS_CERT_SITE ++ KDS_VCEK ++ "/" ++ procGen.name ++ "/" ++ hwId ++ "?blSPL=" ++
      twoDigits tcb.bootloader ++ "&teeSPL=" ++ twoDigits tcb.tee ++ "&snpSPL=" ++
      twoDigits tcb.snp ++ "&ucodeSPL=" ++ twoDigits tcb.microcode

/-- A request to the key server. The body is read before the status is looked at. -/
def requestVcek (V : Env) (vcekUrl : String) : Outcome Bytes := do
  let resp ← (Outcome.ofExcept (V.kds vcekUrl)).context
    ("Unable to send request for VCEK: " ++ vcekUrl)
  let body ← (Outcome.ofExcept resp.body).context "Unable to parse VCEK"
  Outcome.ensure (resp.status = 200)
    ("Unable to fetch VCEK from URL: HTTP " ++ toString resp.status ++ ", " ++ vcekUrl)
  return body

/-- `fetch_vcek_from_kds`, with what `read_cache` finds. Storing the answer does not change it. -/
def fetchVcekFromKds (V : Env) (cache : String → Option Bytes) (attReport : AttestationReport)
    (procGen : ProcessorGeneration) : Outcome Bytes := do
  let vcekUrl ← vcekUrl attReport procGen
  match cache vcekUrl with
  | some bytes => return bytes
  | none => requestVcek V vcekUrl

/-- The endorsement key of the key server. -/
def vekFromKds (cache : String → Option Bytes) (vendorCerts : VendorCertificates V.Certificate)
    (report : AttestationReport) (procGen : ProcessorGeneration) : Outcome V.Certificate := do
  let vcekBuf ← (fetchVcekFromKds V cache report procGen).context "Failed to fetch VCEK from KDS"
  let vcek ← (Outcome.ofExcept (V.fromBytes vcekBuf)).context
    "Failed to convert KDS VCEK into certificate"
  let chain : Chain V := { ark := vendorCerts.ark, ask := vendorCerts.ask, vek := vcek }
  chain.verify.context "Certificate chain from KDS failed verification"
  return vcek

/-! ## The TCB -/

/-- The value of an extension. -/
def extension (cert : V.TbsCertificate) (oid : Oid) : Outcome Bytes := do
  let ext ← Outcome.ofExcept (V.getExtensionUnique cert oid)
  .okOr ext "Oid not found"

/-- `try_into` an array. -/
def toArray (n : ℕ) (b : Bytes) : Option (ByteArray n) :=
  if h : b.length = n then some ⟨b.toArray, size_toArray h⟩ else none

/-- `get_oid_octets`. -/
def getOidOctets (n : ℕ) (vcek : V.TbsCertificate) (oid : Oid) : Outcome (ByteArray n) := do
  let val ← extension vcek oid
  match toArray n val with
  | some octets => return octets
  | none =>
    let valOctet ← Outcome.ofExcept (V.octetString val)
    (Outcome.okOr (toArray n valOctet) "could not convert slice to array").context
      "Unexpected data size"

/-- `get_oid_int`. -/
def getOidInt (cert : V.TbsCertificate) (oid : Oid) : Outcome UInt8 := do
  let val ← extension cert oid
  let valInt ← Outcome.ofExcept (V.integer val)
  (Outcome.ofExcept (asU8 valInt)).context "Unexpected data size"

/-- `get_common_name`. -/
def getCommonName (cert : V.Certificate) : Outcome String :=
  match V.commonNames cert with
  | [] => .bail "No CN found"
  | [e] => .ofExcept e
  | _ => .bail "No CN found"

/-- The chip of a key whose common name is `VCEK`. -/
def checkChipId (report : AttestationReport) (key : V.TbsCertificate) (commonName : String) :
    Outcome Unit :=
  if commonName = "VCEK" then do
    let hwId ← getOidOctets 64 key HW_ID_OID
    Outcome.ensure (hwId = report.chipId) "Chip ID mismatch"
  else .ok ()

/-- A component of the TCB. -/
def checkSpl (key : V.TbsCertificate) (oid : Oid) (reported : UInt8) (msg : String) :
    Outcome Unit := do
  let spl ← getOidInt key oid
  Outcome.ensure (spl = reported) msg

/-- The FMC, of a Turin processor. A report without one is a trap here. -/
def checkFmc (report : AttestationReport) (key : V.TbsCertificate) (procGen : ProcessorGeneration) :
    Outcome Unit :=
  if procGen = .Turin then do
    let spl ← getOidInt key FMC_SPL_OID
    let fmc ← .unwrap report.reportedTcb.fmc
    Outcome.ensure (spl = fmc) "FMC version mismatch"
  else .ok ()

/-- `verify_report_tcb`. -/
def verifyReportTcb (report : AttestationReport) (vek : V.Certificate)
    (procGen : ProcessorGeneration) : Outcome Unit := do
  let der ← Outcome.ofExcept (V.toDer vek)
  let key ← Outcome.ofExcept (V.parseX509 der)
  let commonName ← (getCommonName vek).context "No common name found in certificate"
  checkChipId report key commonName
  checkSpl key UCODE_SPL_OID report.reportedTcb.microcode "Microcode version mismatch"
  checkSpl key SNP_SPL_OID report.reportedTcb.snp "SNP version mismatch"
  checkSpl key TEE_SPL_OID report.reportedTcb.tee "TEE version mismatch"
  checkSpl key LOADER_SPL_OID report.reportedTcb.bootloader "Boot loader version mismatch"
  checkFmc report key procGen

/-! ## The evaluation -/

/-- `parse_tee_evidence`. -/
def parseTeeEvidence (report : AttestationReport) : Json := .object (Json.Map.ofList
  [("policy_abi_major", .number (.int report.policy.abiMajor)),
   ("policy_abi_minor", .number (.int report.policy.abiMinor)),
   ("policy_smt_allowed", .bool report.policy.smtAllowed),
   ("policy_migrate_ma", .bool report.policy.migrateMaAllowed),
   ("policy_debug_allowed", .bool report.policy.debugAllowed),
   ("policy_single_socket", .bool report.policy.singleSocketRequired),
   ("reported_tcb_bootloader", .number (.int report.reportedTcb.bootloader.toNat)),
   ("reported_tcb_tee", .number (.int report.reportedTcb.tee.toNat)),
   ("reported_tcb_snp", .number (.int report.reportedTcb.snp.toNat)),
   ("reported_tcb_microcode", .number (.int report.reportedTcb.microcode.toNat)),
   ("platform_tsme_enabled", .bool report.platInfo.tsmeEnabled),
   ("platform_smt_enabled", .bool report.platInfo.smtEnabled),
   ("measurement", .string (Base64.encode report.measurement.toList)),
   ("report_data", .string (Base64.encode report.reportData.toList)),
   ("init_data", .string (Base64.encode report.hostData.toList))])

/-- The versions of reports that are taken. -/
def checkVersion (report : AttestationReport) : Outcome Unit :=
  if report.version < REPORT_VERSION_MIN then
    .bail "Attestation Report version is too old. Please update your firmware."
  else if report.version > REPORT_VERSION_MAX then
    .bail "Unexpected attestation report version. Check SNP Firmware ABI specification"
  else .ok ()

/-- The binding of the report data. -/
def checkReportData (report : AttestationReport) : Option Bytes → Outcome Unit
  | some expected =>
    .ensure (regularizeData expected 64 = report.reportData.toList) "Report Data Mismatch"
  | none => .ok ()

/-- The binding of the init data. -/
def checkHostData (report : AttestationReport) : Option Bytes → Outcome Unit
  | some expected =>
    .ensure (regularizeData expected 32 = report.hostData.toList) "Host Data Mismatch"
  | none => .ok ()

/-- The endorsement key. -/
def selectVek (cache : String → Option Bytes) (report : AttestationReport)
    (procGen : ProcessorGeneration) (certChain : Option (List CertTableEntry)) :
    Outcome V.Certificate :=
  match certChain with
  | some table => vekFromTable (V.vendorCerts procGen) table
  | none => vekFromKds cache (V.vendorCerts procGen) report procGen

/-- `evaluate` of `snp.rs`. -/
def evaluate (V : Env) (cache : String → Option Bytes) (evidence : SnpEvidence)
    (expectedReportData expectedInitDataHash : Option Bytes) : Outcome Json := do
  let report := evidence.attestationReport
  checkVersion report
  let procGen ← getProcessorGeneration report
  let vek ← selectVek (V := V) cache report procGen evidence.certChain
  (Outcome.ofExcept (V.verifyReport vek report)).context
    "Report signature verification against VEK signature failed"
  (verifyReportTcb report vek procGen).context "Reported TCB values do not match"
  Outcome.ensure (report.vmpl = 0) "VMPL Check Failed"
  checkReportData report expectedReportData
  checkHostData report expectedInitDataHash
  return parseTeeEvidence report

/-- `evaluate_impl`, up to the text of the claims. -/
def evaluateImpl (V : Env) (cache : String → Option Bytes) (serde : SerdeJson) (evidence : Bytes)
    (expectedReportData expectedInitDataHash : Option Bytes) : Outcome Json.Map := do
  let evidence ← (parseEvidenceBytes V serde evidence).context "parse SNP evidence"
  let claims ← evaluate V cache evidence expectedReportData expectedInitDataHash
  .okOr claims.asObject "claims map is not a JSON object"

/-- `Verifier::evaluate`. -/
def verifier (V : Env) (cache : String → Option Bytes) (serde : SerdeJson) : WasmVerifier :=
  fun evidence expectedReportData expectedInitDataHash =>
    answerText (evaluateImpl V cache serde evidence expectedReportData.toOption
      expectedInitDataHash.toOption)

end Trustmee.Snp.Component
