import Trustmee.Verifier.Interface
import Mathlib.Data.List.Forall2

/-!
# The NVIDIA verifier

`Nvidia::evaluate` of the `verifier` crate, which takes each device of the evidence by itself: the
report is verified here, or by NVIDIA's remote service, which answers with two signed tokens. The
claims of a local report are the device's own; those of a remote one are the claims of the token for
the device.
-/

namespace Trustmee.Nvidia

def HOPPER_SIGNATURE_LENGTH : ℕ := 96

def SPDM_NONCE_SIZE : ℕ := 32

def NRAS_URL : String := "https://nras.attestation.nvidia.com/v4/attest"

/-- `DeviceArchitecture`, by its name where it is not supported. -/
inductive DeviceArchitecture
  | Hopper
  | other (name : String)
  deriving DecidableEq

def DeviceArchitecture.name : DeviceArchitecture → String
  | Hopper => "Hopper"
  | other name => name

/-- `NvDeviceReportAndCert`. -/
structure NvDeviceReportAndCert where
  arch : DeviceArchitecture
  uuid : String
  evidence : String
  certificate : String

/-- What the claims of a report are made of: its measurements by their indices, and its opaque
data. -/
structure NvidiaAttestationReport where
  measurementRecord : List (UInt8 × Bytes)
  opaqueData : Json.Map

/-- `NvidiaVerifierType`. -/
inductive NvidiaVerifierType
  | Local
  | Remote (verifierUrl : Option String)

/-- What the verifier takes from elsewhere. -/
structure Env where
  serde : SerdeJson
  /-- The `Deserialize` of `DeviceArchitecture`. -/
  archFromValue : Json → Except String DeviceArchitecture
  /-- `NvidiaAttestationReport::try_new`, of the report, the length of its signature, the
  certificates and the nonce. -/
  tryNew : Bytes → ℕ → Bytes → Bytes → Outcome NvidiaAttestationReport
  NrasJwks : Type
  /-- `NrasJwks::new`. -/
  fetchJwks : Except String NrasJwks
  /-- `validate_jwt`. -/
  validateJwt : NrasJwks → String → Except String Unit
  /-- The answer to a posted request: its status and its text. -/
  post : String → Json → Except String (ℕ × String)

variable (E : Env)

def NvDeviceReportAndCert.fromValue (v : Json) : Except String NvDeviceReportAndCert := do
  let m ← Deserialize.fields "NvDeviceReportAndCert" ["arch", "uuid", "evidence", "certificate"] 4 v
  let arch ← Deserialize.required E.archFromValue m "arch"
  let uuid ← Deserialize.required Deserialize.string m "uuid"
  let evidence ← Deserialize.required Deserialize.string m "evidence"
  let certificate ← Deserialize.required Deserialize.string m "certificate"
  return ⟨arch, uuid, evidence, certificate⟩

/-- The derived `Deserialize` of `NvDeviceEvidence`. -/
def devicesFromValue (v : Json) : Except String (List NvDeviceReportAndCert) := do
  let m ← Deserialize.fields "NvDeviceEvidence" ["device_evidence_list"] 1 v
  Deserialize.required (Deserialize.vec (NvDeviceReportAndCert.fromValue E)) m
    "device_evidence_list"

/-! ## Local verification -/

/-- `NvDeviceReportAndCertClaim::new`. -/
def deviceClaims (device : NvDeviceReportAndCert) (report : NvidiaAttestationReport) : Json.Map :=
  .ofList
    [("arch", .string device.arch.name),
     ("uuid", .string device.uuid),
     ("measurements", .object (Json.Map.ofList (report.measurementRecord.map fun block =>
       (toString block.1.toNat, .string (hexEncode block.2))))),
     ("config", .object report.opaqueData)]

/-- The bytes of the device's evidence, in hexadecimal or in base64. -/
def decodeEvidence (evidence : String) : Outcome Bytes :=
  match hexDecode evidence with
  | some b => .ok b
  | none => decodeBase64 evidence

/-- `evaluate_device_locally`. -/
def evaluateDeviceLocally (device : NvDeviceReportAndCert) (expectedNonce : Bytes) :
    Outcome (Json × String) := do
  Outcome.ensure (device.arch = .Hopper) "Device architecture not supported"
  let certChain ← decodeBase64 device.certificate
  let reportVec ← decodeEvidence device.evidence
  let report ← E.tryNew reportVec HOPPER_SIGNATURE_LENGTH certChain expectedNonce
  return (.object (deviceClaims device report), "gpu")

/-! ## Remote verification -/

/-- `NrasResponse`. -/
structure NrasResponse where
  jwt : String
  eat : String

/-- The derived `Deserialize` of a map of strings. -/
def stringMap : Json → Except String (List (String × String))
  | .object m => m.mapM fun p => do return (p.1, ← Deserialize.string p.2)
  | v => .error ("invalid type: " ++ Deserialize.unexpected v ++ ", expected a map")

/-- The derived `Deserialize` of `NrasResponseInternal`. -/
def responseFromValue (v : Json) : Except String (List String × List (String × String)) := do
  let m ← Deserialize.fields "NrasResponseInternal" ["jwt", "eat"] 2 v
  let jwt ← Deserialize.required (Deserialize.vec Deserialize.string) m "jwt"
  let eat ← Deserialize.required stringMap m "eat"
  return (jwt, eat)

/-- `NrasResponse::from_str`. -/
def NrasResponse.fromStr (s : String) : Outcome NrasResponse := do
  let response ← Outcome.ofExcept (E.serde.fromStr responseFromValue s)
  match response with
  | ([_, jwt], [(_, eat)]) => return ⟨jwt, eat⟩
  | ([_, _], _) => .bail "Unexpected submod count."
  | _ => .bail "Unexpected Payload Format"

/-- `NrasResponse::validate`. -/
def NrasResponse.validate (jwks : E.NrasJwks) (response : NrasResponse) : Outcome Unit := do
  Outcome.ofExcept (E.validateJwt jwks response.jwt)
  Outcome.ofExcept (E.validateJwt jwks response.eat)

/-- `get_jwt_payload`. -/
def getJwtPayload (jwt : String) : Outcome Json :=
  match splitChar jwt '.' with
  | [_, payload, _] => do
    let payloadBytes ← Outcome.okOr (Base64.decodeNoPad payload) "invalid base64"
    .ofExcept (E.serde.fromStr .ok (fromUtf8Lossy payloadBytes))
  | _ => .bail "Malformed JWT"

/-- The overall attestation result among the claims. -/
def addOverallResult (claims jwtClaims : Json) : Outcome Json :=
  match jwtClaims.get "x-nvidia-overall-att-result" with
  | some overallResult =>
    match claims with
    | .object m => .ok (.object (Json.Map.insert m "x-nvidia-overall-att-result" overallResult))
    | _ => .bail "Unexpected claims format."
  | none => .ok claims

/-- `NrasResponse::claims`. -/
def NrasResponse.claims (response : NrasResponse) : Outcome Json := do
  let claims ← getJwtPayload E response.eat
  let jwtClaims ← getJwtPayload E response.jwt
  addOverallResult claims jwtClaims

/-- The nonce's status in the claims. -/
def checkNonceMatch (claims : Json) : Outcome Unit :=
  match claims.get "x-nvidia-gpu-attestation-report-nonce-match" with
  | some (.bool nonceOk) => .ensure nonceOk "Report Data Mismatch"
  | some _ => .bail "Nonce status malformed"
  | none => .bail "Couldn't find nonce status."

/-- The evidence as the service takes it. -/
def evidenceBase64 (evidence : String) : String :=
  match hexDecode evidence with
  | some b => Base64.encode b
  | none => evidence

/-- The request to the service. -/
def requestJson (device : NvDeviceReportAndCert) (expectedNonce : Bytes) : Json :=
  .object (Json.Map.ofList
    [("nonce", .string (hexEncode expectedNonce)),
     ("arch", .string device.arch.name.toUpper),
     ("evidence_list", .array [.object (Json.Map.ofList
       [("evidence", .string (evidenceBase64 device.evidence)),
        ("certificate", .string device.certificate)])]),
     ("claims_version", .string "3.0")])

/-- `evaluate_device_remotely`. An architecture that is not supported is a `todo!()`. -/
def evaluateDeviceRemotely (jwks : E.NrasJwks) (verifierUrl : Option String)
    (device : NvDeviceReportAndCert) (expectedNonce : Bytes) : Outcome (Json × String) :=
  match device.arch with
  | .Hopper => do
    let res ← Outcome.ofExcept
      (E.post (verifierUrl.getD NRAS_URL ++ "/gpu") (requestJson device expectedNonce))
    Outcome.ensure (200 ≤ res.1 ∧ res.1 < 300)
      ("Request Failed with " ++ toString res.1 ++ ". Details: " ++ res.2)
    let response ← NrasResponse.fromStr E res.2
    NrasResponse.validate E jwks response
    let claims ← NrasResponse.claims E response
    checkNonceMatch claims
    return (claims, "gpu")
  | .other _ => .panic "not yet implemented"

/-! ## The evaluation -/

/-- The verifier, as `Nvidia::new` makes it: the keys of the service come with the remote kind. -/
inductive Verifier
  | Local
  | Remote (verifierUrl : Option String) (jwks : E.NrasJwks)

/-- `Nvidia::new`. -/
def new (config : Option NvidiaVerifierType) : Outcome (Verifier E) :=
  match config with
  | some (.Remote verifierUrl) => do
    let jwks ← Outcome.ofExcept E.fetchJwks
    return .Remote verifierUrl jwks
  | some .Local => .ok .Local
  | none => .ok .Local

variable {E}

/-- The evaluation of a device. -/
def evaluateDevice (verifier : Verifier E) (expectedNonce : Bytes)
    (device : NvDeviceReportAndCert) : Outcome (Json × String) :=
  match verifier with
  | .Local => evaluateDeviceLocally E device expectedNonce
  | .Remote verifierUrl jwks => evaluateDeviceRemotely E jwks verifierUrl device expectedNonce

/-- The loop over the devices. -/
def evaluateDevices (verifier : Verifier E) (expectedNonce : Bytes) :
    List NvDeviceReportAndCert → Outcome Claims
  | [] => .ok []
  | device :: devices => do
    let claims ← evaluateDevice verifier expectedNonce device
    let allDevicesClaims ← evaluateDevices verifier expectedNonce devices
    return claims :: allDevicesClaims

/-- `Nvidia::evaluate`. -/
def evaluate (verifier : Verifier E) (evidence : Json) (expectedReportData : ReportData)
    (_expectedInitDataHash : InitDataHash) : Outcome Claims := do
  let devices ← (Outcome.ofExcept (devicesFromValue E evidence)).context
    "Failed to deserialize the NVIDIA device evidence"
  match expectedReportData with
  | .value expectedNonce =>
    evaluateDevices verifier (regularizeData expectedNonce SPDM_NONCE_SIZE) devices
  | .notProvided => .bail "Nvidia report data not provided"

/-! ## What the claims mean -/

variable (E) in
/-- The service answered for the device with these claims: its tokens for the request are signed with
its keys, and the claims say that the nonce in the report is the expected one. -/
def VerifiedRemotely (jwks : E.NrasJwks) (verifierUrl : Option String)
    (device : NvDeviceReportAndCert) (expectedNonce : Bytes) (claims : Json) : Prop :=
  ∃ res response,
    E.post (verifierUrl.getD NRAS_URL ++ "/gpu") (requestJson device expectedNonce) = .ok res ∧
    (200 ≤ res.1 ∧ res.1 < 300) ∧ NrasResponse.fromStr E res.2 = .ok response ∧
    NrasResponse.validate E jwks response = .ok () ∧ NrasResponse.claims E response = .ok claims ∧
    claims.get "x-nvidia-gpu-attestation-report-nonce-match" = some (.bool true)

variable (E) in
/-- In its tokens for a device, the service says that the report's nonce is the expected one. -/
def NonceMatched (device : NvDeviceReportAndCert) (expectedNonce : Bytes) : Prop :=
  ∃ jwks url res response claims, E.post url (requestJson device expectedNonce) = .ok res ∧
    NrasResponse.fromStr E res.2 = .ok response ∧ NrasResponse.validate E jwks response = .ok () ∧
    NrasResponse.claims E response = .ok claims ∧ checkNonceMatch claims = .ok ()

variable (E) in
/-- The nonce in the report of each device is the expected report data, brought to its length. -/
def ReportDataBound (evidence : Json) (expected : Bytes) : Prop :=
  ∃ devices, devicesFromValue E evidence = .ok devices ∧
    ∀ device ∈ devices, NonceMatched E device (regularizeData expected SPDM_NONCE_SIZE)

variable (E) in
/-- The tokens that the service's keys sign have no claim `init_data`: its claims have NVIDIA's
names. -/
def ServiceClaims : Prop :=
  ∀ jwks jwt payload, E.validateJwt jwks jwt = .ok () → getJwtPayload E jwt = .ok payload →
    payload.get "init_data" = none

theorem get_deviceClaims (device : NvDeviceReportAndCert) (report : NvidiaAttestationReport)
    {name : String} (h : '_' ∈ name.toList) :
    Json.Map.get (deviceClaims device report) name = none := by
  rw [deviceClaims, Json.Map.ofList, Json.Map.get_extend_of_none]
  · rfl
  · simp only [Json.Map.get_cons, Json.Map.get_nil]
    split_ifs with h₁ h₂ h₃ h₄
    · subst h₁
      revert h
      decide
    · subst h₂
      revert h
      decide
    · subst h₃
      revert h
      decide
    · subst h₄
      revert h
      decide
    · rfl

theorem get_addOverallResult {claims jwtClaims v : Json}
    (h : addOverallResult claims jwtClaims = .ok v) (hinit : claims.get "init_data" = none) :
    v.get "init_data" = none := by
  unfold addOverallResult at h
  split at h
  · split at h
    · cases h
      exact (Json.Map.get_insert_of_ne _ _ (by decide)).trans hinit
    · exact absurd h Outcome.bail_ne_ok
  · cases h
    exact hinit

/-- The claims of a local report are the device's own. -/
theorem evaluateDeviceLocally_eq_ok {device : NvDeviceReportAndCert} {expectedNonce : Bytes}
    {claims : Json × String} (h : evaluateDeviceLocally E device expectedNonce = .ok claims) :
    ∃ report, claims.1 = .object (deviceClaims device report) := by
  simp only [evaluateDeviceLocally, Outcome.bind_eq_ok, Outcome.pure_eq, Outcome.ok.injEq] at h
  obtain ⟨_, -, _, -, _, -, report, -, rfl⟩ := h
  exact ⟨report, rfl⟩

theorem checkNonceMatch_eq_ok {claims : Json} : checkNonceMatch claims = .ok () ↔
    claims.get "x-nvidia-gpu-attestation-report-nonce-match" = some (.bool true) := by
  unfold checkNonceMatch
  split
  · next nonceOk hget => simp [hget, Outcome.ensure_eq_ok]
  · next v hbool hget =>
    refine iff_of_false Outcome.bail_ne_ok fun htrue => ?_
    exact hbool true (Option.some.inj (hget.symm.trans htrue))
  · next hget => exact iff_of_false Outcome.bail_ne_ok (by simp [hget])

/-- What is checked on a remote answer. -/
theorem evaluateDeviceRemotely_eq_ok {jwks : E.NrasJwks} {verifierUrl : Option String}
    {device : NvDeviceReportAndCert} {expectedNonce : Bytes} {claims : Json} {teeClass : String} :
    evaluateDeviceRemotely E jwks verifierUrl device expectedNonce = .ok (claims, teeClass) ↔
      device.arch = .Hopper ∧ teeClass = "gpu" ∧
        VerifiedRemotely E jwks verifierUrl device expectedNonce claims := by
  unfold evaluateDeviceRemotely
  cases harch : device.arch with
  | other name => simp
  | Hopper =>
    simp only [Outcome.bind_eq_ok, Outcome.ofExcept_eq_ok, Outcome.ensure_eq_ok, decide_eq_true_eq,
      Outcome.pure_eq, Outcome.ok.injEq, true_and]
    constructor
    · rintro ⟨res, hres, _, hstatus, response, hresponse, _, hvalid, v, hv, _, hnonce, heq⟩
      cases heq
      exact ⟨rfl, res, response, hres, hstatus, hresponse, hvalid, hv, checkNonceMatch_eq_ok.1 hnonce⟩
    · rintro ⟨rfl, res, response, hres, hstatus, hresponse, hvalid, hclaims, hnonce⟩
      exact ⟨res, hres, (), hstatus, response, hresponse, (), hvalid, claims, hclaims, (),
        checkNonceMatch_eq_ok.2 hnonce, rfl⟩

theorem VerifiedRemotely.nonceMatched {jwks : E.NrasJwks} {verifierUrl : Option String}
    {device : NvDeviceReportAndCert} {expectedNonce : Bytes} {claims : Json}
    (h : VerifiedRemotely E jwks verifierUrl device expectedNonce claims) :
    NonceMatched E device expectedNonce := by
  obtain ⟨res, response, hres, -, hresponse, hvalid, hclaims, hnonce⟩ := h
  exact ⟨jwks, _, res, response, claims, hres, hresponse, hvalid, hclaims,
    checkNonceMatch_eq_ok.2 hnonce⟩

/-- No claims have `init_data`. -/
theorem get_initData_evaluateDevice (hservice : ServiceClaims E) {verifier : Verifier E}
    {expectedNonce : Bytes} {device : NvDeviceReportAndCert} {claims : Json × String}
    (h : evaluateDevice verifier expectedNonce device = .ok claims) :
    claims.1.get "init_data" = none := by
  cases verifier with
  | Local =>
    obtain ⟨report, hclaims⟩ := evaluateDeviceLocally_eq_ok h
    rw [hclaims]
    exact get_deviceClaims device report (by decide)
  | Remote verifierUrl jwks =>
    obtain ⟨-, -, _, response, -, -, -, hvalid, hclaims, -⟩ := evaluateDeviceRemotely_eq_ok.1 h
    simp only [NrasResponse.validate, NrasResponse.claims, Outcome.bind_eq_ok,
      Outcome.ofExcept_eq_ok] at hvalid hclaims
    obtain ⟨_, -, heat⟩ := hvalid
    obtain ⟨payload, hpayload, _, -, hoverall⟩ := hclaims
    exact get_addOverallResult hoverall (hservice jwks response.eat payload heat hpayload)

/-- The loop gives the claims of each device in its turn. -/
theorem evaluateDevices_eq_ok {verifier : Verifier E} {expectedNonce : Bytes}
    {devices : List NvDeviceReportAndCert} {claims : Claims}
    (h : evaluateDevices verifier expectedNonce devices = .ok claims) :
    List.Forall₂ (fun device c => evaluateDevice verifier expectedNonce device = .ok c)
      devices claims := by
  induction devices generalizing claims with
  | nil =>
    cases h
    exact .nil
  | cons device devices ih =>
    simp only [evaluateDevices, Outcome.bind_eq_ok, Outcome.pure_eq, Outcome.ok.injEq] at h
    obtain ⟨c, hc, rest, hrest, rfl⟩ := h
    exact .cons hc (ih hrest)

theorem exists_claims {verifier : Verifier E} {expectedNonce : Bytes}
    {devices : List NvDeviceReportAndCert} {claims : Claims}
    (h : evaluateDevices verifier expectedNonce devices = .ok claims)
    {device : NvDeviceReportAndCert} (hmem : device ∈ devices) :
    ∃ c, evaluateDevice verifier expectedNonce device = .ok c := by
  have hall := evaluateDevices_eq_ok h
  obtain ⟨i, hi, rfl⟩ := List.mem_iff_getElem.1 hmem
  exact ⟨_, hall.get hi (hall.length_eq ▸ hi)⟩

theorem exists_device {verifier : Verifier E} {expectedNonce : Bytes}
    {devices : List NvDeviceReportAndCert} {claims : Claims}
    (h : evaluateDevices verifier expectedNonce devices = .ok claims) {c : Json × String}
    (hmem : c ∈ claims) :
    ∃ device ∈ devices, evaluateDevice verifier expectedNonce device = .ok c := by
  have hall := evaluateDevices_eq_ok h
  obtain ⟨i, hi, rfl⟩ := List.mem_iff_getElem.1 hmem
  have hlt : i < devices.length := hall.length_eq ▸ hi
  exact ⟨_, List.getElem_mem hlt, hall.get hlt hi⟩

theorem evaluate_eq_ok {verifier : Verifier E} {evidence : Json} {reportData : ReportData}
    {initDataHash : InitDataHash} {claims : Claims}
    (h : evaluate verifier evidence reportData initDataHash = .ok claims) :
    ∃ devices expected, devicesFromValue E evidence = .ok devices ∧ reportData = .value expected ∧
      evaluateDevices verifier (regularizeData expected SPDM_NONCE_SIZE) devices = .ok claims := by
  obtain ⟨devices, hdevices, h⟩ := Outcome.bind_eq_ok.1 h
  rw [Outcome.context_eq_ok, Outcome.ofExcept_eq_ok] at hdevices
  cases reportData with
  | value expected => exact ⟨devices, expected, hdevices, rfl, h⟩
  | notProvided => exact absurd h Outcome.bail_ne_ok

/-- The NVIDIA verifier gives a report data claim only where the service matched the nonces. -/
theorem evaluate_bindsReportData (verifier : Verifier E) :
    BindsReportData (evaluate verifier) (ReportDataBound E) := by
  rintro evidence expected initDataHash claims h ⟨c, hc, hsome⟩
  obtain ⟨devices, _, hdevices, heq, hloop⟩ := evaluate_eq_ok h
  cases heq
  cases verifier with
  | Local =>
    obtain ⟨device, -, hdevice⟩ := exists_device hloop hc
    obtain ⟨report, hclaims⟩ := evaluateDeviceLocally_eq_ok hdevice
    rw [hclaims, Json.get_object, get_deviceClaims device report (by decide)] at hsome
    exact absurd hsome Bool.false_ne_true
  | Remote verifierUrl jwks =>
    refine ⟨devices, hdevices, fun device hmem => ?_⟩
    obtain ⟨c, hdevice⟩ := exists_claims hloop hmem
    exact (evaluateDeviceRemotely_eq_ok.1 hdevice).2.2.nonceMatched

/-- The NVIDIA verifier gives no init data claim. -/
theorem evaluate_bindsInitData (hservice : ServiceClaims E) (verifier : Verifier E) :
    BindsInitData (evaluate verifier) fun _ _ => False := by
  rintro evidence reportData expected claims h ⟨c, hc, hsome⟩
  obtain ⟨devices, _, -, -, hloop⟩ := evaluate_eq_ok h
  obtain ⟨device, -, hdevice⟩ := exists_device hloop hc
  rw [get_initData_evaluateDevice hservice hdevice] at hsome
  exact Bool.false_ne_true hsome

/-- Claims for a device are of the class of graphics units. -/
theorem evaluateDevice_class {verifier : Verifier E} {expectedNonce : Bytes}
    {device : NvDeviceReportAndCert} {claims : Json × String}
    (h : evaluateDevice verifier expectedNonce device = .ok claims) : claims.2 = "gpu" := by
  cases verifier with
  | Local =>
    simp only [evaluateDevice, evaluateDeviceLocally, Outcome.bind_eq_ok, Outcome.pure_eq,
      Outcome.ok.injEq] at h
    obtain ⟨_, -, _, -, _, -, report, -, rfl⟩ := h
    rfl
  | Remote verifierUrl jwks => exact (evaluateDeviceRemotely_eq_ok.1 h).2.1

variable (E) in
/-- The number of devices in the evidence. -/
def deviceCount (evidence : Json) : ℕ :=
  match devicesFromValue E evidence with
  | .ok devices => devices.length
  | .error _ => 0

/-- **There are as many claims as there are devices in the evidence**, which may be none. -/
theorem evaluate_classes {verifier : Verifier E} {evidence : Json} {reportData : ReportData}
    {initDataHash : InitDataHash} {claims : Claims}
    (h : evaluate verifier evidence reportData initDataHash = .ok claims) :
    claims.map Prod.snd = List.replicate (deviceCount E evidence) "gpu" := by
  obtain ⟨devices, expected, hdevices, -, hloop⟩ := evaluate_eq_ok h
  have hlength : claims.length = deviceCount E evidence := by
    rw [deviceCount, hdevices]
    exact (evaluateDevices_eq_ok hloop).length_eq.symm
  refine List.eq_replicate_iff.2 ⟨by rw [List.length_map, hlength], fun c hc => ?_⟩
  obtain ⟨claim, hclaim, rfl⟩ := List.mem_map.1 hc
  obtain ⟨device, -, hdevice⟩ := exists_device hloop hclaim
  exact evaluateDevice_class hdevice

end Trustmee.Nvidia
