import Trustmee.Verifier.Interface

/-!
# The Arm CCA verifier

`CCA::evaluate` of the `verifier` crate. The token is appraised here, against trust anchors and
reference values from files, or by a remote service, in a session that the expected report data
opens as its nonce. Here the realm's challenge is compared with the report data; of a remote result
it is the nonce. The init data hash is compared with the realm's personalization value.
-/

namespace Trustmee.Cca

/-! ## Claims -/

/-- `RealmClaims`. -/
structure RealmClaims where
  personalizationValue : String
  initialMeasurement : String
  extensibleMeasurements : List String
  hashAlgoId : String
  challenge : String

/-- `CcaPlatformClaims`. -/
structure CcaPlatformClaims where
  instanceId : String
  implementationId : String

/-- `EvidenceClaimsSet`. -/
structure EvidenceClaimsSet where
  realm : RealmClaims
  platform : CcaPlatformClaims
  reportData : String
  initData : String

/-- The derived `Deserialize`. -/
def RealmClaims.fromValue (v : Json) : Except String RealmClaims := do
  let m ← Deserialize.fields "RealmClaims"
    ["cca-realm-personalization-value", "cca-realm-initial-measurement",
      "cca-realm-extensible-measurements", "cca-realm-hash-algo-id", "cca-realm-challenge"] 5 v
  let personalizationValue ←
    Deserialize.required Deserialize.string m "cca-realm-personalization-value"
  let initialMeasurement ← Deserialize.required Deserialize.string m "cca-realm-initial-measurement"
  let extensibleMeasurements ←
    Deserialize.required (Deserialize.vec Deserialize.string) m "cca-realm-extensible-measurements"
  let hashAlgoId ← Deserialize.required Deserialize.string m "cca-realm-hash-algo-id"
  let challenge ← Deserialize.required Deserialize.string m "cca-realm-challenge"
  return ⟨personalizationValue, initialMeasurement, extensibleMeasurements, hashAlgoId, challenge⟩

/-- The derived `Deserialize`. -/
def CcaPlatformClaims.fromValue (v : Json) : Except String CcaPlatformClaims := do
  let m ← Deserialize.fields "CcaPlatformClaims"
    ["cca-platform-instance-id", "cca-platform-implementation-id"] 2 v
  let instanceId ← Deserialize.required Deserialize.string m "cca-platform-instance-id"
  let implementationId ← Deserialize.required Deserialize.string m "cca-platform-implementation-id"
  return ⟨instanceId, implementationId⟩

/-- `cca_generate_parsed_claim`. -/
def ccaGenerateParsedClaim (tcb : EvidenceClaimsSet) : Json := .object (Json.Map.ofList
  [("realm", .object (Json.Map.ofList
     [("cca-realm-personalization-value", .string tcb.realm.personalizationValue),
      ("cca-realm-initial-measurement", .string tcb.realm.initialMeasurement),
      ("cca-realm-extensible-measurements",
        .array (tcb.realm.extensibleMeasurements.map .string)),
      ("cca-realm-hash-algo-id", .string tcb.realm.hashAlgoId),
      ("cca-realm-challenge", .string tcb.realm.challenge)])),
   ("platform", .object (Json.Map.ofList
     [("cca-platform-instance-id", .string tcb.platform.instanceId),
      ("cca-platform-implementation-id", .string tcb.platform.implementationId)])),
   ("report_data", .string tcb.reportData),
   ("init_data", .string tcb.initData)])

/-! ## Tokens and results -/

/-- The claims of a decoded token that the verifier reads. -/
structure TokenEvidence where
  perso : Bytes
  rim : Bytes
  rem0 : Bytes
  rem1 : Bytes
  rem2 : Bytes
  rem3 : Bytes
  challenge : Bytes
  hashAlg : String
  instId : Bytes
  implId : Bytes

/-- `CcaVerifierConfig`. -/
inductive CcaVerifierConfig
  | Local (taStore rvStore : String)
  | Remote (address : String) (caCert : Option String)

/-- An attestation result: its nonce, and the annotated evidence of its submodules. -/
structure Ear (Annotated : Type) where
  nonce : Option String
  submods : List (String × Annotated)

/-- What the verifier takes from other crates, its files and the remote service. -/
structure Env where
  serde : SerdeJson
  configFile : String
  /-- `Config::try_from` of the file. -/
  config : Except String CcaVerifierConfig
  /-- `fs::read_to_string`. -/
  readToString : String → Except String String
  TrustAnchors : Type
  loadTrustAnchors : String → Except String TrustAnchors
  RefValues : Type
  loadRefValues : String → Except String RefValues
  /-- `Evidence::decode`. -/
  decode : Bytes → Except String TokenEvidence
  /-- `Evidence::verify`. -/
  verify : TrustAnchors → TokenEvidence → Except String Unit
  /-- `Evidence::appraise`. -/
  appraise : RefValues → TokenEvidence → Except String Unit
  /-- The instance identity in the realm's trust vector is affirming. -/
  isAffirming : TrustAnchors → RefValues → TokenEvidence → Bool
  /-- The annotated evidence of a submodule, which maps names to raw values of the `ear` crate. -/
  Annotated : Type
  annotatedFromStr : String → Except String Annotated
  annotatedToString : Annotated → Except String String
  /-- The challenge-response session of the service at an address: its result, and the key that
  the service announced. -/
  session : String → Option String → Bytes → Bytes → Outcome (String × String)
  /-- `Ear::from_jwt_jwk`. -/
  fromJwt : String → String → Except String (Ear Annotated)

variable (E : Env)

/-- `realm_annotated_evidence`. -/
def realmAnnotatedEvidence (e : TokenEvidence) : Outcome E.Annotated :=
  let j : Json := .object (Json.Map.ofList
    [("cca-realm-challenge", .string (Base64.encode e.challenge)),
     ("cca-realm-extensible-measurements", .array
       [.string (Base64.encode e.rem0), .string (Base64.encode e.rem1),
        .string (Base64.encode e.rem2), .string (Base64.encode e.rem3)]),
     ("cca-realm-hash-algo-id", .string e.hashAlg),
     ("cca-realm-initial-measurement", .string (Base64.encode e.rim)),
     ("cca-realm-personalization-value", .string (Base64.encode e.perso))])
  .ofExcept (E.annotatedFromStr j.print)

/-- `platform_annotated_evidence`. -/
def platformAnnotatedEvidence (e : TokenEvidence) : Outcome E.Annotated :=
  let j : Json := .object (Json.Map.ofList
    [("cca-platform-instance-id", .string (Base64.encode e.instId)),
     ("cca-platform-implementation-id", .string (Base64.encode e.implId))])
  .ofExcept (E.annotatedFromStr j.print)

/-- `verify` of the module `local`. -/
def verifyLocal (taStore rvStore : String) (token expectedReportData : Bytes) :
    Outcome (Ear E.Annotated) := do
  let jta ← (Outcome.ofExcept (E.readToString taStore)).context "loading TA store"
  let jrv ← (Outcome.ofExcept (E.readToString rvStore)).context "loading RV store"
  let tas ← (Outcome.ofExcept (E.loadTrustAnchors jta)).context
    ("loading trust anchors from JSON store " ++ taStore)
  let rvs ← (Outcome.ofExcept (E.loadRefValues jrv)).context
    ("loading reference values from JSON store " ++ rvStore)
  let e ← (Outcome.ofExcept (E.decode token)).context "decoding CCA evidence"
  (Outcome.ofExcept (E.verify tas e)).context "verifying CCA evidence"
  (Outcome.ofExcept (E.appraise rvs e)).context "appraising CCA evidence"
  Outcome.ensure (E.isAffirming tas rvs e) "RAK signature or RAK attestation could not be verified"
  Outcome.ensure (expectedReportData == e.challenge)
    "realm token challenge claim does not match expected_report_data"
  let realm ← (realmAnnotatedEvidence E e).context "synthesizing CCA Realm TCB claims-set"
  let platform ← (platformAnnotatedEvidence E e).context "syntesizing CCA Platform TCB claims-set"
  return ⟨none, [("CCA_SSD_PLATFORM", platform), ("CCA_REALM", realm)]⟩

/-- The nonce of a remote result. -/
def checkNonce (earNonce : Option String) (expectedReportData : Bytes) : Outcome Unit :=
  match earNonce with
  | some earNonce => do
    let nonceByte ← (Outcome.okOr (Base64.decodeUrlSafe earNonce) "invalid base64").context
      "base64-decoding nonce from EAR"
    Outcome.ensure (expectedReportData == nonceByte) ("nonce verification failed: want " ++
      hexEncode expectedReportData ++ ", got " ++ hexEncode nonceByte)
  | none => .bail "no nonce found in EAR"

/-- `verify` of the module `remote`. -/
def verifyRemote (address : String) (caCert : Option String) (token expectedReportData : Bytes) :
    Outcome (Ear E.Annotated) := do
  let result ← E.session address caCert expectedReportData token
  let plainEar ← (Outcome.ofExcept (E.fromJwt result.1 result.2)).context
    "decrypting EAR with the decoding key"
  checkNonce plainEar.nonce expectedReportData
  return plainEar

/-- `b642hex`. -/
def b642hex (b64 : String) : Outcome String := do
  let buf ← decodeBase64 b64
  return hexEncode buf

/-- `assemble_cca_evidence`. -/
def assembleCcaEvidence (realmClaims platformClaims : E.Annotated) : Outcome EvidenceClaimsSet := do
  let output ← Outcome.ofExcept (E.annotatedToString platformClaims)
  let platform ← Outcome.ofExcept (E.serde.fromStr CcaPlatformClaims.fromValue output)
  let output ← Outcome.ofExcept (E.annotatedToString realmClaims)
  let realm ← Outcome.ofExcept (E.serde.fromStr RealmClaims.fromValue output)
  let initData ← b642hex realm.personalizationValue
  let reportData ← b642hex realm.challenge
  return ⟨realm, platform, reportData, initData⟩

/-! ## The evaluation -/

/-- `CcaEvidence`: the bytes of the token. -/
def tokenFromValue (v : Json) : Except String Bytes := do
  let m ← Deserialize.fields "CcaEvidence" ["token"] 1 v
  Deserialize.required (Deserialize.vec Deserialize.u8) m "token"

/-- The appraisal, here or at the remote service. -/
def verifyToken (config : CcaVerifierConfig) (token expectedReportData : Bytes) :
    Outcome (Ear E.Annotated) :=
  match config with
  | .Remote address caCert => verifyRemote E address caCert token expectedReportData
  | .Local taStore rvStore => verifyLocal E taStore rvStore token expectedReportData

/-- The claims of an attestation result. -/
def claimsOf (ear : Ear E.Annotated) : Outcome EvidenceClaimsSet := do
  let realm ← Outcome.okOr (ear.submods.lookup "CCA_REALM") "no entry found for CCA_REALM"
  let platform ← Outcome.okOr (ear.submods.lookup "CCA_SSD_PLATFORM")
    "no entry found for CCA_SSD_PLATFORM"
  assembleCcaEvidence E realm platform

/-- The binding of the init data. -/
def checkInitData (tcb : EvidenceClaimsSet) : InitDataHash → Outcome Unit
  | .value expected => do
    let value ← (decodeBase64 tcb.realm.personalizationValue).context "Failed to decode base64"
    Outcome.ensure (expected == value) "init data hash is different from that in CCA token"
  | .notProvided => .ok ()

/-- `CCA::evaluate`. -/
def evaluate (evidence : Json) (expectedReportData : ReportData)
    (expectedInitDataHash : InitDataHash) : Outcome Claims := do
  let config ← (Outcome.ofExcept E.config).mapErr
    fun e => ["parsing " ++ E.configFile ++ ": " ++ e.debug]
  match expectedReportData with
  | .value expectedReportData => do
    let expectedReportData := regularizeData expectedReportData 64
    let token ← (Outcome.ofExcept (tokenFromValue evidence)).context
      "Deserialize CCA Evidence failed."
    let ear ← verifyToken E config token expectedReportData
    let tcb ← claimsOf E ear
    checkInitData tcb expectedInitDataHash
    return [(ccaGenerateParsedClaim tcb, "cpu")]
  | .notProvided => .bail "CCA verifier must provide report data field!"

/-! ## What the claims mean -/

/-- What the appraisal compares with the report data: the challenge in the token, or the nonce in
the result of the session that the report data opened. -/
def TokenBound (config : CcaVerifierConfig) (token expected : Bytes) : Prop :=
  match config with
  | .Local _ _ => ∃ e, E.decode token = .ok e ∧ expected = e.challenge
  | .Remote address caCert => ∃ result ear nonce,
      E.session address caCert expected token = .ok result ∧
        E.fromJwt result.1 result.2 = .ok ear ∧ ear.nonce = some nonce ∧
        Base64.decodeUrlSafe nonce = some expected

/-- The report data of the token is the expected one, brought to its length. -/
def ReportDataBound (evidence : Json) (expected : Bytes) : Prop :=
  ∃ config token, E.config = .ok config ∧ tokenFromValue evidence = .ok token ∧
    TokenBound E config token (regularizeData expected 64)

/-- The personalization value of the realm, in the result of the token's appraisal, is the expected
hash. -/
def InitDataBound (evidence : Json) (expected : Bytes) : Prop :=
  ∃ config token nonce ear tcb, E.config = .ok config ∧ tokenFromValue evidence = .ok token ∧
    verifyToken E config token nonce = .ok ear ∧ claimsOf E ear = .ok tcb ∧
    Base64.decode tcb.realm.personalizationValue = some expected

theorem checkNonce_eq_ok {earNonce : Option String} {expected : Bytes} :
    checkNonce earNonce expected = .ok () ↔
      ∃ nonce, earNonce = some nonce ∧ Base64.decodeUrlSafe nonce = some expected := by
  unfold checkNonce
  split
  · next nonce =>
    simp only [Outcome.bind_eq_ok, Outcome.context_eq_ok, Outcome.okOr_eq_ok, Outcome.ensure_eq_ok,
      beq_iff_eq, Option.some.injEq]
    constructor
    · rintro ⟨b, hb, rfl⟩
      exact ⟨nonce, rfl, hb⟩
    · rintro ⟨_, rfl, hb⟩
      exact ⟨expected, hb, rfl⟩
  · simp

/-- The appraisal compares the report data. -/
theorem tokenBound_of_verifyToken {config : CcaVerifierConfig} {token expected : Bytes}
    {ear : Ear E.Annotated} (h : verifyToken E config token expected = .ok ear) :
    TokenBound E config token expected := by
  cases config with
  | Local taStore rvStore =>
    simp only [verifyToken, verifyLocal, Outcome.bind_eq_ok, Outcome.context_eq_ok,
      Outcome.ofExcept_eq_ok, Outcome.ensure_eq_ok, beq_iff_eq] at h
    obtain ⟨_, -, _, -, _, -, _, -, e, he, _, -, _, -, _, -, _, hchallenge, -⟩ := h
    exact ⟨e, he, hchallenge⟩
  | Remote address caCert =>
    simp only [verifyToken, verifyRemote, Outcome.bind_eq_ok, Outcome.context_eq_ok,
      Outcome.ofExcept_eq_ok] at h
    obtain ⟨result, hresult, ear, hear, _, hnonce, -⟩ := h
    obtain ⟨nonce, hsome, hdecode⟩ := checkNonce_eq_ok.1 hnonce
    exact ⟨result, ear, nonce, hresult, hear, hsome, hdecode⟩

theorem checkInitData_value {tcb : EvidenceClaimsSet} {expected : Bytes}
    (h : checkInitData tcb (.value expected) = .ok ()) :
    Base64.decode tcb.realm.personalizationValue = some expected := by
  simp only [checkInitData, Outcome.bind_eq_ok, Outcome.context_eq_ok, decodeBase64_eq_ok,
    Outcome.ensure_eq_ok, beq_iff_eq] at h
  obtain ⟨value, hvalue, rfl⟩ := h
  exact hvalue

/-- The steps of an accepted evaluation. -/
theorem evaluate_checks {evidence : Json} {reportData : ReportData} {initDataHash : InitDataHash}
    {claims : Claims} (h : evaluate E evidence reportData initDataHash = .ok claims) :
    ∃ config expected token ear tcb, E.config = .ok config ∧ reportData = .value expected ∧
      tokenFromValue evidence = .ok token ∧
      verifyToken E config token (regularizeData expected 64) = .ok ear ∧
      claimsOf E ear = .ok tcb ∧ checkInitData tcb initDataHash = .ok () := by
  obtain ⟨config, hconfig, h⟩ := Outcome.bind_eq_ok.1 h
  cases reportData with
  | value expected =>
    simp only [Outcome.bind_eq_ok, Outcome.context_eq_ok, Outcome.ofExcept_eq_ok] at h
    obtain ⟨token, htoken, ear, hear, tcb, htcb, _, hinit, -⟩ := h
    rw [Outcome.mapErr_eq_ok, Outcome.ofExcept_eq_ok] at hconfig
    exact ⟨config, expected, token, ear, tcb, hconfig, rfl, htoken, hear, htcb, hinit⟩
  | notProvided => exact absurd h Outcome.bail_ne_ok

/-- The CCA verifier compares the report data. -/
theorem evaluate_bindsReportData : BindsReportData (evaluate E) (ReportDataBound E) := by
  intro evidence expected initDataHash claims h _
  obtain ⟨config, _, token, ear, -, hconfig, heq, htoken, hear, -⟩ := evaluate_checks E h
  cases heq
  exact ⟨config, token, hconfig, htoken, tokenBound_of_verifyToken E hear⟩

/-- The CCA verifier compares the init data hash. -/
theorem evaluate_bindsInitData : BindsInitData (evaluate E) (InitDataBound E) := by
  intro evidence reportData expected claims h _
  obtain ⟨config, _, token, ear, tcb, hconfig, -, htoken, hear, htcb, hinit⟩ := evaluate_checks E h
  exact ⟨config, token, _, ear, tcb, hconfig, htoken, hear, htcb, checkInitData_value hinit⟩

/-- One piece of claims comes from accepted evidence. -/
theorem evaluate_givesOne : GivesOne (evaluate E) "cpu" := by
  intro evidence reportData initDataHash
  refine .bind fun config _ => ?_
  cases reportData with
  | value expected =>
    exact .bind fun _ _ => .bind fun _ _ => .bind fun _ _ => .bind fun _ _ => .ok ⟨_, rfl⟩
  | notProvided => exact .bail

end Trustmee.Cca
