import Trustmee.Kbs.Backend
import Trustmee.Service.Evaluate

/-!
# The attestation service behind the KBS

The KBS verifies evidence with an attestation service that is built in, or with one that it calls
over gRPC. Built in, the evidence becomes verification requests directly. Over gRPC it is sent as
texts, which the server reads back. The server's table of TEEs lacks the sample device, so that its
requests are refused there; all others are the same on both ways (`requests_agree`).
-/

namespace Trustmee.Kbs

open AttestationService (VerificationRequest HashAlgorithm InitDataInput Service)

/-- The verification requests and the policy ids of a call of `AttestationService::evaluate`. -/
abbrev Evaluation := List VerificationRequest × List String

/-- The TOML text of init data: no other format is sent. -/
def initDataToml (initData : Option InitData) : Outcome (Option String) :=
  match initData with
  | some initData =>
    if initData.format ≠ "toml" then .bail ("Unsupported initdata format: " ++ initData.format)
    else .ok (some initData.body)
  | none => .ok none

/-! ## Built in -/

namespace BuiltInCoCoAs

/-- The request for a piece of evidence, given the TOML text of its init data. -/
def requestOf (evidence : IndependentEvidence) (toml : Option String) : VerificationRequest where
  evidence := evidence.teeEvidence
  tee := evidence.tee
  runtimeData := some (.Structured evidence.runtimeData)
  runtimeDataHashAlgorithm := .Sha384
  initData := toml.map .Toml
  verifierComponent := none
  verifierComponentId := none

def verificationRequest (evidence : IndependentEvidence) : Outcome VerificationRequest := do
  let toml ← initDataToml evidence.initData
  return requestOf evidence toml

/-- `BuiltInCoCoAs::verify`, up to `evaluate`. -/
def requests (evidenceToVerify : List IndependentEvidence) : Outcome Evaluation := do
  let verificationRequests ← Outcome.traverse verificationRequest evidenceToVerify
  return (verificationRequests, ["default"])

/-- `BuiltInCoCoAs::verify`. -/
def verify (S : Service) (evidenceToVerify : List IndependentEvidence) : Outcome String := do
  let evaluation ← requests evidenceToVerify
  AttestationService.evaluate S evaluation.1 evaluation.2

end BuiltInCoCoAs

/-! ## Over gRPC -/

namespace Grpc

/-- `individual_attestation_request::RuntimeData`. -/
inductive RuntimeData
  | RawRuntimeData (raw : String)
  | StructuredRuntimeData (structured : String)

/-- `individual_attestation_request::InitData`. -/
inductive InitData
  | InitDataDigest (raw : String)
  | InitDataToml (structured : String)

/-- `IndividualAttestationRequest`. -/
structure IndividualAttestationRequest where
  tee : String
  evidence : String
  runtimeData : Option RuntimeData
  initData : Option InitData
  runtimeDataHashAlgorithm : String

/-- `AttestationRequest`. -/
structure AttestationRequest where
  verificationRequests : List IndividualAttestationRequest
  policyIds : List String

/-- What the two ends take from other crates. -/
structure Env where
  serde : SerdeJson
  /-- `serde_json::to_string::<Tee>`. -/
  teeToString : Tee → Except String String
  /-- `HashAlgorithm::try_from`. -/
  hashAlgorithmTryFrom : String → Except String HashAlgorithm

def COCO_AS_HASH_ALGORITHM : String := "sha384"

variable (G : Env)

/-! ### The client -/

/-- The message for a piece of evidence, given the name of its TEE and the TOML text of its init
data. -/
def messageOf (evidence : IndependentEvidence) (tee : String) (toml : Option String) :
    IndividualAttestationRequest where
  tee := tee
  evidence := Base64.encodeUrlSafeNoPad (toUtf8 evidence.teeEvidence.print)
  runtimeData := some (.StructuredRuntimeData evidence.runtimeData.print)
  initData := toml.map .InitDataToml
  runtimeDataHashAlgorithm := COCO_AS_HASH_ALGORITHM

def individualRequest (evidence : IndependentEvidence) :
    Outcome IndividualAttestationRequest := do
  let tee ← (Outcome.ofExcept (G.teeToString evidence.tee)).context
    "CoCo AS client: serialize tee type failed."
  let toml ← initDataToml evidence.initData
  return messageOf evidence (trimStartMatches (trimEndMatches tee '"') '"') toml

/-- `GrpcClientPool::verify`, up to the call. -/
def attestationRequest (evidenceToVerify : List IndependentEvidence) :
    Outcome AttestationRequest := do
  let verificationRequests ← Outcome.traverse (individualRequest G) evidenceToVerify
  return ⟨verificationRequests, ["default"]⟩

/-! ### The server -/

/-- `to_kbs_tee`. -/
def toKbsTee (tee : String) : Outcome Tee :=
  match tee with
  | "sev" => .ok .Sev
  | "sgx" => .ok .Sgx
  | "snp" => .ok .Snp
  | "tdx" => .ok .Tdx
  | "csv" => .ok .Csv
  | "sample" => .ok .Sample
  | "az-snp-vtpm" => .ok .AzSnpVtpm
  | "cca" => .ok .Cca
  | "az-tdx-vtpm" => .ok .AzTdxVtpm
  | "se" => .ok .Se
  | "hygondcu" => .ok .HygonDcu
  | "nvidia" => .ok .Nvidia
  | "tpm" => .ok .Tpm
  | other => .bail ("Unsupported TEE type: " ++ other)

/-- `Status::aborted` of an error. -/
def aborted {α : Type} (msg : String) (x : Outcome α) : Outcome α :=
  x.mapErr fun e => [msg ++ ": " ++ e.headD ""]

/-- The runtime data of a message. -/
def readRuntimeData (runtimeData : Option RuntimeData) :
    Outcome (Option AttestationService.RuntimeData) :=
  match runtimeData with
  | some (.RawRuntimeData raw) => do
    let rawRuntime ← aborted "base64 decode runtime data" (decodeUrlSafeNoPad raw)
    return some (.Raw rawRuntime)
  | some (.StructuredRuntimeData structured) => do
    let structured ← aborted "parse structured runtime data"
      (.ofExcept (G.serde.fromStr .ok structured))
    return some (.Structured structured)
  | none => .ok none

/-- The init data of a message. -/
def readInitData (initData : Option InitData) : Outcome (Option InitDataInput) :=
  match initData with
  | some (.InitDataDigest raw) => do
    let rawInit ← aborted "base64 decode init data" (decodeUrlSafeNoPad raw)
    return some (.Digest rawInit)
  | some (.InitDataToml structured) => .ok (some (.Toml structured))
  | none => .ok none

/-- The hash algorithm of a message, with its default. -/
def readHashAlgorithm (algorithm : String) : Outcome HashAlgorithm :=
  if algorithm = "" then .ok .Sha384
  else aborted "parse runtime data HashAlgorithm failed"
    (.ofExcept (G.hashAlgorithmTryFrom algorithm))

def verificationRequest (request : IndividualAttestationRequest) : Outcome VerificationRequest := do
  let tee ← aborted "parse TEE type" (toKbsTee request.tee)
  let evidence ← aborted "Illegal input Evidence" (decodeUrlSafeNoPad request.evidence)
  let evidence ← aborted "failed to parse tee evidence"
    (.ofExcept (G.serde.fromSlice .ok evidence))
  let runtimeData ← readRuntimeData G request.runtimeData
  let initData ← readInitData request.initData
  let runtimeDataHashAlgorithm ← readHashAlgorithm G request.runtimeDataHashAlgorithm
  return {
    evidence
    tee
    runtimeData
    runtimeDataHashAlgorithm
    initData
    verifierComponent := none
    verifierComponentId := none }

/-- `attestation_evaluate`, up to `evaluate`. -/
def readRequest (request : AttestationRequest) : Outcome Evaluation := do
  let verificationRequests ← Outcome.traverse (verificationRequest G) request.verificationRequests
  return (verificationRequests, if request.policyIds = [] then ["default"] else request.policyIds)

/-- What the server makes of what the client sends. -/
def requests (evidenceToVerify : List IndependentEvidence) : Outcome Evaluation := do
  let request ← attestationRequest G evidenceToVerify
  readRequest G request

/-- `GrpcClientPool::verify`, with the service of the server. -/
def verify (S : Service) (evidenceToVerify : List IndependentEvidence) : Outcome String := do
  let evaluation ← requests G evidenceToVerify
  (AttestationService.evaluate S evaluation.1 evaluation.2).mapErr fun e =>
    ["Attestation evaluation failed: \n" ++ String.intercalate "\n" (e.zipIdx.map fun cause =>
      toString cause.2 ++ ": " ++ cause.1)]

end Grpc

/-! ## Agreement -/

namespace Grpc

/-- How a TEE is serialised: by its name in lower case, but for the two of Azure. -/
def teeName : Tee → String
  | .AzSnpVtpm => "az-snp-vtpm"
  | .AzTdxVtpm => "az-tdx-vtpm"
  | .Cca => "cca"
  | .Csv => "csv"
  | .HygonDcu => "hygondcu"
  | .Nvidia => "nvidia"
  | .Sample => "sample"
  | .SampleDevice => "sampledevice"
  | .Se => "se"
  | .Sev => "sev"
  | .Sgx => "sgx"
  | .Snp => "snp"
  | .Tdx => "tdx"
  | .Tpm => "tpm"

/-- What the proofs assume of `kbs_types`. -/
structure Assumptions (G : Env) : Prop where
  teeToString : ∀ tee, G.teeToString tee = .ok (Json.string (teeName tee)).print
  sha384 : G.hashAlgorithmTryFrom COCO_AS_HASH_ALGORITHM = .ok .Sha384

/-- The texts of a piece of evidence read back. -/
def ReadsBack (G : Env) (evidence : IndependentEvidence) : Prop :=
  G.serde.Reads .ok evidence.teeEvidence ∧ G.serde.Reads .ok evidence.runtimeData

/-- Both ways the service sees the same requests and policy ids, or both end with an error before
it sees any. -/
def SameRequests (G : Env) (evidenceToVerify : List IndependentEvidence) : Prop :=
  (∃ evaluation, requests G evidenceToVerify = .ok evaluation ∧
    BuiltInCoCoAs.requests evidenceToVerify = .ok evaluation) ∨
  ((∃ e, requests G evidenceToVerify = .err e) ∧
    ∃ e, BuiltInCoCoAs.requests evidenceToVerify = .err e)

/-- The init data of a piece of evidence is in a format that is sent. -/
def Supported (evidence : IndependentEvidence) : Prop :=
  ∀ initData, evidence.initData = some initData → initData.format = "toml"

theorem initDataToml_of_supported {evidence : IndependentEvidence} (h : Supported evidence) :
    initDataToml evidence.initData = .ok (evidence.initData.map (·.body)) := by
  unfold initDataToml
  cases hinit : evidence.initData with
  | none => rfl
  | some initData => exact if_neg fun hne => hne (h initData hinit)

theorem initDataToml_of_not_supported {evidence : IndependentEvidence} (h : ¬ Supported evidence) :
    ∃ e, initDataToml evidence.initData = .err e := by
  simp only [Supported, not_forall] at h
  obtain ⟨initData, hinit, hformat⟩ := h
  rw [hinit]
  exact ⟨_, if_pos hformat⟩

theorem returns_initDataToml (initData : Option Trustmee.InitData) :
    (initDataToml initData).Returns := by
  unfold initDataToml
  cases initData with
  | none => exact Outcome.returns_ok _
  | some initData =>
    dsimp only
    split_ifs
    · exact Outcome.returns_bail _
    · exact Outcome.returns_ok _

variable {G : Env}

/-- The quotes around the name are trimmed. -/
theorem trim_teeName (tee : Tee) :
    trimStartMatches (trimEndMatches (Json.string (teeName tee)).print '"') '"' = teeName tee := by
  cases tee <;> decide

theorem individualRequest_eq (hG : Assumptions G) (evidence : IndependentEvidence) :
    individualRequest G evidence = (initDataToml evidence.initData >>= fun toml =>
      .ok (messageOf evidence (teeName evidence.tee) toml)) := by
  simp only [individualRequest, hG.teeToString, Outcome.ofExcept, Outcome.context, Outcome.ok_bind,
    trim_teeName, Outcome.pure_eq]

theorem toKbsTee_teeName {tee : Tee} (h : tee ≠ .SampleDevice) :
    toKbsTee (teeName tee) = .ok tee := by
  cases tee with
  | SampleDevice => exact absurd rfl h
  | _ => rfl

/-- The server reads the message for a piece of evidence as the request for it. -/
theorem verificationRequest_messageOf (hG : Assumptions G) {evidence : IndependentEvidence}
    (hreads : ReadsBack G evidence) (htee : evidence.tee ≠ .SampleDevice) (toml : Option String) :
    verificationRequest G (messageOf evidence (teeName evidence.tee) toml) =
      .ok (BuiltInCoCoAs.requestOf evidence toml) := by
  have hevidence : G.serde.fromSlice .ok (toUtf8 evidence.teeEvidence.print) =
      .ok evidence.teeEvidence := by
    rw [SerdeJson.fromSlice, fromUtf8_toUtf8]
    exact (hreads.1 _).2 rfl
  have hruntime := (hreads.2 evidence.runtimeData).2 rfl
  have halgorithm : readHashAlgorithm G COCO_AS_HASH_ALGORITHM = .ok .Sha384 := by
    rw [readHashAlgorithm, if_neg (by decide), hG.sha384]
    rfl
  cases toml <;>
    simp [verificationRequest, messageOf, toKbsTee_teeName htee, aborted, decodeUrlSafeNoPad,
      Outcome.okOr, Outcome.mapErr, Outcome.ofExcept, hevidence, readRuntimeData, hruntime,
      readInitData, halgorithm, BuiltInCoCoAs.requestOf]

/-- The server has no name for the sample device. -/
theorem verificationRequest_sampleDevice {evidence : IndependentEvidence}
    (htee : evidence.tee = .SampleDevice) (toml : Option String) :
    ∃ e, verificationRequest G (messageOf evidence (teeName evidence.tee) toml) = .err e := by
  rw [htee]
  exact ⟨_, rfl⟩

theorem returns_toKbsTee (tee : String) : (toKbsTee tee).Returns := by
  unfold toKbsTee
  split <;> first | exact Outcome.returns_ok _ | exact Outcome.returns_bail _

theorem returns_readRuntimeData (G : Env) (runtimeData : Option RuntimeData) :
    (readRuntimeData G runtimeData).Returns := by
  unfold readRuntimeData
  split
  · exact ((Outcome.returns_okOr _ _).mapErr _).bind fun _ _ => Outcome.returns_ok _
  · exact ((Outcome.returns_ofExcept _).mapErr _).bind fun _ _ => Outcome.returns_ok _
  · exact Outcome.returns_ok _

theorem returns_readInitData (initData : Option InitData) : (readInitData initData).Returns := by
  unfold readInitData
  split
  · exact ((Outcome.returns_okOr _ _).mapErr _).bind fun _ _ => Outcome.returns_ok _
  · exact Outcome.returns_ok _
  · exact Outcome.returns_ok _

theorem returns_readHashAlgorithm (G : Env) (algorithm : String) :
    (readHashAlgorithm G algorithm).Returns := by
  unfold readHashAlgorithm
  split_ifs
  · exact Outcome.returns_ok _
  · exact (Outcome.returns_ofExcept _).mapErr _

/-- The server answers each message. -/
theorem returns_verificationRequest (G : Env) (request : IndividualAttestationRequest) :
    (verificationRequest G request).Returns := by
  refine ((returns_toKbsTee _).mapErr _).bind fun _ _ => ?_
  refine ((Outcome.returns_okOr _ _).mapErr _).bind fun _ _ => ?_
  refine ((Outcome.returns_ofExcept _).mapErr _).bind fun _ _ => ?_
  refine (returns_readRuntimeData G _).bind fun _ _ => ?_
  refine (returns_readInitData _).bind fun _ _ => ?_
  exact (returns_readHashAlgorithm G _).bind fun _ _ => Outcome.returns_ok _

section

variable {evidenceToVerify : List IndependentEvidence}

/-- Init data in another format stops both. -/
theorem sameRequests_of_not_supported (hG : Assumptions G)
    (h : ∃ evidence ∈ evidenceToVerify, ¬ Supported evidence) :
    SameRequests G evidenceToVerify := by
  obtain ⟨bad, hbad, hnot⟩ := h
  obtain ⟨e, he⟩ := initDataToml_of_not_supported hnot
  have hclient : ∃ e, Outcome.traverse (individualRequest G) evidenceToVerify = .err e := by
    refine Outcome.exists_traverse_eq_err (fun evidence _ => ?_) ⟨bad, hbad, e, ?_⟩
    · rw [individualRequest_eq hG]
      exact (returns_initDataToml _).bind fun _ _ => Outcome.returns_ok _
    · rw [individualRequest_eq hG, he, Outcome.err_bind]
  have hbuiltIn : ∃ e, Outcome.traverse BuiltInCoCoAs.verificationRequest evidenceToVerify =
      .err e := by
    refine Outcome.exists_traverse_eq_err (fun evidence _ => ?_) ⟨bad, hbad, e, ?_⟩
    · exact (returns_initDataToml _).bind fun _ _ => Outcome.returns_ok _
    · rw [BuiltInCoCoAs.verificationRequest, he, Outcome.err_bind]
  obtain ⟨e₁, he₁⟩ := hclient
  obtain ⟨e₂, he₂⟩ := hbuiltIn
  refine .inr ⟨⟨e₁, ?_⟩, e₂, ?_⟩
  · rw [requests, attestationRequest, he₁, Outcome.err_bind, Outcome.err_bind]
  · rw [BuiltInCoCoAs.requests, he₂, Outcome.err_bind]

/-- The requests that the built-in service makes. -/
theorem builtIn_requests_of_supported
    (hsupported : ∀ evidence ∈ evidenceToVerify, Supported evidence) :
    BuiltInCoCoAs.requests evidenceToVerify = .ok
      (evidenceToVerify.map fun evidence => BuiltInCoCoAs.requestOf evidence
        (evidence.initData.map (·.body)), ["default"]) := by
  rw [BuiltInCoCoAs.requests, Outcome.traverse_eq_ok_map fun evidence hmem => ?_,
    Outcome.ok_bind, Outcome.pure_eq]
  rw [BuiltInCoCoAs.verificationRequest, initDataToml_of_supported (hsupported evidence hmem),
    Outcome.ok_bind, Outcome.pure_eq]

/-- The messages that the server reads. -/
theorem requests_of_supported (hG : Assumptions G)
    (hsupported : ∀ evidence ∈ evidenceToVerify, Supported evidence) :
    requests G evidenceToVerify = (Outcome.traverse (fun evidence =>
      verificationRequest G (messageOf evidence (teeName evidence.tee)
        (evidence.initData.map (·.body)))) evidenceToVerify >>= fun verificationRequests =>
      .ok (verificationRequests, ["default"])) := by
  have hclient : Outcome.traverse (individualRequest G) evidenceToVerify = .ok
      (evidenceToVerify.map fun evidence => messageOf evidence (teeName evidence.tee)
        (evidence.initData.map (·.body))) := by
    refine Outcome.traverse_eq_ok_map fun evidence hmem => ?_
    rw [individualRequest_eq hG, initDataToml_of_supported (hsupported evidence hmem),
      Outcome.ok_bind]
  rw [requests, attestationRequest, hclient, Outcome.ok_bind, Outcome.pure_eq, Outcome.ok_bind,
    readRequest, Outcome.traverse_map]
  rfl

/-- Without a sample device both ways agree. -/
theorem sameRequests_of_tees (hG : Assumptions G)
    (hreads : ∀ evidence ∈ evidenceToVerify, ReadsBack G evidence)
    (htee : ∀ evidence ∈ evidenceToVerify, evidence.tee ≠ .SampleDevice) :
    SameRequests G evidenceToVerify := by
  by_cases hformat : ∃ evidence ∈ evidenceToVerify, ¬ Supported evidence
  · exact sameRequests_of_not_supported hG hformat
  · have hsupported : ∀ evidence ∈ evidenceToVerify, Supported evidence := by
      simpa using hformat
    refine .inl ⟨_, ?_, builtIn_requests_of_supported hsupported⟩
    rw [requests_of_supported hG hsupported, Outcome.traverse_eq_ok_map fun evidence hmem =>
      verificationRequest_messageOf hG (hreads evidence hmem) (htee evidence hmem) _,
      Outcome.ok_bind]

/-- With one the server ends with an error, which the built-in service does not. -/
theorem not_sameRequests_of_sampleDevice (hG : Assumptions G)
    (hsupported : ∀ evidence ∈ evidenceToVerify, Supported evidence)
    {evidence : IndependentEvidence} (hmem : evidence ∈ evidenceToVerify)
    (htee : evidence.tee = .SampleDevice) : ¬ SameRequests G evidenceToVerify := by
  rintro (⟨evaluation, hok, -⟩ | ⟨-, e, herr⟩)
  · obtain ⟨e, he⟩ := verificationRequest_sampleDevice (G := G) htee
      (evidence.initData.map (·.body))
    obtain ⟨e', he'⟩ := Outcome.exists_traverse_eq_err
      (fun evidence _ => returns_verificationRequest G (messageOf evidence
        (teeName evidence.tee) (evidence.initData.map (·.body)))) ⟨evidence, hmem, e, he⟩
    rw [requests_of_supported hG hsupported, he', Outcome.err_bind] at hok
    cases hok
  · cases (builtIn_requests_of_supported hsupported).symm.trans herr

end

/-- **Both ways the service sees the same requests**, unless evidence of a sample device is among
them and no init data stops both. -/
theorem requests_agree (hG : Assumptions G) {evidenceToVerify : List IndependentEvidence}
    (hreads : ∀ evidence ∈ evidenceToVerify, ReadsBack G evidence) :
    SameRequests G evidenceToVerify ↔
      (∀ evidence ∈ evidenceToVerify, evidence.tee ≠ .SampleDevice) ∨
        ∃ evidence ∈ evidenceToVerify, ¬ Supported evidence := by
  by_cases hformat : ∃ evidence ∈ evidenceToVerify, ¬ Supported evidence
  · exact iff_of_true (sameRequests_of_not_supported hG hformat) (.inr hformat)
  · have hsupported : ∀ evidence ∈ evidenceToVerify, Supported evidence := by
      simpa using hformat
    rw [or_iff_left hformat]
    constructor
    · intro h evidence hmem htee
      exact not_sameRequests_of_sampleDevice hG hsupported hmem htee h
    · exact sameRequests_of_tees hG hreads

/-- Without a sample device the tokens are the same, too. -/
theorem verify_eq_ok (hG : Assumptions G) {evidenceToVerify : List IndependentEvidence}
    (hreads : ∀ evidence ∈ evidenceToVerify, ReadsBack G evidence)
    (htee : ∀ evidence ∈ evidenceToVerify, evidence.tee ≠ .SampleDevice) (S : Service)
    {token : String} :
    verify G S evidenceToVerify = .ok token ↔
      BuiltInCoCoAs.verify S evidenceToVerify = .ok token := by
  rcases sameRequests_of_tees hG hreads htee with ⟨evaluation, h, h'⟩ | ⟨⟨e, h⟩, e', h'⟩
  · rw [verify, BuiltInCoCoAs.verify, h, h', Outcome.ok_bind, Outcome.ok_bind,
      Outcome.mapErr_eq_ok]
  · simp [verify, BuiltInCoCoAs.verify, h, h']

/-! ## A device that one of them refuses -/

def exampleEvidence (tee : Tee) : IndependentEvidence where
  tee := tee
  teeEvidence := .object []
  runtimeData := .object [("nonce", .string "AQIDBA==")]
  initData := some ⟨"toml", "version = \"0.1.0\""⟩

/-- Readers of the two texts of the evidence. -/
def exampleEnv : Env where
  serde := ⟨fun deserialize text =>
    if text = (Json.object []).print then deserialize (.object [])
    else if text = (Json.object [("nonce", .string "AQIDBA==")]).print then
      deserialize (.object [("nonce", .string "AQIDBA==")])
    else .error "expected value"⟩
  teeToString tee := .ok (Json.string (teeName tee)).print
  hashAlgorithmTryFrom s := if s = "sha384" then .ok .Sha384 else .error "unknown algorithm"

theorem exampleEnv_assumptions : Assumptions exampleEnv where
  teeToString _ := rfl
  sha384 := rfl

theorem exampleEvidence_readsBack (tee : Tee) : ReadsBack exampleEnv (exampleEvidence tee) := by
  have hne : (Json.object [("nonce", .string "AQIDBA==")]).print ≠ (Json.object []).print := by
    decide
  refine ⟨fun v => ?_, fun v => ?_⟩
  · simp only [exampleEnv, exampleEvidence, if_true]
  · simp only [exampleEnv, exampleEvidence, if_neg hne, if_true]

/-- **Evidence of a sample device is verified by the built-in service alone.** -/
theorem sampleDevice_refused : Assumptions exampleEnv ∧
    ReadsBack exampleEnv (exampleEvidence .SampleDevice) ∧
    requests exampleEnv [exampleEvidence .SampleDevice] =
      .err ["parse TEE type: Unsupported TEE type: sampledevice"] ∧
    (∃ evaluation, BuiltInCoCoAs.requests [exampleEvidence .SampleDevice] = .ok evaluation) ∧
    ¬ SameRequests exampleEnv [exampleEvidence .SampleDevice] := by
  have hremote : requests exampleEnv [exampleEvidence .SampleDevice] =
      .err ["parse TEE type: Unsupported TEE type: sampledevice"] := by
    have hclient : attestationRequest exampleEnv [exampleEvidence .SampleDevice] =
        .ok ⟨[messageOf (exampleEvidence .SampleDevice) "sampledevice"
          (some "version = \"0.1.0\"")], ["default"]⟩ := by
      simp only [attestationRequest, Outcome.traverse, individualRequest_eq exampleEnv_assumptions]
      rfl
    rw [requests, hclient]
    rfl
  refine ⟨exampleEnv_assumptions, exampleEvidence_readsBack _, hremote, ⟨_, rfl⟩, ?_⟩
  rintro (⟨evaluation, hok, -⟩ | ⟨-, e, herr⟩)
  · cases hremote.symm.trans hok
  · cases herr

/-- Evidence of a TDX guest with a GPU is the same on both ways. -/
theorem requests_agree_example :
    SameRequests exampleEnv [exampleEvidence .Tdx, exampleEvidence .Nvidia] := by
  refine (requests_agree exampleEnv_assumptions fun evidence hmem => ?_).2
    (.inl fun evidence hmem => ?_)
  · rcases List.mem_pair.1 hmem with rfl | rfl <;> exact exampleEvidence_readsBack _
  · rcases List.mem_pair.1 hmem with rfl | rfl <;> decide

end Grpc

end Trustmee.Kbs
