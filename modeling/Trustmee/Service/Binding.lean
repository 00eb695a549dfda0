import Trustmee.Service.Evaluate

/-!
# The binding of a token's claims

A token repeats the runtime data and the init data of a request where the verifier gave a report
data or an init data claim. For native verifiers these data are bound to the evidence: their digests
are the evidence's own report data and init data (`evaluate_binds`). Two verifiers make exceptions.
The one of IBM SE gives a report data claim without a comparison, and the sample one, whose evidence
has no init data, repeats the expected hash as its init data claim (`unbound_claims`).
-/

namespace Trustmee.AttestationService

open Broker (TeeClaims Appraisal)

variable {S : Service} {request : VerificationRequest} {appraisal : Appraisal S.tokenBroker.crate}

/-! ## From a submodule to its verifier -/

/-- The verifier's claims that a submodule was made of. -/
theorem SubmoduleOf.exists_claims (h : SubmoduleOf S request appraisal)
    (hnative : S.wasmVerifier = none) :
    ∃ reportData runtimeDataClaims initDataHash initDataClaims verifier claims v teeClass,
      parseRuntimeData S.data request.runtimeData request.runtimeDataHashAlgorithm =
        .ok (reportData, runtimeDataClaims) ∧
      parseInitData S.data request.initData = .ok (initDataHash, initDataClaims) ∧
      Native.toVerifier S.native request.tee S.verifierConfig = .ok verifier ∧
      verifier request.evidence (.ofOption reportData) (.ofOption initDataHash) = .ok claims ∧
      (v, teeClass) ∈ claims ∧
      Broker.transformClaims S.tokenBroker v initDataClaims runtimeDataClaims request.tee =
        .ok appraisal.annotatedEvidence := by
  obtain ⟨all, hall, teeClaims, hmem, htransform⟩ := h
  simp only [requestClaims, verify, hnative, evaluateNative, Outcome.bind_eq_ok,
    Outcome.context_eq_ok, Outcome.mapErr_eq_ok, Outcome.pure_eq, Outcome.ok.injEq] at hall
  obtain ⟨⟨reportData, runtimeDataClaims⟩, hruntime, ⟨initDataHash, initDataClaims⟩, hinit, claims,
    ⟨verifier, hverifier, hclaims⟩, rfl⟩ := hall
  obtain ⟨⟨v, teeClass⟩, hv, rfl⟩ := List.mem_map.1 hmem
  exact ⟨reportData, runtimeDataClaims, initDataHash, initDataClaims, verifier, claims, v, teeClass,
    hruntime, hinit, hverifier, hclaims, hv, htransform⟩

theorem ne_null_of_raw (hS : Assumptions S) {claims : Json} {raw : S.tokenBroker.crate.RawValue}
    (hraw : S.tokenBroker.crate.fromStr claims.print = .ok raw)
    (hne : raw ≠ S.tokenBroker.crate.null) : claims ≠ .null := by
  rintro rfl
  exact hne (Except.ok.inj (hraw.symm.trans hS.fromStr_null))

/-- **Runtime data in a submodule is bound to the evidence**, for every TEE but IBM SE. -/
theorem runtimeDataBound_of_submoduleOf (hS : Assumptions S) (hnative : S.wasmVerifier = none)
    (h : SubmoduleOf S request appraisal) (htee : request.tee ≠ .Se)
    {raw : S.tokenBroker.crate.RawValue}
    (hget : appraisal.annotatedEvidence "runtime_data_claims" = some raw)
    (hne : raw ≠ S.tokenBroker.crate.null) : RuntimeDataBound S request raw := by
  obtain ⟨reportData, runtimeDataClaims, initDataHash, _, verifier, claims, v, teeClass, hruntime,
    -, hverifier, hclaims, hv, htransform⟩ := h.exists_claims hnative
  obtain ⟨moved, name, hmoved, hname, hrest⟩ := Broker.transformClaims_eq_ok htransform
  rw [hrest _ (hS.variantName _ _ hname).2.2.symm] at hget
  obtain ⟨hemits, hraw⟩ := (Broker.moveClaims_eq_ok hmoved).1 raw hget
  obtain ⟨digest, rfl⟩ := parseRuntimeData_claims S.data hruntime (ne_null_of_raw hS hraw hne)
  have hbinds := Native.toVerifier_bindsReportData htee hverifier
  exact ⟨digest, runtimeDataClaims, hruntime, hraw,
    hbinds _ _ _ _ hclaims ⟨(v, teeClass), hv, hemits⟩⟩

/-- **Init data in a submodule is bound to the evidence**, for every TEE but the sample one. -/
theorem initDataBound_of_submoduleOf (hS : Assumptions S) (hnative : S.wasmVerifier = none)
    (h : SubmoduleOf S request appraisal) (htee : request.tee ≠ .Sample)
    {raw : S.tokenBroker.crate.RawValue}
    (hget : appraisal.annotatedEvidence "init_data_claims" = some raw)
    (hne : raw ≠ S.tokenBroker.crate.null) : InitDataBound S request raw := by
  obtain ⟨_, _, initDataHash, initDataClaims, verifier, claims, v, teeClass, -, hinit, hverifier,
    hclaims, hv, htransform⟩ := h.exists_claims hnative
  obtain ⟨moved, name, hmoved, hname, hrest⟩ := Broker.transformClaims_eq_ok htransform
  rw [hrest _ (hS.variantName _ _ hname).2.1.symm] at hget
  obtain ⟨text, hemits, hraw, -⟩ := (Broker.moveClaims_eq_ok hmoved).2 raw hget
  obtain ⟨digest, rfl⟩ := parseInitData_claims S.data hinit (ne_null_of_raw hS hraw hne)
  have hbinds := Native.toVerifier_bindsInitData hS.nvidiaService htee hverifier
  exact ⟨digest, initDataClaims, hinit, hraw,
    hbinds _ _ _ _ hclaims ⟨(v, teeClass), hv, by rw [hemits]; rfl⟩⟩

/-- The sample verifier repeats the digest of the init data. -/
theorem initDataRepeated_of_submoduleOf (hS : Assumptions S) (hnative : S.wasmVerifier = none)
    (h : SubmoduleOf S request appraisal) (htee : request.tee = .Sample)
    {raw : S.tokenBroker.crate.RawValue}
    (hget : appraisal.annotatedEvidence "init_data_claims" = some raw)
    (hne : raw ≠ S.tokenBroker.crate.null) : InitDataRepeated S request appraisal raw := by
  obtain ⟨_, _, initDataHash, initDataClaims, verifier, claims, v, teeClass, -, hinit, hverifier,
    hclaims, hv, htransform⟩ := h.exists_claims hnative
  obtain ⟨moved, name, hmoved, hname, hrest⟩ := Broker.transformClaims_eq_ok htransform
  obtain ⟨hne₁, hne₂, -⟩ := hS.variantName _ _ hname
  rw [hrest _ hne₂.symm] at hget
  obtain ⟨text, hemits, hraw, htext⟩ := (Broker.moveClaims_eq_ok hmoved).2 raw hget
  obtain ⟨digest, rfl⟩ := parseInitData_claims S.data hinit (ne_null_of_raw hS hraw hne)
  rw [htee] at hverifier
  cases hverifier
  obtain ⟨v', rfl, hrepeat⟩ := Sample.evaluate_initData hclaims
  cases List.mem_singleton.1 hv
  rw [hemits, Option.some.injEq, Json.string.injEq] at hrepeat
  exact ⟨digest, initDataClaims, hinit, hraw, by rw [hrest _ hne₁.symm, htext, hrepeat]⟩

/-- What is known of the data in a submodule. -/
structure Bound (S : Service) (request : VerificationRequest)
    (appraisal : Appraisal S.tokenBroker.crate) : Prop where
  runtimeData : request.tee ≠ .Se → ∀ raw,
    appraisal.annotatedEvidence "runtime_data_claims" = some raw →
      raw ≠ S.tokenBroker.crate.null → RuntimeDataBound S request raw
  initData : request.tee ≠ .Sample → ∀ raw,
    appraisal.annotatedEvidence "init_data_claims" = some raw →
      raw ≠ S.tokenBroker.crate.null → InitDataBound S request raw
  sampleInitData : request.tee = .Sample → ∀ raw,
    appraisal.annotatedEvidence "init_data_claims" = some raw →
      raw ≠ S.tokenBroker.crate.null → InitDataRepeated S request appraisal raw

/-- **The data that a token repeats is bound to the evidence of its request**, by every native
verifier, but for the runtime data of IBM SE and the init data of the sample TEE. -/
theorem evaluate_binds (hS : Assumptions S) (hnative : S.wasmVerifier = none)
    {requests : List VerificationRequest} {policyIds : List String} {token : String}
    (h : evaluate S requests policyIds = .ok token) :
    ∃ ear, unsignedToken S requests policyIds = .ok ear ∧ S.tokenBroker.sign ear = .ok token ∧
      ∀ name appraisal, ear.submods name = some appraisal →
        (∃ request ∈ requests, SubmoduleOf S request appraisal) ∧
          ∀ request, SubmoduleOf S request appraisal → Bound S request appraisal := by
  rw [evaluate_eq_sign] at h
  obtain ⟨ear, hear, hsign⟩ := Outcome.bind_eq_ok.1 h
  refine ⟨ear, hear, hsign, fun name appraisal hget => ⟨exists_submoduleOf S hear hget, ?_⟩⟩
  intro request hsub
  exact {
    runtimeData := fun htee raw =>
      runtimeDataBound_of_submoduleOf hS hnative hsub htee
    initData := fun htee raw =>
      initDataBound_of_submoduleOf hS hnative hsub htee
    sampleInitData := fun htee raw =>
      initDataRepeated_of_submoduleOf hS hnative hsub htee }

/-! ## Claims that are not bound -/

/-- The runtime data claims in every submodule of the issued token are bound. -/
def RuntimeClaimsBound (S : Service) (requests : List VerificationRequest)
    (policyIds : List String) : Prop :=
  ∀ ear token, unsignedToken S requests policyIds = .ok ear → S.tokenBroker.sign ear = .ok token →
    ∀ name appraisal, ear.submods name = some appraisal →
      ∀ request ∈ requests, SubmoduleOf S request appraisal →
        ∀ raw, appraisal.annotatedEvidence "runtime_data_claims" = some raw →
          raw ≠ S.tokenBroker.crate.null → RuntimeDataBound S request raw

/-- The init data claims in every submodule of the issued token are bound. -/
def InitClaimsBound (S : Service) (requests : List VerificationRequest)
    (policyIds : List String) : Prop :=
  ∀ ear token, unsignedToken S requests policyIds = .ok ear → S.tokenBroker.sign ear = .ok token →
    ∀ name appraisal, ear.submods name = some appraisal →
      ∀ request ∈ requests, SubmoduleOf S request appraisal →
        ∀ raw, appraisal.annotatedEvidence "init_data_claims" = some raw →
          raw ≠ S.tokenBroker.crate.null → InitDataBound S request raw

/-! ## A service with the verifiers of the sample TEE and of IBM SE -/

/-- Runtime data as the KBS sends it. -/
def exampleRuntimeData : Json := .object
  [("nonce", .string "AQIDBA=="), ("tee-pubkey", .string "key")]

/-- The SHA-384 digest of its text. -/
def exampleDigest : Bytes :=
  [0xdd, 0xf0, 0x54, 0x98, 0x2f, 0x39, 0x37, 0x3d, 0x19, 0x72, 0x5e, 0xe3, 0xed, 0x4a, 0xa1, 0x76,
   0xb9, 0xf3, 0xe7, 0xdb, 0x07, 0x21, 0xb7, 0x86, 0xe6, 0xdb, 0x81, 0x27, 0x9e, 0x55, 0x8c, 0x56,
   0xc6, 0x95, 0xb9, 0x22, 0x7b, 0xbf, 0x53, 0x19, 0xdd, 0xf1, 0xa5, 0x74, 0x56, 0x6a, 0x45, 0x68]

def exampleToml : String :=
  "version = \"0.1.0\"\nalgorithm = \"sha256\"\n\n[data]\n\"greeting\" = \"hello\"\n"

/-- The SHA-256 digest of the text. -/
def exampleTomlDigest : Bytes :=
  [0x39, 0xf3, 0xfe, 0x82, 0x16, 0xa1, 0x1c, 0xb5, 0x90, 0xdf, 0xd9, 0x73, 0x10, 0x04, 0x24, 0x98,
   0xcb, 0x05, 0x47, 0xe1, 0x24, 0x4d, 0xe4, 0x2c, 0xd4, 0x2f, 0x03, 0x3d, 0xbd, 0xc0, 0x54, 0xfc]

/-- What is not available. -/
def unavailable {α : Type} : Except String α := .error "unavailable"

def exampleData : DataEnv where
  serde := ⟨fun _ _ => unavailable⟩
  digest algorithm b :=
    if algorithm = .Sha384 ∧ b = toUtf8 exampleRuntimeData.print then exampleDigest
    else if algorithm = .Sha256 ∧ b = toUtf8 exampleToml then exampleTomlDigest
    else []
  serializeCanonJson v := .ok (toUtf8 v.print)
  initdataFromToml text :=
    if text = exampleToml then .ok ⟨"0.1.0", .Sha256, [("greeting", "hello")]⟩ else unavailable
  tomlToJson _ := none

/-- The tier of the value of a trust claim: 0 where it says nothing, 2 where it affirms, 32 where it
warns and 96 where it is against it. -/
def trustTier (value : ℤ) : ℕ :=
  if -1 ≤ value ∧ value ≤ 1 then 0
  else if -32 ≤ value ∧ value ≤ 31 then 2
  else if -96 ≤ value ∧ value ≤ 95 then 32
  else 96

/-- Raw values by their texts, and a trust vector by the claims that are set. -/
def exampleCrate : Broker.Crate where
  RawValue := String
  null := "null"
  string s := (Json.string s).print
  integer n := ToString.toString n
  fromStr text := .ok text
  toString t := .ok ("\x7b" ++ String.intercalate "," (["init_data", "init_data_claims",
    "report_data", "runtime_data_claims", "sample", "se"].filterMap fun k =>
      (t k).map fun v => (Json.string k).print ++ ":" ++ v) ++ "\x7d")
  RawValueKind := Unit
  kind _ := ()
  TrustVector := List (String × ℤ)
  newTrustVector := []
  setByName vector k n :=
    if k ∈ ["instance-identity", "configuration", "executables", "file-system", "hardware",
      "runtime-opaque", "storage-opaque", "sourced-data"] then some ((k, n) :: vector) else none
  anySet vector := vector ≠ []
  TrustTier := ℕ
  status vector := (vector.map fun claim => trustTier claim.2).foldr max 0
  Extensions := List (String × String)
  newExtensions := []
  register extensions _ _ _ := .ok extensions
  setExtension extensions name v := .ok ((name, v) :: extensions)

/-- A broker whose policy affirms the executables of any evidence. No token is signed that has no
submodule. -/
def exampleBroker : Broker.Env where
  crate := exampleCrate
  durationMin := 5
  developerName := "https://confidentialcontainers.org"
  buildName := "attestation-service 0.1.0"
  profileName := "tag:github.com,2024:confidential-containers/Trustee"
  toVariantName
    | .Sample => .ok "sample"
    | .Se => .ok "se"
    | _ => unavailable
  policyEngine _ _ := .ok ⟨.object [("executables", .number (.int 3))], []⟩
  now := 1700000000
  checkedAdd now minutes := some (now + 60 * minutes)
  sign ear :=
    if ["cpu0", "gpu0", "dcu0"].any fun name => (ear.submods name).isSome then .ok "token"
    else .bail "at least one submod must be present"
  overflowChecks := false

def exampleVtpm : Vtpm where
  Quote := Unit
  quoteFromValue _ := unavailable
  quoteFromParts _ _ _ := unavailable
  nonce _ := unavailable
  pcrsSha256 _ := []
  verifyPcrs _ := unavailable
  PublicKey := Unit
  publicKeyFromDer _ := unavailable
  verifySignature _ _ := unavailable
  HclReport := Unit
  hclReport _ := unavailable
  AkPub := Unit
  akPub _ := unavailable
  akPubToDer _ := unavailable
  varDataSha256 _ := []
  snpReport _ := unavailable
  sha256 _ := []
  unmarshallSignature _ := unavailable

def exampleSnp : Snp.Env where
  Certificate := Unit
  fromBytes _ := unavailable
  verify _ _ := unavailable
  verifyReport _ _ := unavailable
  toDer _ := unavailable
  TbsCertificate := Unit
  parseX509 _ := unavailable
  getExtensionUnique _ _ := unavailable
  octetString _ := unavailable
  integer _ := unavailable
  commonNames _ := []
  vendorCerts _ := ⟨(), (), ()⟩
  kds _ := unavailable
  reportFromValue _ := unavailable
  certTableFromValue _ := unavailable
  reportFromBytes _ := unavailable

def exampleTdx : Tdx.Env where
  EventLog := Unit
  parseEventLog _ := .ofExcept unavailable
  replayAndMatch _ _ := unavailable
  logToValue _ := unavailable
  quoteVerification _ := .bail "unavailable"

/-- The measurement of the response below, for the keys that its bytes decrypt to. -/
def exampleSe : Se.Env where
  SeVerifierImpl := Unit
  newImpl := .ok ()
  decrypt _ b := .ok b
  BootHdrTags := Bytes
  tagsFromBytes b := .ok b
  tag b := b
  HmacKey := Bytes
  hmacKey b := .ok b
  calculate _ _ userData _ _ _ := .ok userData
  additionalData b := .ok (some (b.take 32), some (b.drop 32))
  versionOne := 0x100

/-- A service that is built with the verifiers of the sample TEE and of IBM SE. -/
def exampleService : Service where
  data := exampleData
  native := {
    enabled := fun feature => feature = "se-verifier"
    azSnpVtpm := ⟨exampleVtpm, exampleSnp, fun _ => unavailable, fun _ => unavailable,
      fun _ _ => unavailable, fun _ _ => unavailable⟩
    azTdxVtpm := ⟨exampleVtpm, exampleTdx, fun _ => .bail "unavailable"⟩
    tdx := exampleTdx
    snp := exampleSnp
    sgx := fun _ => .bail "unavailable"
    csv := ⟨Unit, Unit, Unit, fun _ => unavailable, fun _ => unavailable, fun _ => unavailable,
      fun _ => unavailable, fun _ => unavailable, unavailable, fun _ _ => unavailable,
      fun _ _ => unavailable, fun _ _ => unavailable, fun _ _ => unavailable, fun p _ => p,
      fun _ => none, fun _ => unavailable, Unit, fun _ => .ofExcept unavailable,
      fun _ _ => unavailable, fun _ => unavailable⟩
    cca := ⟨⟨fun _ _ => unavailable⟩, "config.json", unavailable, fun _ => unavailable, Unit,
      fun _ => unavailable, Unit, fun _ => unavailable, fun _ => unavailable,
      fun _ _ => unavailable, fun _ _ => unavailable, fun _ _ _ => false, Unit,
      fun _ => unavailable, fun _ => unavailable, fun _ _ _ _ => .bail "unavailable",
      fun _ _ => unavailable⟩
    se := exampleSe
    hygonDcu := ⟨fun _ => unavailable, fun _ _ => unavailable⟩
    nvidia := ⟨⟨fun _ _ => unavailable⟩, fun _ => unavailable, fun _ _ _ _ => .bail "unavailable",
      Unit, unavailable, fun _ _ => unavailable, fun _ _ => unavailable⟩
    tpm := exampleVtpm
    trustedAkHashes := fun _ => unavailable }
  verifierConfig := none
  wasmVerifier := none
  defaultComponentId := none
  tokenBroker := exampleBroker

/-! ## Its requests -/

/-- A response of an SE guest whose user data is its own. -/
def exampleSeEvidence : Json := .object
  [("additional_data", .string (Base64.encode (List.replicate 64 0))),
   ("cuid", .string (Base64.encode (List.replicate 16 0))),
   ("encr_measurement_key", .string (Base64.encode (List.replicate 64 0))),
   ("encr_request_nonce", .string (Base64.encode (List.replicate 16 0))),
   ("image_hdr_tags", .string (Base64.encode (List.replicate 16 0))),
   ("measurement", .string (Base64.encode (toUtf8 "user data"))),
   ("user_data", .string (Base64.encode (toUtf8 "user data")))]

def exampleSeResponse : Se.SeAttestationResponse exampleSe where
  measurement := toUtf8 "user data"
  additionalData := List.replicate 64 0
  userData := toUtf8 "user data"
  cuid := List.replicate 16 0
  encrMeasurementKey := List.replicate 64 0
  encrRequestNonce := List.replicate 16 0
  imageHdrTags := (List.replicate 16 0 : Bytes)

def exampleSeClaims : Json.Map :=
  Se.seAttestationClaims exampleSeResponse "user data" (List.replicate 32 0) (List.replicate 32 0)

theorem exampleSeEvidence_fromValue :
    Se.SeAttestationResponse.fromValue exampleSe exampleSeEvidence = .ok exampleSeResponse := by
  simp [Se.SeAttestationResponse.fromValue, exampleSeEvidence, Deserialize.fields,
    Deserialize.required, Json.Map.get_cons, Deserialize.base64_encode, Se.configUidFromValue,
    Se.imageHdrTagsFromValue, exampleSeResponse, exampleSe, bind, Except.bind, pure, Except.pure]

theorem exampleSe_evaluate (reportData : ReportData) (initDataHash : InitDataHash) :
    Se.evaluate exampleSe exampleSeEvidence reportData initDataHash =
      .ok [(.object exampleSeClaims, "cpu")] := by
  simp [Se.evaluate, Se.evaluateImpl, exampleSeEvidence_fromValue, Outcome.ofExcept]
  simp [exampleSe, exampleSeResponse, exampleSeClaims, Outcome.context, Outcome.ensure,
    Outcome.okOr]

def seRequest : VerificationRequest where
  evidence := exampleSeEvidence
  tee := .Se
  runtimeData := some (.Structured exampleRuntimeData)
  runtimeDataHashAlgorithm := .Sha384
  initData := none
  verifierComponent := none
  verifierComponentId := none

def sampleRequest (reportData : Bytes) (runtimeData : Option RuntimeData)
    (initData : Option InitDataInput) : VerificationRequest where
  evidence := .object
    [("report_data", .string (Base64.encode reportData)), ("svn", .string "1")]
  tee := .Sample
  runtimeData := runtimeData
  runtimeDataHashAlgorithm := .Sha384
  initData := initData
  verifierComponent := none
  verifierComponentId := none

/-- The policy lets any evidence pass. -/
theorem example_appraise (policyId : String) {teeClaims : TeeClaims}
    {t : Table String exampleBroker.crate.RawValue}
    (ht : Broker.transformClaims exampleBroker teeClaims.claims teeClaims.initDataClaims
      teeClaims.runtimeDataClaims teeClaims.tee = .ok t) :
    ∃ appraisal, Broker.appraise exampleBroker policyId teeClaims = .ok appraisal ∧
      appraisal.annotatedEvidence = t := by
  simp only [Broker.appraise, ht, Outcome.ok_bind]
  exact ⟨_, rfl, rfl⟩

/-- A token with a submodule is signed. -/
theorem example_sign {ear : Broker.Ear exampleBroker.crate}
    {appraisal : Broker.Appraisal exampleBroker.crate} (h : ear.submods "cpu0" = some appraisal) :
    exampleBroker.sign ear = .ok "token" := by
  simp [exampleBroker, h]

/-- A request whose evidence is accepted gives a token with its submodule. -/
theorem example_unsignedToken {request : VerificationRequest} {teeClaims : TeeClaims}
    {t : Table String exampleBroker.crate.RawValue}
    (hclaims : requestClaims exampleService request = .ok [teeClaims])
    (ht : Broker.transformClaims exampleBroker teeClaims.claims teeClaims.initDataClaims
      teeClaims.runtimeDataClaims teeClaims.tee = .ok t) :
    ∃ ear, unsignedToken exampleService [request] ["default"] = .ok ear ∧
      ∃ appraisal, ear.submods (teeClaims.teeClass ++ "0") = some appraisal ∧
        appraisal.annotatedEvidence = t ∧ SubmoduleOf exampleService request appraisal := by
  obtain ⟨appraisal, happraise, rfl⟩ := example_appraise "default" ht
  have hall : allClaims exampleService [request] = .ok [teeClaims] := by
    simp [allClaims, hclaims]
  have hsubmods : Broker.appraiseAll exampleBroker "default" Table.empty Table.empty [teeClaims] =
      .ok (Table.empty.insert (teeClaims.teeClass ++ "0") appraisal) := by
    simp only [Broker.appraiseAll, happraise, Outcome.ok_bind, Broker.indexOf, Table.empty_apply]
    rfl
  have hear : unsignedToken exampleService [request] ["default"] =
      Broker.unsignedEar exampleBroker [teeClaims] ["default"] := by
    simp only [unsignedToken, hall]
    rfl
  rw [hear]
  simp only [Broker.unsignedEar, hsubmods, Outcome.ok_bind]
  exact ⟨_, rfl, appraisal, Table.insert_self _ _ _, rfl, [teeClaims], hclaims, teeClaims,
    List.mem_singleton_self _, ht⟩

theorem example_parseRuntimeData :
    parseRuntimeData exampleData (some (.Structured exampleRuntimeData)) .Sha384 =
      .ok (some exampleDigest, exampleRuntimeData) := by
  simp [parseRuntimeData, exampleData, Outcome.ofExcept, Outcome.context]

theorem seRequest_claims : requestClaims exampleService seRequest =
    .ok [⟨.Se, "cpu", .object exampleSeClaims, .null, exampleRuntimeData⟩] := by
  have hverify : verify exampleService seRequest (some exampleDigest) none =
      .ok [(.object exampleSeClaims, "cpu")] := by
    have h := exampleSe_evaluate (.value exampleDigest) .notProvided
    simp only [verify, exampleService, evaluateNative, Native.toVerifier, seRequest,
      Native.ifEnabled, decide_true, if_true, Outcome.ok_bind, OptionalData.ofOption]
    rw [h]
    rfl
  exact requestClaims_of_verify exampleService seRequest example_parseRuntimeData rfl hverify

theorem exampleService_assumptions : Assumptions exampleService where
  fromStr_null := rfl
  variantName tee name h := by
    cases tee <;> cases h <;> decide
  nvidiaService _ _ _ h := by cases h

theorem example_sample_evaluate (reportData : Bytes) (rest : Json.Map) {expected : ReportData}
    (hexpected : expected = .notProvided ∨ expected = .value reportData)
    (initDataHash : InitDataHash) :
    Sample.evaluate (.object (("report_data", .string (Base64.encode reportData)) ::
      ("svn", .string "1") :: rest)) expected initDataHash =
      .ok [(.object (Sample.addInitData (Sample.parseTeeEvidence ⟨"1", Base64.encode reportData⟩)
        initDataHash), "cpu")] := by
  have hfrom : Sample.SampleTeeEvidence.fromValue "SampleTeeEvidence" (.object
      (("report_data", .string (Base64.encode reportData)) :: ("svn", .string "1") :: rest)) =
      .ok ⟨"1", Base64.encode reportData⟩ := by
    simp [Sample.SampleTeeEvidence.fromValue, Deserialize.fields, Deserialize.required,
      Deserialize.withDefault, Json.Map.get_cons, Deserialize.string, bind, Except.bind, pure,
      Except.pure]
  have hcheck : Sample.checkReportData ⟨"1", Base64.encode reportData⟩ expected = .ok () := by
    rcases hexpected with rfl | rfl
    · rfl
    · exact Sample.checkReportData_value.2 (Base64.decode_encode reportData)
  simp only [Sample.evaluate, hfrom, Sample.verifyTeeEvidence, hcheck, Outcome.ofExcept,
    Outcome.context, Outcome.ok_bind]
  rfl

/-- Evidence of the sample TEE with the expected report data is accepted by a service without Wasm
components, whatever else is in it. -/
theorem verify_sample {S : Service} {request : VerificationRequest} {reportData : Bytes}
    {rest : Json.Map} (hnative : S.wasmVerifier = none) (htee : request.tee = .Sample)
    (hevidence : request.evidence = .object (("report_data", .string (Base64.encode reportData)) ::
      ("svn", .string "1") :: rest)) {expected : Option Bytes}
    (hexpected : expected = none ∨ expected = some reportData) (initDataHash : Option Bytes) :
    verify S request expected initDataHash =
      .ok [(.object (Sample.addInitData (Sample.parseTeeEvidence ⟨"1", Base64.encode reportData⟩)
        (.ofOption initDataHash)), "cpu")] := by
  have hofOption : OptionalData.ofOption expected = .notProvided ∨
      OptionalData.ofOption expected = .value reportData := by
    rcases hexpected with rfl | rfl
    · exact .inl rfl
    · exact .inr rfl
  have h := example_sample_evaluate reportData rest hofOption (.ofOption initDataHash)
  simp only [verify, hnative, evaluateNative, Native.toVerifier, htee, Outcome.ok_bind, hevidence]
  rw [h]
  rfl

theorem sampleRequest_verify (reportData : Bytes) (runtimeData : Option RuntimeData)
    (initData : Option InitDataInput) {expected : Option Bytes}
    (hexpected : expected = none ∨ expected = some reportData) (initDataHash : Option Bytes) :
    verify exampleService (sampleRequest reportData runtimeData initData) expected initDataHash =
      .ok [(.object (Sample.addInitData (Sample.parseTeeEvidence ⟨"1", Base64.encode reportData⟩)
        (.ofOption initDataHash)), "cpu")] :=
  verify_sample rfl rfl rfl hexpected initDataHash

/-! ## The gaps -/

theorem seRequest_unbound : ¬ RuntimeClaimsBound exampleService [seRequest] ["default"] := by
  intro hbound
  have hinit : Json.Map.get exampleSeClaims "init_data" = none := by
    simp [exampleSeClaims, Se.seAttestationClaims, Json.Map.ofList, Json.Map.extend_cons,
      Json.Map.get_insert]
  have hreport : Json.Map.get exampleSeClaims "report_data" = some (.string "user data") := by
    simp [exampleSeClaims, Se.seAttestationClaims, Json.Map.ofList, Json.Map.extend_cons,
      Json.Map.get_insert]
  obtain ⟨t, ht, hget⟩ := Broker.exists_transformClaims_reportData (B := exampleBroker) .null
    exampleRuntimeData (show Json.Map.get _ _ = none from hinit) hreport rfl rfl
    (show exampleBroker.toVariantName .Se = _ from rfl) (by decide)
  obtain ⟨ear, hear, appraisal, hsubmod, rfl, hof⟩ :=
    example_unsignedToken seRequest_claims ht
  obtain ⟨digest, claims, hparse, -, response, hresponse, hdata⟩ :=
    hbound ear "token" hear (example_sign hsubmod) _ appraisal hsubmod seRequest
      (List.mem_singleton_self _) hof _ hget (Json.print_object_ne_null _)
  cases hparse.symm.trans example_parseRuntimeData
  cases hresponse.symm.trans exampleSeEvidence_fromValue
  have hlength := congrArg List.length hdata
  revert hlength
  decide

theorem example_parseInitData : parseInitData exampleData (some (.Toml exampleToml)) =
    .ok (some exampleTomlDigest, initDataClaims exampleData [("greeting", "hello")]) := by
  simp [parseInitData, exampleData, Outcome.ofExcept, Outcome.context]

theorem sampleRequest_unbound :
    ¬ InitClaimsBound exampleService [sampleRequest [] none (some (.Toml exampleToml))]
      ["default"] := by
  intro hbound
  have hclaims := requestClaims_of_verify exampleService
    (sampleRequest [] none (some (.Toml exampleToml))) rfl example_parseInitData
    (sampleRequest_verify [] none (some (.Toml exampleToml)) (.inl rfl) (some exampleTomlDigest))
  have hreport : Json.Map.get (Sample.addInitData (Sample.parseTeeEvidence
      ⟨"1", Base64.encode []⟩) (.value exampleTomlDigest)) "report_data" =
      some (.string (Base64.encode [])) := by
    rw [Sample.addInitData, Json.Map.get_insert_of_ne _ _ (by decide),
      Sample.get_reportData_parseTeeEvidence]
  obtain ⟨t, ht, hget⟩ := Broker.exists_transformClaims_initData (B := exampleBroker)
    (initDataClaims exampleData [("greeting", "hello")]) .null (Json.Map.get_insert_self _ _ _)
    hreport rfl rfl rfl (show exampleBroker.toVariantName .Sample = _ from rfl) (by decide)
  obtain ⟨ear, hear, appraisal, hsubmod, rfl, hof⟩ := example_unsignedToken hclaims ht
  obtain ⟨digest, claims, -, -, hfalse⟩ := hbound ear "token" hear (example_sign hsubmod) _
    appraisal hsubmod _ (List.mem_singleton_self _) hof _ hget (Json.print_object_ne_null _)
  exact hfalse

/-- **The two gaps.** A service whose SE verifier accepts a response with user data of its own
issues a token with runtime data that the response is not bound to, and its sample verifier a token
with init data that no evidence is bound to. -/
theorem unbound_claims : Assumptions exampleService ∧ exampleService.wasmVerifier = none ∧
    ¬ RuntimeClaimsBound exampleService [seRequest] ["default"] ∧
    ¬ InitClaimsBound exampleService [sampleRequest [] none (some (.Toml exampleToml))]
      ["default"] :=
  ⟨exampleService_assumptions, rfl, seRequest_unbound, sampleRequest_unbound⟩

/-- The runtime data of an accepted request is bound. -/
theorem evaluate_binds_example :
    ∃ ear, unsignedToken exampleService
        [sampleRequest exampleDigest (some (.Structured exampleRuntimeData)) none] ["default"] =
          .ok ear ∧
      ∃ name appraisal, ear.submods name = some appraisal ∧
        ∃ raw, appraisal.annotatedEvidence "runtime_data_claims" = some raw ∧
          RuntimeDataBound exampleService
            (sampleRequest exampleDigest (some (.Structured exampleRuntimeData)) none) raw := by
  have hclaims := requestClaims_of_verify exampleService
    (sampleRequest exampleDigest (some (.Structured exampleRuntimeData)) none)
    example_parseRuntimeData rfl
    (sampleRequest_verify exampleDigest (some (.Structured exampleRuntimeData)) none (.inr rfl)
      none)
  obtain ⟨t, ht, hget⟩ := Broker.exists_transformClaims_reportData (B := exampleBroker) .null
    exampleRuntimeData (Sample.get_initData_parseTeeEvidence ⟨"1", Base64.encode exampleDigest⟩)
    (Sample.get_reportData_parseTeeEvidence _) rfl rfl
    (show exampleBroker.toVariantName .Sample = _ from rfl) (by decide)
  obtain ⟨ear, hear, appraisal, hsubmod, rfl, hof⟩ := example_unsignedToken hclaims ht
  have htoken : evaluate exampleService
      [sampleRequest exampleDigest (some (.Structured exampleRuntimeData)) none] ["default"] =
        .ok "token" := by
    rw [evaluate_eq_sign, hear]
    exact example_sign hsubmod
  obtain ⟨ear', hear', -, hbinds⟩ := evaluate_binds exampleService_assumptions rfl htoken
  cases hear.symm.trans hear'
  exact ⟨ear, hear, _, appraisal, hsubmod, _, hget,
    ((hbinds _ appraisal hsubmod).2 _ hof).runtimeData (by decide) _ hget
      (Json.print_object_ne_null _)⟩

end Trustmee.AttestationService
