import Trustmee.Kbs.CoCoAs
import Trustmee.Kbs.Handshake
import Trustmee.Kbs.Token
import Trustmee.Service.Binding

/-!
# The key that a token carries

The KBS encrypts for the key that it finds in a token, at the first of a few paths that leads
anywhere. The built-in attestation service makes tokens in which only one of these paths can lead
anywhere: the one into the annotated evidence of the submodule `cpu0`. Whatever evidence this
submodule was made of, the runtime data that stands there is what the KBS itself put together, with
the key of the attestation message (`attest_binds_teePubkey`).
-/

namespace Trustmee.Kbs

open AttestationService (Service VerificationRequest SubmoduleOf)
open Broker (Appraisal Ear)

/-- `__attest` with the built-in service, from the evidence to the token. -/
def attestBuiltIn (env : Env) (S : Service) (iterate : List (Tee × Json) → List (Tee × Json))
    (attestation : Attestation) (tee : Tee) (nonce : String) : Outcome String := do
  let evidenceToVerify ← assembleEvidence env iterate attestation tee nonce
  (BuiltInCoCoAs.verify S evidenceToVerify).context "verify TEE evidence failed"

/-! ## The claims of a token -/

/-- How the `ear` crate serialises a token. -/
structure EarJson (C : Broker.Crate) where
  toJson : Ear C → Json
  appraisalToJson : Appraisal C → Json
  rawToJson : C.RawValue → Json

/-- What the proofs assume of the `ear` crate: submodules stand under `submods`, annotated evidence
under a name of its own, and a token has none of the members that other services put keys in. -/
structure EarJson.Assumptions {C : Broker.Crate} (R : EarJson C) : Prop where
  tdx : ∀ ear, (R.toJson ear).get "tdx" = none
  customizedClaims : ∀ ear, (R.toJson ear).get "customized_claims" = none
  teePubkey : ∀ ear, (R.toJson ear).get "tee-pubkey" = none
  submods : ∀ ear submods name v, (R.toJson ear).get "submods" = some submods →
    submods.get name = some v → ∃ appraisal, ear.submods name = some appraisal ∧
      R.appraisalToJson appraisal = v
  annotatedEvidence : ∀ appraisal evidence name v,
    (R.appraisalToJson appraisal).get "ear.veraison.annotated-evidence" = some evidence →
      evidence.get name = some v → ∃ raw, appraisal.annotatedEvidence name = some raw ∧
        R.rawToJson raw = v

variable {C : Broker.Crate} {R : EarJson C}

/-- The paths of other services lead nowhere. -/
theorem pointer_eq_none_of_mem (hR : R.Assumptions) (ear : Ear C) {path : String}
    (hpath : path ∈ [TOKEN_TEE_PUBKEY_PATH_ITA, TOKEN_TEE_PUBKEY_PATH_ITA_VTPM,
      TOKEN_TEE_PUBKEY_PATH_COCO, TOKEN_TEE_PUBKEY_PATH_VALUE]) :
    (R.toJson ear).pointer path = none := by
  simp only [List.mem_cons, List.not_mem_nil, or_false] at hpath
  rcases hpath with rfl | rfl | rfl | rfl
  · exact Json.pointer_eq_none rfl rfl (hR.tdx ear)
  · exact Json.pointer_eq_none rfl rfl (hR.tdx ear)
  · exact Json.pointer_eq_none rfl rfl (hR.customizedClaims ear)
  · exact Json.pointer_eq_none rfl rfl (hR.teePubkey ear)

/-- The names of the path into the first CPU's submodule. -/
theorem pointer_ear (v : Json) : v.pointer TOKEN_TEE_PUBKEY_PATH_EAR =
    (v.get "submods").bind fun v => (v.get "cpu0").bind fun v =>
      (v.get "ear.veraison.annotated-evidence").bind fun v =>
        (v.get "runtime_data_claims").bind fun v => v.get "tee-pubkey" := by
  have htokens : Json.pointerTokens TOKEN_TEE_PUBKEY_PATH_EAR = some ["submods", "cpu0",
      "ear.veraison.annotated-evidence", "runtime_data_claims", "tee-pubkey"] := by
    decide
  simp only [Json.pointer, htokens, Option.bind_some, Json.followAll_cons, Json.followAll_nil,
    Json.follow_eq_get (show Json.parseIndex "submods" = none by decide),
    Json.follow_eq_get (show Json.parseIndex "cpu0" = none by decide),
    Json.follow_eq_get (show Json.parseIndex "ear.veraison.annotated-evidence" = none by decide),
    Json.follow_eq_get (show Json.parseIndex "runtime_data_claims" = none by decide),
    Json.follow_eq_get (show Json.parseIndex "tee-pubkey" = none by decide), Option.bind_fun_some]

/-- It leads to a member of the runtime data claims of this submodule. -/
theorem pointer_ear_eq_some (hR : R.Assumptions) {ear : Ear C} {v : Json}
    (h : (R.toJson ear).pointer TOKEN_TEE_PUBKEY_PATH_EAR = some v) :
    ∃ appraisal raw, ear.submods "cpu0" = some appraisal ∧
      appraisal.annotatedEvidence "runtime_data_claims" = some raw ∧
      (R.rawToJson raw).get "tee-pubkey" = some v := by
  simp only [pointer_ear, Option.bind_eq_some_iff] at h
  obtain ⟨submods, hsubmods, cpu0, hcpu0, evidence, hevidence, runtime, hruntime, hkey⟩ := h
  obtain ⟨appraisal, happraisal, rfl⟩ := hR.submods ear submods "cpu0" cpu0 hsubmods hcpu0
  obtain ⟨raw, hraw, rfl⟩ := hR.annotatedEvidence appraisal evidence _ runtime hevidence hruntime
  exact ⟨appraisal, raw, happraisal, hraw, hkey⟩

/-! ## The runtime data of a submodule -/

/-- The runtime data of each piece of evidence is the KBS's own. -/
theorem runtimeData_of_assembleEvidence {env : Env}
    {iterate : List (Tee × Json) → List (Tee × Json)} {attestation : Attestation} {tee : Tee}
    {nonce : String} {evidenceToVerify : List IndependentEvidence}
    (h : assembleEvidence env iterate attestation tee nonce = .ok evidenceToVerify)
    {evidence : IndependentEvidence} (hmem : evidence ∈ evidenceToVerify) :
    evidence.runtimeData = primaryRuntimeData attestation nonce ∨
      evidence.runtimeData = kbsEvidenceRuntimeData attestation nonce := by
  obtain ⟨_, -, h⟩ := Outcome.bind_eq_ok.1 h
  split at h
  · cases h
    rw [List.mem_singleton.1 hmem]
    exact .inl rfl
  · obtain ⟨additional, -, h⟩ := Outcome.bind_eq_ok.1 h
    cases h
    rcases List.mem_cons.1 hmem with rfl | hmem
    · exact .inl rfl
    · obtain ⟨_, -, rfl⟩ := List.mem_map.1 hmem
      exact .inr rfl

theorem runtimeData_of_requests {evidenceToVerify : List IndependentEvidence}
    {evaluation : Evaluation} (h : BuiltInCoCoAs.requests evidenceToVerify = .ok evaluation)
    {request : VerificationRequest} (hmem : request ∈ evaluation.1) :
    ∃ evidence ∈ evidenceToVerify,
      request.runtimeData = some (.Structured evidence.runtimeData) := by
  obtain ⟨requests, hrequests, heq⟩ := Outcome.bind_eq_ok.1 h
  cases heq
  obtain ⟨i, hi⟩ := List.mem_iff_getElem?.1 hmem
  obtain ⟨evidence, hget, hrequest⟩ := (Outcome.getElem?_traverse hrequests).1 hi
  simp only [BuiltInCoCoAs.verificationRequest, Outcome.bind_eq_ok, Outcome.pure_eq,
    Outcome.ok.injEq] at hrequest
  obtain ⟨toml, -, rfl⟩ := hrequest
  exact ⟨evidence, List.mem_of_getElem? hget, rfl⟩

/-- The runtime data claims of a submodule are the runtime data of the request. -/
theorem runtimeDataClaims_of_submoduleOf {S : Service} {request : VerificationRequest}
    {appraisal : Appraisal S.tokenBroker.crate} (h : SubmoduleOf S request appraisal)
    (hname : ∀ tee name, S.tokenBroker.toVariantName tee = .ok name → name ≠ "runtime_data_claims")
    {data : Json} (hdata : request.runtimeData = some (.Structured data))
    {raw : S.tokenBroker.crate.RawValue}
    (hraw : appraisal.annotatedEvidence "runtime_data_claims" = some raw) :
    S.tokenBroker.crate.fromStr data.print = .ok raw := by
  obtain ⟨claims, hclaims, teeClaims, hmem, htransform⟩ := h
  simp only [AttestationService.requestClaims, hdata, Outcome.bind_eq_ok, Outcome.context_eq_ok,
    Outcome.pure_eq, Outcome.ok.injEq] at hclaims
  obtain ⟨runtimeData, hruntime, initData, -, verified, -, rfl⟩ := hclaims
  obtain ⟨c, -, rfl⟩ := List.mem_map.1 hmem
  have hclaimsData : runtimeData.2 = data := by
    simp only [AttestationService.parseRuntimeData, Outcome.bind_eq_ok, Outcome.pure_eq,
      Outcome.ok.injEq] at hruntime
    obtain ⟨_, -, rfl⟩ := hruntime
    rfl
  obtain ⟨moved, name, hmoved, hvariant, hrest⟩ := Broker.transformClaims_eq_ok htransform
  rw [hrest _ (hname _ _ hvariant).symm] at hraw
  have hread := ((Broker.moveClaims_eq_ok hmoved).1 raw hraw).2
  rwa [hclaimsData] at hread

/-! ## The key -/

/-- What the proofs assume of the crates for the runtime data of an attestation message: its values
read back, and no TEE is called like the claims of runtime data. -/
structure ReadsRuntimeData (S : Service) (R : EarJson S.tokenBroker.crate)
    (attestation : Attestation) (nonce : String) : Prop where
  variantName : ∀ tee name, S.tokenBroker.toVariantName tee = .ok name →
    name ≠ "runtime_data_claims"
  primary : ∀ raw, S.tokenBroker.crate.fromStr (primaryRuntimeData attestation nonce).print =
    .ok raw → R.rawToJson raw = primaryRuntimeData attestation nonce
  additional : ∀ raw,
    S.tokenBroker.crate.fromStr (kbsEvidenceRuntimeData attestation nonce).print = .ok raw →
      R.rawToJson raw = kbsEvidenceRuntimeData attestation nonce

variable {J : Jwt}

/-- Paths that lead nowhere are passed over. -/
theorem extractFrom_append_of_none {claim : Json} (paths rest : List String)
    (h : ∀ path ∈ paths, claim.pointer path = none) :
    TokenVerifier.extractFrom J claim (paths ++ rest) = TokenVerifier.extractFrom J claim rest := by
  induction paths with
  | nil => rfl
  | cons path paths ih =>
    rw [List.cons_append, TokenVerifier.extractFrom, h path List.mem_cons_self]
    exact ih fun p hp => h p (List.mem_cons_of_mem _ hp)

/-- Where the paths of other services lead nowhere, the path into the submodule is the only one. -/
theorem extractFrom_defaultPaths {claim : Json}
    (hnone : ∀ path ∈ [TOKEN_TEE_PUBKEY_PATH_ITA, TOKEN_TEE_PUBKEY_PATH_ITA_VTPM,
      TOKEN_TEE_PUBKEY_PATH_COCO, TOKEN_TEE_PUBKEY_PATH_VALUE], claim.pointer path = none) :
    TokenVerifier.extractFrom J claim [TOKEN_TEE_PUBKEY_PATH_ITA, TOKEN_TEE_PUBKEY_PATH_ITA_VTPM,
      TOKEN_TEE_PUBKEY_PATH_COCO, TOKEN_TEE_PUBKEY_PATH_EAR, TOKEN_TEE_PUBKEY_PATH_VALUE] =
        TokenVerifier.extractFrom J claim [TOKEN_TEE_PUBKEY_PATH_EAR] := by
  have hbefore : ∀ path ∈ [TOKEN_TEE_PUBKEY_PATH_ITA, TOKEN_TEE_PUBKEY_PATH_ITA_VTPM,
      TOKEN_TEE_PUBKEY_PATH_COCO], claim.pointer path = none := by
    intro path hpath
    exact hnone path (List.mem_append_left [TOKEN_TEE_PUBKEY_PATH_VALUE] hpath)
  have hbehind : TokenVerifier.extractFrom J claim [TOKEN_TEE_PUBKEY_PATH_VALUE] =
      TokenVerifier.extractFrom J claim [] := by
    apply extractFrom_append_of_none [TOKEN_TEE_PUBKEY_PATH_VALUE] []
    intro path hpath
    exact hnone path (List.mem_append_right [TOKEN_TEE_PUBKEY_PATH_ITA,
      TOKEN_TEE_PUBKEY_PATH_ITA_VTPM, TOKEN_TEE_PUBKEY_PATH_COCO] hpath)
  have hskip := extractFrom_append_of_none (J := J) _
    [TOKEN_TEE_PUBKEY_PATH_EAR, TOKEN_TEE_PUBKEY_PATH_VALUE] hbefore
  rw [List.cons_append, List.cons_append, List.cons_append, List.nil_append] at hskip
  rw [hskip, TokenVerifier.extractFrom, hbehind]
  rfl

/-- **The key that the KBS finds in a token is the one of the attestation message**, and no other
path leads to a key. -/
theorem attest_binds_teePubkey {env : Env} {S : Service} {R : EarJson S.tokenBroker.crate}
    {iterate : List (Tee × Json) → List (Tee × Json)} {attestation : Attestation} {tee : Tee}
    {nonce token : String} {pubkey : J.TeePubKey} (hR : R.Assumptions)
    (hreads : ReadsRuntimeData S R attestation nonce)
    (hpubkey : J.teePubKeyFromValue attestation.runtimeData.teePubkey = .ok pubkey)
    (h : attestBuiltIn env S iterate attestation tee nonce = .ok token) :
    ∃ evidence evaluation ear,
      assembleEvidence env iterate attestation tee nonce = .ok evidence ∧
      BuiltInCoCoAs.requests evidence = .ok evaluation ∧
      AttestationService.unsignedToken S evaluation.1 evaluation.2 = .ok ear ∧
      S.tokenBroker.sign ear = .ok token ∧
      (∀ path ∈ [TOKEN_TEE_PUBKEY_PATH_ITA, TOKEN_TEE_PUBKEY_PATH_ITA_VTPM,
        TOKEN_TEE_PUBKEY_PATH_COCO, TOKEN_TEE_PUBKEY_PATH_VALUE],
        (R.toJson ear).pointer path = none) ∧
      ∀ config V, config.extraTeekeyPaths = [] → TokenVerifier.fromConfig J config = .ok V →
        ∀ k, V.extractTeePublicKey (R.toJson ear) = .ok k → k = pubkey := by
  simp only [attestBuiltIn, BuiltInCoCoAs.verify, AttestationService.evaluate_eq_sign,
    Outcome.bind_eq_ok, Outcome.context_eq_ok] at h
  obtain ⟨evidence, hevidence, evaluation, hevaluation, ear, hear, hsign⟩ := h
  have hnone : ∀ path ∈ [TOKEN_TEE_PUBKEY_PATH_ITA, TOKEN_TEE_PUBKEY_PATH_ITA_VTPM,
      TOKEN_TEE_PUBKEY_PATH_COCO, TOKEN_TEE_PUBKEY_PATH_VALUE],
      (R.toJson ear).pointer path = none := fun _ hpath => pointer_eq_none_of_mem hR ear hpath
  refine ⟨evidence, evaluation, ear, hevidence, hevaluation, hear, hsign, hnone, ?_⟩
  intro config V hpaths hV k hk
  obtain ⟨verifier, -, hV⟩ := Outcome.bind_eq_ok.1 hV
  cases hV
  simp only [TokenVerifier.extractTeePublicKey, hpaths, List.nil_append] at hk
  rw [extractFrom_defaultPaths hnone, TokenVerifier.extractFrom] at hk
  split at hk
  · next v hpointer =>
    obtain ⟨appraisal, raw, hsubmod, hraw, hkey⟩ := pointer_ear_eq_some hR hpointer
    obtain ⟨request, hrequest, hof⟩ := AttestationService.exists_submoduleOf S hear hsubmod
    obtain ⟨e, he, hdata⟩ := runtimeData_of_requests hevaluation hrequest
    have hread := runtimeDataClaims_of_submoduleOf hof hreads.variantName hdata hraw
    have hteePubkey : (R.rawToJson raw).get "tee-pubkey" =
        some attestation.runtimeData.teePubkey := by
      rcases runtimeData_of_assembleEvidence hevidence he with heq | heq
      · rw [heq] at hread
        rw [hreads.primary raw hread]
        exact (get_primaryRuntimeData attestation nonce).2
      · rw [heq] at hread
        rw [hreads.additional raw hread]
        exact (get_kbsEvidenceRuntimeData attestation nonce).2
    cases hkey.symm.trans hteePubkey
    rw [hpubkey] at hk
    cases hk
    rfl
  · exact absurd hk Outcome.bail_ne_ok

/-! ## A token with a key -/

/-- The runtime data that the KBS makes for the message. -/
def sampleRuntimeData : Json := .object
  [("additional-evidence", .string ""), ("nonce", .string "AQIDBA=="), ("tee-pubkey", .string "key")]

/-- Its digest. -/
def sampleDigest : Bytes :=
  AttestationService.exampleData.digest .Sha384 (toUtf8 sampleRuntimeData.print)

/-- An attestation message with evidence of the sample TEE. -/
def sampleAttestation : Attestation where
  initData := none
  runtimeData := ⟨"AQIDBA==", .string "key"⟩
  teeEvidence := ⟨.object [("report_data", .string (Base64.encode sampleDigest)),
    ("svn", .string "1")], ""⟩

theorem primaryRuntimeData_sampleAttestation :
    primaryRuntimeData sampleAttestation "AQIDBA==" = sampleRuntimeData := by
  rfl

/-- The serialisation of a token with submodules of some names. -/
def earJsonOf (names : List String)
    (rawToJson : AttestationService.exampleCrate.RawValue → Json) :
    EarJson AttestationService.exampleCrate where
  toJson ear := .object [("submods", .object (names.filterMap fun name =>
    (ear.submods name).map fun appraisal => (name, .object [("ear.veraison.annotated-evidence",
      .object (["runtime_data_claims"].filterMap fun k =>
        (appraisal.annotatedEvidence k).map fun raw => (k, rawToJson raw)))])))]
  appraisalToJson appraisal := .object [("ear.veraison.annotated-evidence",
    .object (["runtime_data_claims"].filterMap fun k =>
      (appraisal.annotatedEvidence k).map fun raw => (k, rawToJson raw)))]
  rawToJson := rawToJson

theorem rawToJson_earJsonOf (names : List String)
    (rawToJson : AttestationService.exampleCrate.RawValue → Json) :
    (earJsonOf names rawToJson).rawToJson = rawToJson :=
  rfl

/-- The members of a map by their names. -/
theorem get_filterMap {α : Type} (names : List String) (name : String) (f : String → Option α)
    (g : α → Json) : Json.Map.get (names.filterMap fun k => (f k).map fun a => (k, g a)) name =
      if name ∈ names then (f name).map g else none := by
  induction names with
  | nil => rfl
  | cons key names ih =>
    cases hf : f key with
    | none =>
      rw [List.filterMap_cons_none (by rw [hf, Option.map_none]), ih]
      by_cases hname : name = key
      · simp [hname, hf]
      · simp [hname]
    | some a =>
      rw [List.filterMap_cons_some (b := (key, g a)) (by rw [hf, Option.map_some]),
        Json.Map.get_cons, ih]
      by_cases hname : name = key
      · simp [hname, hf]
      · simp [hname]

theorem earJsonOf_assumptions (names : List String)
    (rawToJson : AttestationService.exampleCrate.RawValue → Json) :
    (earJsonOf names rawToJson).Assumptions where
  tdx _ := rfl
  customizedClaims _ := rfl
  teePubkey _ := rfl
  submods ear submods name v hsubmods hget := by
    cases hsubmods
    rw [Json.get_object, get_filterMap] at hget
    split_ifs at hget
    exact Option.map_eq_some_iff.1 hget
  annotatedEvidence appraisal evidence name v hevidence hget := by
    cases hevidence
    rw [Json.get_object, get_filterMap] at hget
    split_ifs at hget
    exact Option.map_eq_some_iff.1 hget

/-- Where the key of the first CPU is found. -/
theorem pointer_earJsonOf {names : List String}
    {rawToJson : AttestationService.exampleCrate.RawValue → Json}
    {ear : Ear AttestationService.exampleCrate}
    {appraisal : Appraisal AttestationService.exampleCrate}
    {raw : AttestationService.exampleCrate.RawValue} (hname : "cpu0" ∈ names)
    (hsubmod : ear.submods "cpu0" = some appraisal)
    (hraw : appraisal.annotatedEvidence "runtime_data_claims" = some raw) :
    ((earJsonOf names rawToJson).toJson ear).pointer TOKEN_TEE_PUBKEY_PATH_EAR =
      (rawToJson raw).get "tee-pubkey" := by
  have hsubmods : ((earJsonOf names rawToJson).toJson ear).get "submods" =
      some (.object (names.filterMap fun name => (ear.submods name).map fun appraisal =>
        (name, (earJsonOf names rawToJson).appraisalToJson appraisal))) := rfl
  have hevidence : ((earJsonOf names rawToJson).appraisalToJson appraisal).get
      "ear.veraison.annotated-evidence" = some (.object (["runtime_data_claims"].filterMap fun k =>
        (appraisal.annotatedEvidence k).map fun raw => (k, rawToJson raw))) := rfl
  rw [pointer_ear, hsubmods, Option.bind_some, Json.get_object, get_filterMap, if_pos hname,
    hsubmod, Option.map_some, Option.bind_some, hevidence, Option.bind_some, Json.get_object,
    get_filterMap, if_pos (List.mem_singleton_self _), hraw, Option.map_some, Option.bind_some]

/-- Texts of runtime data read back. -/
def exampleRawToJson (raw : AttestationService.exampleCrate.RawValue) : Json :=
  if (show String from raw) = sampleRuntimeData.print then sampleRuntimeData
  else kbsEvidenceRuntimeData sampleAttestation "AQIDBA=="

/-- The serialisation of a token with one submodule. -/
abbrev exampleEarJson : EarJson AttestationService.exampleCrate :=
  earJsonOf ["cpu0"] exampleRawToJson

theorem sample_readsRuntimeData : ReadsRuntimeData AttestationService.exampleService exampleEarJson
    sampleAttestation "AQIDBA==" where
  variantName tee name h := by
    cases tee <;> cases h <;> decide
  primary raw h := by
    cases h
    rw [primaryRuntimeData_sampleAttestation]
    change exampleRawToJson sampleRuntimeData.print = sampleRuntimeData
    exact if_pos rfl
  additional raw h := by
    have hne : (kbsEvidenceRuntimeData sampleAttestation "AQIDBA==").print ≠
        sampleRuntimeData.print := by
      decide
    cases h
    change exampleRawToJson (kbsEvidenceRuntimeData sampleAttestation "AQIDBA==").print = _
    exact if_neg hne

open AttestationService in
/-- The token for the message. -/
theorem exists_sampleToken : ∃ ear raw appraisal,
    unsignedToken exampleService
      [sampleRequest sampleDigest (some (.Structured sampleRuntimeData)) none] ["default"] =
        .ok ear ∧
      ear.submods "cpu0" = some appraisal ∧
      appraisal.annotatedEvidence "runtime_data_claims" = some raw := by
  have hclaims := requestClaims_of_verify exampleService
    (sampleRequest sampleDigest (some (.Structured sampleRuntimeData)) none) rfl rfl
    (sampleRequest_verify sampleDigest (some (.Structured sampleRuntimeData)) none (.inr rfl) none)
  obtain ⟨t, ht, hget⟩ := Broker.exists_transformClaims_reportData (B := exampleBroker) .null
    sampleRuntimeData (Sample.get_initData_parseTeeEvidence ⟨"1", Base64.encode sampleDigest⟩)
    (Sample.get_reportData_parseTeeEvidence _) rfl rfl
    (show exampleBroker.toVariantName .Sample = _ from rfl) (by decide)
  obtain ⟨ear, hear, appraisal, hsubmod, rfl, -⟩ := example_unsignedToken hclaims ht
  exact ⟨ear, _, appraisal, hear, hsubmod, hget⟩

/-! ## A token of two pieces -/

section

open AttestationService

/-- The SHA-384 digest of the runtime data of the additional evidence below. -/
def additionalDigest : Bytes :=
  [221, 240, 84, 152, 47, 57, 55, 61, 25, 114, 94, 227, 237, 74, 161, 118, 185, 243, 231, 219, 7,
   33, 183, 134, 230, 219, 129, 39, 158, 85, 140, 86, 198, 149, 185, 34, 123, 191, 83, 25, 221,
   241, 165, 116, 86, 106, 69, 104]

/-- The one of the runtime data of the primary evidence. -/
def primaryDigest : Bytes :=
  [217, 255, 4, 93, 19, 77, 190, 81, 155, 166, 88, 161, 236, 192, 166, 230, 105, 159, 34, 230, 105,
   212, 94, 179, 138, 8, 103, 67, 61, 17, 135, 11, 36, 223, 111, 187, 48, 130, 139, 244, 202, 1,
   160, 165, 153, 220, 118, 8]

/-- Evidence of another sample TEE, in which there is a key of its own. -/
def additionalEvidence : Json := .object
  [("report_data", .string (Base64.encode additionalDigest)), ("svn", .string "1"),
   ("tee-pubkey", .string "other key")]

def additionalText : String := (Json.object [("sample", additionalEvidence)]).print

/-- A message with additional evidence. -/
def pairAttestation : Attestation where
  initData := none
  runtimeData := ⟨"AQIDBA==", .string "key"⟩
  teeEvidence := ⟨.object [("report_data", .string (Base64.encode primaryDigest)),
    ("svn", .string "1")], additionalText⟩

def pairPrimary : Json := primaryRuntimeData pairAttestation "AQIDBA=="

def pairAdditional : Json := kbsEvidenceRuntimeData pairAttestation "AQIDBA=="

theorem print_pairAdditional_ne : pairAdditional.print ≠ pairPrimary.print := by
  have hchar : (Json.printChars pairAdditional)[2]? ≠ (Json.printChars pairPrimary)[2]? := by
    decide
  intro h
  rw [← Json.toList_print, ← Json.toList_print, h] at hchar
  exact hchar rfl

def pairEnv : Env where
  parseVersion text := exampleEnv.parseVersion text
  parseAdditional text :=
    if text = additionalText then .ok [(.Sample, additionalEvidence)] else .error "invalid type"
  timeout := 5

/-- The digests of the two texts. -/
def pairDigest (b : Bytes) : Bytes :=
  if b = toUtf8 pairPrimary.print then primaryDigest
  else if b = toUtf8 pairAdditional.print then additionalDigest
  else []

def pairService : Service := { exampleService with
  data := { exampleData with digest := fun _ => pairDigest } }

theorem pairDigest_pairPrimary : pairDigest (toUtf8 pairPrimary.print) = primaryDigest := by
  rw [pairDigest, if_pos rfl]

theorem pairDigest_pairAdditional :
    pairDigest (toUtf8 pairAdditional.print) = additionalDigest := by
  have hne : toUtf8 pairAdditional.print ≠ toUtf8 pairPrimary.print := by
    intro h
    have htext := congrArg fromUtf8 h
    rw [fromUtf8_toUtf8, fromUtf8_toUtf8] at htext
    exact print_pairAdditional_ne (Option.some.inj htext)
  rw [pairDigest, if_neg hne, if_pos rfl]

/-- What a request of the sample TEE gives. -/
def pairClaims (reportData : Bytes) (runtimeDataClaims : Json) : Broker.TeeClaims where
  tee := .Sample
  teeClass := "cpu"
  claims := .object (Sample.addInitData (Sample.parseTeeEvidence
    ⟨"1", Base64.encode reportData⟩) .notProvided)
  initDataClaims := .null
  runtimeDataClaims := runtimeDataClaims

/-- The requests for the message. -/
def pairRequests : List VerificationRequest :=
  [{ sampleRequest primaryDigest (some (.Structured pairPrimary)) none with
      evidence := pairAttestation.teeEvidence.primaryEvidence },
   { sampleRequest additionalDigest (some (.Structured pairAdditional)) none with
      evidence := additionalEvidence }]

theorem allClaims_pairRequests : allClaims pairService pairRequests =
    .ok [pairClaims primaryDigest pairPrimary, pairClaims additionalDigest pairAdditional] := by
  have hprimary : parseRuntimeData pairService.data (some (.Structured pairPrimary)) .Sha384 =
      .ok (some primaryDigest, pairPrimary) := by
    simp [parseRuntimeData, pairService, exampleData, Outcome.ofExcept, Outcome.context,
      pairDigest_pairPrimary]
  have hadditional : parseRuntimeData pairService.data (some (.Structured pairAdditional))
      .Sha384 = .ok (some additionalDigest, pairAdditional) := by
    simp [parseRuntimeData, pairService, exampleData, Outcome.ofExcept, Outcome.context,
      pairDigest_pairAdditional]
  have hfirst := requestClaims_of_verify pairService
    { sampleRequest primaryDigest (some (.Structured pairPrimary)) none with
      evidence := pairAttestation.teeEvidence.primaryEvidence } hprimary rfl
    (verify_sample rfl rfl rfl (.inr rfl) none)
  have hsecond := requestClaims_of_verify pairService
    { sampleRequest additionalDigest (some (.Structured pairAdditional)) none with
      evidence := additionalEvidence } hadditional rfl
    (verify_sample rfl rfl rfl (.inr rfl) none)
  simp only [pairRequests, allClaims, hfirst, hsecond]
  rfl

/-- The policy lets the claims of both pieces pass. -/
theorem appraise_pairClaims (reportData : Bytes) (runtimeDataClaims : Json) :
    ∃ appraisal raw, Broker.appraise exampleBroker "default"
      (pairClaims reportData runtimeDataClaims) = .ok appraisal ∧
        appraisal.annotatedEvidence "runtime_data_claims" = some raw := by
  obtain ⟨t, ht, hget⟩ := Broker.exists_transformClaims_reportData (B := exampleBroker) .null
    runtimeDataClaims (Sample.get_initData_parseTeeEvidence ⟨"1", Base64.encode reportData⟩)
    (Sample.get_reportData_parseTeeEvidence _) rfl rfl
    (show exampleBroker.toVariantName .Sample = _ from rfl) (by decide)
  have hclaims : Broker.transformClaims exampleBroker
      (pairClaims reportData runtimeDataClaims).claims .null runtimeDataClaims .Sample = .ok t := ht
  obtain ⟨appraisal, happraise, rfl⟩ := example_appraise "default" hclaims
  exact ⟨appraisal, _, happraise, hget⟩

/-- The token for the message has a submodule for each piece. -/
theorem exists_pairToken : ∃ ear first second raw,
    unsignedToken pairService pairRequests ["default"] = .ok ear ∧
      ear.submods "cpu0" = some first ∧ ear.submods "cpu1" = some second ∧
      first.annotatedEvidence "runtime_data_claims" = some raw := by
  obtain ⟨first, raw, hfirst, hraw⟩ := appraise_pairClaims primaryDigest pairPrimary
  obtain ⟨second, -, hsecond, -⟩ := appraise_pairClaims additionalDigest pairAdditional
  have hsubmods : Broker.appraiseAll exampleBroker "default" Table.empty Table.empty
      [pairClaims primaryDigest pairPrimary, pairClaims additionalDigest pairAdditional] =
        .ok ((Table.empty.insert "cpu0" first).insert "cpu1" second) := by
    simp only [Broker.appraiseAll, hfirst, hsecond, Outcome.ok_bind]
    rfl
  have hear : unsignedToken pairService pairRequests ["default"] = Broker.unsignedEar exampleBroker
      [pairClaims primaryDigest pairPrimary, pairClaims additionalDigest pairAdditional]
        ["default"] := by
    rw [unsignedToken, allClaims_pairRequests]
    rfl
  have hcpu0 : ((Table.empty.insert "cpu0" first).insert "cpu1" second) "cpu0" = some first :=
    (Table.insert_of_ne _ _ (by decide)).trans (Table.insert_self _ _ _)
  have hcpu1 : ((Table.empty.insert "cpu0" first).insert "cpu1" second) "cpu1" = some second :=
    Table.insert_self _ _ _
  rw [hear]
  simp only [Broker.unsignedEar, hsubmods, Outcome.ok_bind]
  exact ⟨_, first, second, raw, rfl, hcpu0, hcpu1, hraw⟩

def pairRawToJson (raw : exampleCrate.RawValue) : Json :=
  if (show String from raw) = pairPrimary.print then pairPrimary else pairAdditional

theorem pairRawToJson_of_eq {raw : exampleCrate.RawValue}
    (h : (show String from raw) = pairPrimary.print) : pairRawToJson raw = pairPrimary :=
  if_pos h

theorem pairRawToJson_of_ne {raw : exampleCrate.RawValue}
    (h : (show String from raw) ≠ pairPrimary.print) : pairRawToJson raw = pairAdditional :=
  if_neg h

abbrev pairEarJson : EarJson exampleCrate := earJsonOf ["cpu0", "cpu1"] pairRawToJson

theorem pair_readsRuntimeData :
    ReadsRuntimeData pairService pairEarJson pairAttestation "AQIDBA==" where
  variantName tee name h := by
    cases tee <;> cases h <;> decide
  primary raw h := by
    have hraw : pairPrimary.print = raw := Except.ok.inj h
    rw [rawToJson_earJsonOf, pairRawToJson_of_eq hraw.symm, pairPrimary]
  additional raw h := by
    have hraw : pairAdditional.print = raw := Except.ok.inj h
    have hne : (show String from raw) ≠ pairPrimary.print := hraw ▸ print_pairAdditional_ne
    rw [rawToJson_earJsonOf, pairRawToJson_of_ne hne, pairAdditional]

/-- The evidence of the message. -/
def pairEvidence : List IndependentEvidence :=
  [⟨.Sample, pairAttestation.teeEvidence.primaryEvidence, pairPrimary, none⟩,
   ⟨.Sample, additionalEvidence, pairAdditional, none⟩]

theorem assembleEvidence_pairAttestation :
    assembleEvidence pairEnv id pairAttestation .Sample "AQIDBA==" = .ok pairEvidence := by
  have hparse : pairEnv.parseAdditional additionalText =
      .ok [(.Sample, additionalEvidence)] := by
    simp only [pairEnv, if_true]
  have htext : pairAttestation.teeEvidence.additionalEvidence = additionalText := rfl
  have hne : (additionalText == "") = false := by
    have hchar : additionalText.toList[0]? = some '{' := by
      rw [additionalText, Json.toList_print]
      rfl
    rw [beq_eq_false_iff_ne]
    intro hempty
    rw [hempty] at hchar
    cases hchar
  rw [assembleEvidence, htext, hne]
  simp only [Bool.false_eq_true, if_false, hparse]
  rfl

/-- The KBS finds the key of the message in the token for it, and not the one that stands in the
additional evidence. -/
theorem attest_binds_teePubkey_example : ∃ ear V,
    attestBuiltIn pairEnv pairService id pairAttestation .Sample "AQIDBA==" = .ok "token" ∧
    (∃ appraisal, ear.submods "cpu1" = some appraisal) ∧
    TokenVerifier.fromConfig exampleJwt ⟨[], [], [], false⟩ = .ok V ∧
    V.extractTeePublicKey (pairEarJson.toJson ear) = .ok (.string "key") := by
  obtain ⟨ear, first, second, raw, hear, hfirst, hsecond, hraw⟩ := exists_pairToken
  have hrequests : BuiltInCoCoAs.requests pairEvidence = .ok (pairRequests, ["default"]) := rfl
  have htoken : attestBuiltIn pairEnv pairService id pairAttestation .Sample "AQIDBA==" =
      .ok "token" := by
    rw [attestBuiltIn, assembleEvidence_pairAttestation, Outcome.ok_bind, BuiltInCoCoAs.verify,
      hrequests, Outcome.ok_bind, evaluate_eq_sign, hear, Outcome.ok_bind]
    exact congrArg (Outcome.context · "verify TEE evidence failed") (example_sign hfirst)
  obtain ⟨V, hV⟩ : ∃ V, TokenVerifier.fromConfig exampleJwt ⟨[], [], [], false⟩ = .ok V := ⟨_, rfl⟩
  obtain ⟨evidence, evaluation, ear', hevidence, hevaluation, hear', -, hnone, hbinds⟩ :=
    attest_binds_teePubkey (J := exampleJwt) (earJsonOf_assumptions _ _) pair_readsRuntimeData
      rfl htoken
  cases assembleEvidence_pairAttestation.symm.trans hevidence
  cases hrequests.symm.trans hevaluation
  cases hear.symm.trans hear'
  obtain ⟨k, hk⟩ : ∃ k, V.extractTeePublicKey (pairEarJson.toJson ear) = .ok k := by
    have hpointer : (pairEarJson.toJson ear).pointer TOKEN_TEE_PUBKEY_PATH_EAR =
        (pairRawToJson raw).get "tee-pubkey" :=
      pointer_earJsonOf List.mem_cons_self hfirst hraw
    obtain ⟨key, hkey⟩ : ∃ key, (pairRawToJson raw).get "tee-pubkey" = some key := by
      unfold pairRawToJson
      split_ifs <;> exact ⟨_, rfl⟩
    rw [hkey] at hpointer
    refine ⟨key, ?_⟩
    cases hV
    refine (extractFrom_defaultPaths hnone).trans ?_
    rw [TokenVerifier.extractFrom, hpointer]
    rfl
  rw [hbinds _ V rfl hV k hk] at hk
  exact ⟨ear, V, htoken, ⟨second, hsecond⟩, hV, hk⟩

end

end Trustmee.Kbs
