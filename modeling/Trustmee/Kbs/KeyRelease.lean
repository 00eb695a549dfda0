import Trustmee.Kbs.KeyBinding
import Trustmee.Kbs.SecretRelease

/-!
# To whom the secrets of a session go

The whole way of a secret, with the built-in attestation service: a client gets a nonce, sends an
attestation message in its session, and asks for a resource in the same session. However the
requests of all clients interleave, what leaves is encrypted for the key of an attestation message
that came in for this very session; and this key and the session's nonce have the digest that
evidence of the message has as its report data, where the TEE's verifier compares it
(`session_released_to_attested`).
-/

namespace Trustmee.Kbs

open Transition
open AttestationService (Service VerificationRequest SubmoduleOf)
open Broker (Appraisal Ear)

/-! ## Tokens of the built-in service -/

section Tokens

variable {ι : Type} {env : Env} (S : ι → Service)

/-- The service returns the token for the evidence, with one of its settings: policies, reference
values and the time change while the KBS runs. -/
def Issued (evidence : List IndependentEvidence) (token : String) : Prop :=
  ∃ i, BuiltInCoCoAs.verify (S i) evidence = .ok token

/-- What `inner.verify` returns is returned by the service. -/
def Verifies (s : State) (l : Label) : Prop :=
  ∀ r token id attestation evidence, l = .attestFinish r (.ok token) →
    s.handlers r = some (.attestVerifying id attestation evidence) → Issued S evidence token

variable {S} {s t : State} {l : Label} {tr : List Label} {evidence : List IndependentEvidence}
  {token : String}

/-- A verification ends in one step alone. -/
theorem step_verify (hstep : Step env s l t) (h : .verify evidence token ∈ t.history) :
    .verify evidence token ∈ s.history ∨ ∃ r id attestation, l = .attestFinish r (.ok token) ∧
      s.handlers r = some (.attestVerifying id attestation evidence) := by
  cases hstep with
  | @authFinish r request challenge now id hr hid =>
    cases hfinish : authFinish env request challenge now id with
    | ok p =>
      obtain ⟨session, response⟩ := p
      obtain ⟨c, -, rfl⟩ := authFinish_ok hfinish
      rw [hfinish] at h
      rcases List.mem_append.1 h with h | h
      · exact .inl h
      · cases List.mem_singleton.1 h
    | err e => exact .inl (by rwa [hfinish] at h)
    | panic m => exact .inl (by rwa [hfinish] at h)
  | @recvAttest r cookie attestation hr =>
    cases hstart : attestStart cookie attestation with
    | ok p =>
      rw [hstart] at h
      rcases List.mem_append.1 h with h | h
      · exact .inl h
      · cases List.mem_singleton.1 h
    | err e => exact .inl (by rwa [hstart] at h)
    | panic m => exact .inl (by rwa [hstart] at h)
  | @attestLookupAgain r sessionId attestation evidence hr hfree =>
    cases hlookup : attestLookupAgain s.sessions sessionId <;>
      exact .inl (by rwa [hlookup] at h)
  | @attestFinish r sessionId attestation evidence session token hr hsession =>
    cases token with
    | error e => exact .inl h
    | ok token =>
      rcases List.mem_append.1 h with h | h
      · exact .inl h
      · cases List.mem_singleton.1 h
        exact .inr ⟨r, sessionId, attestation, rfl, hr⟩
  | @drop r handler hr hdone => cases handler <;> exact .inl h
  | _ => exact .inl h

/-- Every token of a verification is one that the service issued. -/
def AllIssued (S : ι → Service) (s : State) : Prop :=
  ∀ evidence token, .verify evidence token ∈ s.history → Issued S evidence token

theorem AllIssued.step (hs : AllIssued S s) (hl : Verifies S s l) (hstep : Step env s l t) :
    AllIssued S t := by
  intro evidence token hmem
  rcases step_verify hstep hmem with hold | ⟨r, id, attestation, heq, hr⟩
  · exact hs evidence token hold
  · exact hl r token id attestation evidence heq hr

theorem allIssued (h : AllSteps (service env) (Verifies S) State.init tr s) : AllIssued S s := by
  refine h.invariant (fun _ hinit => ?_) (fun _ _ _ => AllIssued.step) rfl
  rw [hinit]
  intro evidence token h
  cases h

end Tokens

/-! ## The key in a token -/

/-- What the proofs assume of the crates: how a token is serialised, that it is read as it was
signed, that the runtime data of verified evidence reads back, and that no TEE is called like the
claims of runtime data. -/
structure Crates {ι : Type} {J : Jwt} (S : ι → Service) (R : ∀ i, EarJson (S i).tokenBroker.crate)
    (V : TokenVerifier J) (history : List Event) : Prop where
  ear : ∀ i, (R i).Assumptions
  variantName : ∀ i tee name, (S i).tokenBroker.toVariantName tee = .ok name →
    name ≠ "runtime_data_claims"
  signed : ∀ i ear token claims, (S i).tokenBroker.sign ear = .ok token →
    V.verify token = .ok claims → claims = (R i).toJson ear
  runtimeData : ∀ i evidence token, .verify evidence token ∈ history → ∀ e ∈ evidence, ∀ raw,
    (S i).tokenBroker.crate.fromStr e.runtimeData.print = .ok raw →
      (R i).rawToJson raw = e.runtimeData

/-- The runtime data of a piece of evidence, in its canonical form, has the digest that the evidence
has as its report data, and the TEE's verifier accepted the evidence. IBM SE's compares nothing, and
a Wasm verifier is not the service's own. -/
structure Vouches (S : Service) (e : IndependentEvidence) : Prop where
  accepted : ∃ request claims, BuiltInCoCoAs.verificationRequest e = .ok request ∧
    AttestationService.requestClaims S request = .ok claims
  bound : S.wasmVerifier = none → e.tee ≠ .Se → ∃ material,
    S.data.serializeCanonJson e.runtimeData = .ok material ∧
      Native.ReportDataBound S.native e.tee e.teeEvidence
        (S.data.digest .Sha384 material)

section Keys

variable {S : Service} {evidence : List IndependentEvidence} {e : IndependentEvidence}
  {request : VerificationRequest} {appraisal : Appraisal S.tokenBroker.crate}

/-- The runtime data in a submodule is that of evidence that vouches for it. -/
theorem vouches_of_submoduleOf
    (hname : ∀ tee name, S.tokenBroker.toVariantName tee = .ok name → name ≠ "runtime_data_claims")
    (hrequest : BuiltInCoCoAs.verificationRequest e = .ok request)
    (h : SubmoduleOf S request appraisal) {raw : S.tokenBroker.crate.RawValue}
    (hraw : appraisal.annotatedEvidence "runtime_data_claims" = some raw) : Vouches S e := by
  have haccepted := h
  obtain ⟨claims, hclaims, -⟩ := haccepted
  refine ⟨⟨request, claims, hrequest, hclaims⟩, fun hnative htee => ?_⟩
  obtain ⟨toml, -, hof⟩ := Outcome.bind_eq_ok.1 hrequest
  cases hof
  obtain ⟨reportData, runtimeDataClaims, _, _, verifier, claims, v, teeClass, hruntime, -,
    hverifier, hclaims, hv, htransform⟩ := h.exists_claims hnative
  obtain ⟨moved, name, hmoved, hvariant, hrest⟩ := Broker.transformClaims_eq_ok htransform
  rw [hrest _ (hname _ _ hvariant).symm] at hraw
  have hemits := ((Broker.moveClaims_eq_ok hmoved).1 raw hraw).1
  simp only [BuiltInCoCoAs.requestOf, AttestationService.parseRuntimeData, Outcome.bind_eq_ok,
    Outcome.context_eq_ok, Outcome.ofExcept_eq_ok, Outcome.pure_eq, Outcome.ok.injEq,
    Prod.mk.injEq] at hruntime
  obtain ⟨material, hmaterial, rfl, -⟩ := hruntime
  exact ⟨material, hmaterial, Native.toVerifier_bindsReportData htee hverifier _ _ _ _ hclaims
    ⟨(v, teeClass), hv, hemits⟩⟩

/-- **A key in a token of the service is one that evidence vouches for.** -/
theorem exists_vouches {R : EarJson S.tokenBroker.crate} {token : String} (hR : R.Assumptions)
    (hname : ∀ tee name, S.tokenBroker.toVariantName tee = .ok name → name ≠ "runtime_data_claims")
    (hreads : ∀ e ∈ evidence, ∀ raw, S.tokenBroker.crate.fromStr e.runtimeData.print = .ok raw →
      R.rawToJson raw = e.runtimeData)
    (h : BuiltInCoCoAs.verify S evidence = .ok token) :
    ∃ ear, S.tokenBroker.sign ear = .ok token ∧
      ∀ v, (R.toJson ear).pointer TOKEN_TEE_PUBKEY_PATH_EAR = some v →
        ∃ e ∈ evidence, Vouches S e ∧ e.runtimeData.get "tee-pubkey" = some v := by
  simp only [BuiltInCoCoAs.verify, AttestationService.evaluate_eq_sign, Outcome.bind_eq_ok] at h
  obtain ⟨evaluation, hevaluation, ear, hear, hsign⟩ := h
  refine ⟨ear, hsign, fun v hv => ?_⟩
  obtain ⟨appraisal, raw, hsubmod, hraw, hkey⟩ := pointer_ear_eq_some hR hv
  obtain ⟨request, hmem, hof⟩ := AttestationService.exists_submoduleOf S hear hsubmod
  obtain ⟨requests, hrequests, heq⟩ := Outcome.bind_eq_ok.1 hevaluation
  cases heq
  obtain ⟨i, hi⟩ := List.mem_iff_getElem?.1 hmem
  obtain ⟨e, hget, hrequest⟩ := (Outcome.getElem?_traverse hrequests).1 hi
  have he : e ∈ evidence := List.mem_of_getElem? hget
  have hdata : request.runtimeData = some (.Structured e.runtimeData) := by
    obtain ⟨toml, -, hof⟩ := Outcome.bind_eq_ok.1 hrequest
    cases hof
    rfl
  have hread := runtimeDataClaims_of_submoduleOf hof hname hdata hraw
  rw [hreads e he raw hread] at hkey
  exact ⟨e, he, vouches_of_submoduleOf hname hrequest hof hraw, hkey⟩

end Keys

/-! ## The way of a secret -/

/-- The key came in an attestation message for the session, and evidence of the message vouches for
it and for the nonce that the session was given. -/
def AttestedKey {J : Jwt} (S : Service) (history : List Event) (sessionId token : String)
    (key : J.TeePubKey) : Prop :=
  ∃ request challenge timeout attestation evidence,
    .auth request challenge sessionId timeout ∈ history ∧
    .attestation sessionId attestation ∈ history ∧
    .verify evidence token ∈ history ∧
    J.teePubKeyFromValue attestation.runtimeData.teePubkey = .ok key ∧
    ∃ e ∈ evidence, Vouches S e ∧
      e.runtimeData.get "nonce" = some (.string challenge.nonce) ∧
      e.runtimeData.get "tee-pubkey" = some attestation.runtimeData.teePubkey

section Release

variable {ι σ : Type} {J : Jwt} {K : Jwe.Crypto} {env : Env} {S : ι → Service}
  {R : ∀ i, EarJson (S i).tokenBroker.crate} {core : ApiServer σ J K} {request : HttpRequest}
  {sessionId token : String} {tr : List Label} {s : State} {claims : Json}

/-- **The key in the token of a session is an attested one.** -/
theorem attestedKey_of_extract {id : String} {timeout : Time} {V : TokenVerifier J}
    (hcrates : Crates S R V s.history)
    {config : AttestationTokenVerifierConfig} (hconfig : config.extraTeekeyPaths = [])
    (hV : TokenVerifier.fromConfig J config = .ok V)
    (hrun : AllSteps (service env) (Verifies S) State.init tr s)
    (hsession : s.sessions sessionId = some (.Attested token id timeout))
    (hverify : V.verify token = .ok claims) {key : J.TeePubKey}
    (hkey : V.extractTeePublicKey claims = .ok key) :
    ∃ i, AttestedKey (S i) s.history sessionId token key := by
  have hinv : Inv s := reachable_inv ⟨State.init, tr, rfl, hrun.run⟩
  obtain ⟨rfl, request, challenge, attestation, evidence, hauth, hattestation, hmem, hevidence⟩ :=
    hinv.session hsession
  obtain ⟨i, hissued⟩ := allIssued hrun evidence token hmem
  obtain ⟨ear, hsign, hvouches⟩ := exists_vouches (hcrates.ear i) (hcrates.variantName i)
    (hcrates.runtimeData i evidence token hmem) hissued
  cases hcrates.signed i ear token claims hsign hverify
  obtain ⟨verifier, -, hV⟩ := Outcome.bind_eq_ok.1 hV
  cases hV
  simp only [TokenVerifier.extractTeePublicKey, hconfig, List.nil_append] at hkey
  rw [extractFrom_defaultPaths fun _ hpath => pointer_eq_none_of_mem (hcrates.ear i) ear hpath,
    TokenVerifier.extractFrom] at hkey
  split at hkey
  · next v hpointer =>
    obtain ⟨e, he, hvouch, hget⟩ := hvouches v hpointer
    cases hget.symm.trans (hevidence.teePubkey e he)
    refine ⟨i, request, challenge, timeout, attestation, evidence, hauth, hattestation, hmem, ?_,
      e, he, hvouch, hevidence.nonce e he, hevidence.teePubkey e he⟩
    split at hkey
    · next pkey hpkey =>
      cases hkey
      exact hpkey
    · exact absurd hkey Outcome.bail_ne_ok
  · exact absurd hkey Outcome.bail_ne_ok

/-- A resource that is given to the holder of a token leaves for the key in its claims. -/
theorem sealedReply_of_handle {backend : StorageBackend σ} {body : Bytes} {path : String}
    {query : Query} {rest : List String} {v : σ} {data : Bytes}
    (hplugin : core.pluginManager "resource" = some (ResourceStorage.clientPlugin backend))
    (hpath : split path '/' = "resource" :: rest) (hmethod : request.method = "GET")
    (hhandle : .handle "resource" ⟨body, query, rest, "GET"⟩ (.ok data) ∈
      ((core.api request body path query).run v).calls) :
    ∃ token claims w, ApiServer.TokenOf core request v token ∧
      core.tokenVerifier.verify token = .ok claims ∧
      ApiServer.SealedReply core claims data w
        (respond ((core.api request body path query).run v).result) := by
  have hroute : route "resource" request.method = none := by simp [route]
  rw [ApiServer.api_eq hpath hplugin hroute] at hhandle ⊢
  simp only [hmethod] at hhandle ⊢
  obtain ⟨admitted, before, u, hadmission, hrelease⟩ :=
    Traced.exists_of_mem_calls_bind ApiServer.avoids_admission hhandle trivial
  have hadmitted := ApiServer.admission_run.1 hadmission
  obtain ⟨after, hcalls, hafter⟩ := core.run_release "resource"
    (ResourceStorage.clientPlugin backend) ⟨body, query, rest, "GET"⟩ admitted u
  rw [hcalls] at hrelease
  obtain ⟨w, hgiven⟩ : ∃ w, (ResourceStorage.clientPlugin backend).handle
      ⟨body, query, rest, "GET"⟩ u = (.ok data, w) := by
    rcases List.mem_cons.1 hrelease with heq | hmem
    · injection heq with _ _ hanswer
      exact ⟨_, Prod.ext (ApiServer.halting_eq_ok.1 hanswer.symm) rfl⟩
    · exact absurd trivial (hafter _ hmem)
  cases hadmitted with
  | admin hauth hadmin => cases hauth
  | @token t u token claims hauth htoken hverify hallow =>
    cases hauth
    have hencrypted : (ResourceStorage.clientPlugin backend).encrypted
        ⟨body, query, rest, "GET"⟩ w = (.ok true, w) := rfl
    refine ⟨token, claims, w, htoken, hverify, ?_⟩
    rw [Traced.run_bind_of_ok hadmission]
    dsimp only
    rw [ApiServer.run_release_encrypted hgiven hencrypted]
    exact ApiServer.sealedReply_encryptedReply claims data w

/-- **The secrets of a session go to an attested key.** -/
theorem session_released_to_attested {backend : StorageBackend σ} {body : Bytes} {path : String}
    {query : Query} {rest : List String} {v : σ} {data : Bytes}
    {config : AttestationTokenVerifierConfig} (hconfig : config.extraTeekeyPaths = [])
    (hV : TokenVerifier.fromConfig J config = .ok core.tokenVerifier)
    (hcrates : Crates S R core.tokenVerifier s.history)
    (hrun : AllSteps (service env) (Verifies S) State.init tr s)
    (hsessions : core.attestationService.sessions v = s.sessions)
    (hplugin : core.pluginManager "resource" = some (ResourceStorage.clientPlugin backend))
    (hpath : split path '/' = "resource" :: rest) (hmethod : request.method = "GET")
    (hcookie : request.cookie = some sessionId)
    (hsession : ∃ token, ApiServer.SessionToken core request v token)
    (hhandle : .handle "resource" ⟨body, query, rest, "GET"⟩ (.ok data) ∈
      ((core.api request body path query).run v).calls) :
    let seen := respond ((core.api request body path query).run v).result
    seen = none ∨ (∃ e ∈ [ApiError.TokenVerifierError [], .JweError [], .SerdeError ""],
      seen = some (errorResponse e)) ∨
    ∃ i token key draws jwe text, AttestedKey (S i) s.history sessionId token key ∧
      Jwe.jwe K draws (core.teePubKey key) data = .ok jwe ∧ core.responseToString jwe = .ok text ∧
      seen = some (okResponse "application/json" (toUtf8 text)) := by
  intro seen
  obtain ⟨token, claims, w, htoken, hverify, hsealed⟩ :=
    sealedReply_of_handle hplugin hpath hmethod hhandle
  rcases hsealed with ⟨key, jwe, text, hkey, hjwe, htext, hseen⟩ | herror | hnone
  · rcases htoken with ⟨cookie, id, timeout, hcookie', hattested, -⟩ | ⟨hnone, -⟩
    · cases hcookie.symm.trans hcookie'
      rw [hsessions] at hattested
      obtain ⟨i, hattestedKey⟩ :=
        attestedKey_of_extract hcrates hconfig hV hrun hattested hverify hkey
      exact .inr (.inr ⟨i, token, key, _, jwe, text, hattestedKey, hjwe, htext, hseen⟩)
    · obtain ⟨t, ht⟩ := hsession
      exact absurd ht (hnone t)
  · exact .inr (.inl herror)
  · exact .inl hnone

end Release

/-! ## A secret for an attested key -/

section Example

open AttestationService (exampleCrate exampleBroker sampleRequest)

/-- The text of the runtime data in the submodule of the first CPU. -/
def runtimeDataText (ear : Ear exampleCrate) : Option String :=
  (ear.submods "cpu0").bind fun appraisal => appraisal.annotatedEvidence "runtime_data_claims"

/-- A broker that signs tokens with the runtime data of the message. -/
abbrev signingBroker : Broker.Env :=
  { exampleBroker with
    sign := fun ear => if runtimeDataText ear = some sampleRuntimeData.print then .ok "token"
      else .bail "unavailable" }

abbrev signingService : Service :=
  { AttestationService.exampleService with tokenBroker := signingBroker }

/-- The claims of these tokens. -/
def signedClaims : Json := .object [("submods", .object [("cpu0", .object
  [("ear.veraison.annotated-evidence", .object [("runtime_data_claims", sampleRuntimeData)])])])]

theorem toJson_of_runtimeDataText {ear : Ear exampleCrate}
    (h : runtimeDataText ear = some sampleRuntimeData.print) :
    exampleEarJson.toJson ear = signedClaims := by
  obtain ⟨appraisal, hsubmod, hraw⟩ := Option.bind_eq_some_iff.1 h
  have hread : exampleRawToJson sampleRuntimeData.print = sampleRuntimeData := if_pos rfl
  have hevidence : (["runtime_data_claims"].filterMap fun k =>
      (appraisal.annotatedEvidence k).map fun raw => (k, exampleRawToJson raw)) =
        [("runtime_data_claims", sampleRuntimeData)] := by
    rw [List.filterMap_cons_some (b := ("runtime_data_claims", sampleRuntimeData)),
      List.filterMap_nil]
    rw [hraw]
    exact congrArg (fun v => some ("runtime_data_claims", v)) hread
  simp [earJsonOf, hsubmod, hevidence, signedClaims]

theorem appraise_signingBroker (policyId : String) (teeClaims : Broker.TeeClaims) :
    Broker.appraise signingBroker policyId teeClaims =
      Broker.appraise exampleBroker policyId teeClaims := by
  have htransform : Broker.transformClaims signingBroker teeClaims.claims
      teeClaims.initDataClaims teeClaims.runtimeDataClaims teeClaims.tee =
        Broker.transformClaims exampleBroker teeClaims.claims
          teeClaims.initDataClaims teeClaims.runtimeDataClaims teeClaims.tee := rfl
  simp only [Broker.appraise, htransform]
  cases Broker.transformClaims exampleBroker teeClaims.claims
    teeClaims.initDataClaims teeClaims.runtimeDataClaims teeClaims.tee <;> rfl

theorem appraiseAll_signingBroker (policyId : String) (all : List Broker.TeeClaims)
    (indices : Table String UInt8) (submods : Table String (Appraisal exampleBroker.crate)) :
    Broker.appraiseAll signingBroker policyId indices submods all =
      Broker.appraiseAll exampleBroker policyId indices submods all := by
  induction all generalizing indices submods with
  | nil => rfl
  | cons teeClaims all ih =>
    simp only [Broker.appraiseAll, appraise_signingBroker]
    refine congrArg (Broker.appraise exampleBroker policyId teeClaims >>= ·)
      (funext fun appraisal => ?_)
    exact congrArg (Broker.indexOf exampleBroker indices teeClaims.teeClass >>= ·)
      (funext fun index => ih _ _)

theorem unsignedToken_signingService : AttestationService.unsignedToken signingService
      [sampleRequest sampleDigest (some (.Structured sampleRuntimeData)) none] ["default"] =
    AttestationService.unsignedToken AttestationService.exampleService
      [sampleRequest sampleDigest (some (.Structured sampleRuntimeData)) none] ["default"] := by
  have hclaims : AttestationService.allClaims signingService
      [sampleRequest sampleDigest (some (.Structured sampleRuntimeData)) none] =
    AttestationService.allClaims AttestationService.exampleService
      [sampleRequest sampleDigest (some (.Structured sampleRuntimeData)) none] := rfl
  rw [AttestationService.unsignedToken, AttestationService.unsignedToken, hclaims]
  refine congrArg (Outcome.ensure _ _ >>= ·) (funext fun _ => ?_)
  refine congrArg (AttestationService.allClaims _ _ >>= ·) (funext fun all => ?_)
  have hloop := appraiseAll_signingBroker "default" all Table.empty Table.empty
  change (Broker.appraiseAll signingBroker "default" Table.empty Table.empty all >>= _) = _
  rw [hloop]
  rfl

/-- The evidence of the message. -/
def sampleEvidence : IndependentEvidence :=
  ⟨.Sample, sampleAttestation.teeEvidence.primaryEvidence, sampleRuntimeData, none⟩

theorem verify_signingService :
    BuiltInCoCoAs.verify signingService [sampleEvidence] = .ok "token" := by
  obtain ⟨ear, raw, appraisal, hear, hsubmod, hraw⟩ := exists_sampleToken
  obtain ⟨request, hmem, hof⟩ := AttestationService.exists_submoduleOf _ hear hsubmod
  cases List.mem_singleton.1 hmem
  have htext : runtimeDataText ear = some sampleRuntimeData.print := by
    have hread := runtimeDataClaims_of_submoduleOf hof sample_readsRuntimeData.variantName rfl hraw
    cases hread
    exact Option.bind_eq_some_iff.2 ⟨appraisal, hsubmod, hraw⟩
  have hevaluate : BuiltInCoCoAs.verify signingService [sampleEvidence] =
      AttestationService.evaluate signingService
        [sampleRequest sampleDigest (some (.Structured sampleRuntimeData)) none] ["default"] := rfl
  rw [hevaluate, AttestationService.evaluate_eq_sign, unsignedToken_signingService, hear]
  exact if_pos htext

/-! A client attests in a session, and asks for a secret in it. -/

/-- The state after the client has attested. -/
theorem exists_signed_session : ∃ s tr,
    AllSteps (service exampleEnv) (Verifies fun _ : Unit => signingService) State.init tr s ∧
      s.sessions = Table.empty.insert "id" (.Attested "token" "id" (minutes 5)) ∧
      s.history = [.auth ⟨"0.4.0", .Sample, .string ""⟩ ⟨"AQIDBA==", .null⟩ "id" (minutes 5),
        .attestation "id" sampleAttestation, .verify [sampleEvidence] "token"] := by
  have hother : ∀ {s l}, (∀ r token, l ≠ .attestFinish r (.ok token)) →
      Verifies (fun _ : Unit => signingService) s l :=
    fun hne r token _ _ _ heq => absurd heq (hne r token)
  have h₀ : AllSteps (service exampleEnv) (Verifies fun _ : Unit => signingService) State.init []
      State.init := .nil
  have h₁ := h₀.step (@Step.recvAuth exampleEnv _ 0 (.ok ⟨"0.4.0", .Sample, .string ""⟩) rfl)
    (hother fun _ _ => Label.noConfusion)
  have h₂ := h₁.step (@Step.authFinish exampleEnv _ 0 ⟨"0.4.0", .Sample, .string ""⟩
    (.ok ⟨"AQIDBA==", .null⟩) 0 "id" rfl List.not_mem_nil) (hother fun _ _ => Label.noConfusion)
  have h₃ := h₂.step (@Step.recvAttest exampleEnv _ 1 (some "id") (.ok sampleAttestation) rfl)
    (hother fun _ _ => Label.noConfusion)
  have h₄ := h₃.step (@Step.attestLookup exampleEnv _ 1 1 "id" sampleAttestation rfl rfl)
    (hother fun _ _ => Label.noConfusion)
  have h₅ := h₄.step (@Step.assembleEvidence exampleEnv _ 1 "id" sampleAttestation .Sample
    "AQIDBA==" id rfl fun _ => .refl _) (hother fun _ _ => Label.noConfusion)
  have h₆ := h₅.step (@Step.attestLookupAgain exampleEnv _ 1 "id" sampleAttestation
    [sampleEvidence] rfl rfl) (hother fun _ _ => Label.noConfusion)
  have h₇ := h₆.step (@Step.attestFinish exampleEnv _ 1 "id" sampleAttestation [sampleEvidence] _
    (.ok "token") rfl rfl) (by
      intro r token id attestation evidence heq hr
      cases heq
      cases hr
      exact ⟨(), verify_signingService⟩)
  exact ⟨_, _, h₇, Table.insert_insert _ _ _ _, rfl⟩

/-- A verifier of tokens that reads the one that was signed. -/
def signedJwt : Jwt :=
  { exampleJwt with
    decode := fun token _ _ => if token = "token" then .ok signedClaims else .error "InvalidToken" }

theorem example_crates (V : TokenVerifier signedJwt) {history : List Event}
    (hhistory : history = [.auth ⟨"0.4.0", .Sample, .string ""⟩ ⟨"AQIDBA==", .null⟩ "id" (minutes 5),
        .attestation "id" sampleAttestation, .verify [sampleEvidence] "token"]) :
    Crates (fun _ : Unit => signingService) (fun _ => exampleEarJson) V history where
  ear _ := earJsonOf_assumptions _ _
  variantName _ := sample_readsRuntimeData.variantName
  signed _ ear token claims hsign hverify := by
    have htext : runtimeDataText ear = some sampleRuntimeData.print := by
      by_contra h
      have hfail : signingService.tokenBroker.sign ear = .bail "unavailable" := if_neg h
      rw [hfail] at hsign
      cases hsign
    simp only [TokenVerifier.verify, JwkAttestationTokenVerifier.verify, Outcome.bind_eq_ok,
      Outcome.context_eq_ok, Outcome.ofExcept_eq_ok] at hverify
    obtain ⟨header, -, key, -, keyAlg, -, alg, -, dkey, -, hdecode⟩ := hverify
    simp only [signedJwt] at hdecode
    split_ifs at hdecode
    cases hdecode
    exact (toJson_of_runtimeDataText htext).symm
  runtimeData _ evidence token hmem e he raw hraw := by
    have hevidence : evidence = [sampleEvidence] := by
      rw [hhistory] at hmem
      have hboth : evidence = [sampleEvidence] ∧ token = "token" := by simpa using hmem
      exact hboth.1
    rw [hevidence] at he
    cases List.mem_singleton.1 he
    cases hraw
    have hread : exampleRawToJson sampleRuntimeData.print = sampleRuntimeData := if_pos rfl
    exact hread

/-- A server with the session of the client. -/
def signedServer : ApiServer Unit signedJwt ApiServer.exampleCrypto where
  pluginManager := ApiServer.exampleServer.pluginManager
  attestationService :=
    { ApiServer.exampleServer.attestationService with
      sessions := fun _ => Table.empty.insert "id" (.Attested "token" "id" (minutes 5)) }
  policyEngine := ApiServer.exampleServer.policyEngine
  validateAdminToken := ApiServer.exampleServer.validateAdminToken
  tokenVerifier := ⟨⟨[], [], true⟩, [TOKEN_TEE_PUBKEY_PATH_ITA, TOKEN_TEE_PUBKEY_PATH_ITA_VTPM,
    TOKEN_TEE_PUBKEY_PATH_COCO, TOKEN_TEE_PUBKEY_PATH_EAR, TOKEN_TEE_PUBKEY_PATH_VALUE]⟩
  teePubKey := ApiServer.exampleServer.teePubKey
  draw := ApiServer.exampleServer.draw
  responseToString := ApiServer.exampleServer.responseToString

/-- The request for the secret. -/
def sessionRequest : HttpRequest := ⟨"GET", some "id", .error "no token"⟩

theorem session_released_to_attested_example : ∃ history token key draws jwe text,
    AttestedKey (J := signedJwt) signingService history "id" token key ∧
      Jwe.jwe ApiServer.exampleCrypto draws (signedServer.teePubKey key) [1, 2, 3] = .ok jwe ∧
      respond ((signedServer.api sessionRequest [] "resource/a/b/c" ⟨[], List.nodup_nil⟩).run
        ()).result = some (okResponse "application/json" (toUtf8 text)) := by
  obtain ⟨s, tr, hrun, hsessions, hhistory⟩ := exists_signed_session
  have hseen : respond ((signedServer.api sessionRequest [] "resource/a/b/c"
      ⟨[], List.nodup_nil⟩).run ()).result =
        some (okResponse "application/json" (toUtf8 (Base64.encode [0, 0, 0]))) := rfl
  have hhandle : .handle "resource" ⟨[], ⟨[], List.nodup_nil⟩, ["a", "b", "c"], "GET"⟩
      (.ok [1, 2, 3]) ∈ ((signedServer.api sessionRequest [] "resource/a/b/c"
        ⟨[], List.nodup_nil⟩).run ()).calls :=
    .tail _ (.tail _ (.tail _ (.tail _ (.head _))))
  have hreleased := session_released_to_attested rfl
    (show TokenVerifier.fromConfig signedJwt ⟨[], [], [], true⟩ = .ok signedServer.tokenVerifier
      from rfl) (example_crates signedServer.tokenVerifier hhistory) hrun
    (show signedServer.attestationService.sessions () = s.sessions from hsessions.symm)
    (show signedServer.pluginManager "resource" =
      some (ResourceStorage.clientPlugin ApiServer.exampleBackend) from rfl)
    (show split "resource/a/b/c" '/' = "resource" :: ["a", "b", "c"] from rfl)
    (show sessionRequest.method = "GET" from rfl) (show sessionRequest.cookie = some "id" from rfl)
    ⟨"token", "id", "id", minutes 5, rfl, rfl, by decide⟩ hhandle
  rw [hseen] at hreleased ⊢
  rcases hreleased with hnone | ⟨e, he, herror⟩ | ⟨i, token, key, draws, jwe, text, hkey, hjwe, -,
    htext⟩
  · cases hnone
  · have hstatus := congrArg (fun seen => seen.map HttpResponse.status) herror
    simp only [List.mem_cons, List.not_mem_nil, or_false] at he
    rcases he with rfl | rfl | rfl <;> cases hstatus
  · exact ⟨s.history, token, key, draws, jwe, text, hkey, hjwe, htext⟩

end Example

end Trustmee.Kbs
