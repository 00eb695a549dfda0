import Trustmee.Service.Submodules

/-!
# Requests that are appraised

A request whose evidence is accepted should leave a submodule in the token. It leaves none when the
verifier gives no claims, as NVIDIA's does for evidence with an empty list of devices, and when so
many pieces of its class come with later requests that each of its submodules is replaced. Else it
leaves one (`evaluate_appraised`).
-/

namespace Trustmee

namespace Broker

/-- A block of pieces of one class leaves a submodule exactly when it is not empty and fewer than
256 pieces of the class come after it. -/
theorem exists_writtenBy_iff {before after : List String} {c : String} {n : ℕ}
    (hclass : ∀ c' ∈ before ++ List.replicate n c ++ after, ¬ EndsInDigit c') :
    (∃ m name, m < n ∧
      WrittenBy (before ++ List.replicate n c ++ after) name (before.length + m)) ↔
        0 < n ∧ after.count c < 256 := by
  have hrank : ∀ m < n, rank (before ++ List.replicate n c ++ after) (before.length + m) =
      some (c, before.count c + m) := by
    intro m hm
    refine rank_eq_some.2 ⟨?_, ?_⟩
    · rw [List.append_assoc, List.getElem?_append_right (Nat.le_add_right _ _),
        Nat.add_sub_cancel_left, List.getElem?_append_left (by simpa using hm),
        List.getElem?_replicate, if_pos hm]
    · rw [List.append_assoc, List.take_length_add_append, List.count_append,
        List.take_append_of_le_length (by simpa using hm.le), List.take_replicate,
        List.count_replicate_self, Nat.min_eq_left hm.le]
  have htotal : (before ++ List.replicate n c ++ after).count c =
      before.count c + n + after.count c := by
    rw [List.count_append, List.count_append, List.count_replicate_self]
  constructor
  · rintro ⟨m, name, hm, hname, hlast⟩
    refine ⟨by omega, ?_⟩
    by_contra hge
    have hcount : before.count c + m + 256 <
        (before ++ List.replicate n c ++ after).count c := by omega
    obtain ⟨j, hj⟩ := exists_rank hcount
    have hlt := (rank_lt_iff (hrank m hm) hj).2 (by omega)
    apply hlast j hlt
    rw [← hname, submoduleName, submoduleName, hj, hrank m hm]
    simp only [Option.map_some, Nat.add_mod_right]
  · rintro ⟨hn, hafter⟩
    have hm : n - 1 < n := by omega
    refine ⟨n - 1, numbered c ((before.count c + (n - 1)) % 256), hm, ?_, fun j hj hname => ?_⟩
    · rw [submoduleName, hrank _ hm]
      rfl
    · obtain ⟨⟨c', k⟩, hk, heq⟩ := Option.map_eq_some_iff.1 hname
      obtain ⟨rfl, hmod⟩ := numbered_injective
        (hclass _ (List.mem_of_getElem? (rank_eq_some.1 hk).1))
        (hclass _ (List.mem_of_getElem? (rank_eq_some.1 (hrank _ hm)).1)) heq
      have hlow := (rank_lt_iff (hrank _ hm) hk).1 hj
      have hhigh := rank_lt_count hk
      rw [htotal] at hhigh
      dsimp only at hmod
      omega

end Broker

namespace AttestationService

open Broker (TeeClaims Appraisal classes WrittenBy)

/-! ## The classes of a request's claims -/

/-- The class of the claims of a request. -/
def requestClass (S : Service) (request : VerificationRequest) : String :=
  match S.wasmVerifier with
  | some _ => "cpu"
  | none => Native.teeClass request.tee

/-- How many pieces of claims a request gives when its evidence is accepted. -/
def requestCount (S : Service) (request : VerificationRequest) : ℕ :=
  match S.wasmVerifier with
  | some _ => 1
  | none => Native.claimCount S.native request.tee request.evidence

variable {S : Service}

theorem verify_classes {request : VerificationRequest} {reportData initDataHash : Option Bytes}
    {claims : Claims} (h : verify S request reportData initDataHash = .ok claims) :
    claims.map Prod.snd = List.replicate (requestCount S request) (requestClass S request) := by
  unfold requestCount requestClass
  cases hwasm : S.wasmVerifier with
  | some host =>
    simp only [verify, hwasm, evaluateWasm, Outcome.bind_eq_ok, Outcome.pure_eq,
      Outcome.ok.injEq] at h
    obtain ⟨_, -, parsed, -, rfl⟩ := h
    rfl
  | none =>
    simp only [verify, hwasm, evaluateNative, Outcome.bind_eq_ok, Outcome.mapErr_eq_ok] at h
    obtain ⟨verifier, hverifier, hclaims⟩ := h
    exact Native.toVerifier_classes hverifier hclaims

/-- A request gives as many pieces as it counts, all of its class. -/
theorem requestClaims_classes {request : VerificationRequest} {claims : List TeeClaims}
    (h : requestClaims S request = .ok claims) :
    classes claims = List.replicate (requestCount S request) (requestClass S request) := by
  simp only [requestClaims, Outcome.bind_eq_ok, Outcome.pure_eq, Outcome.ok.injEq] at h
  obtain ⟨runtimeData, -, initData, -, verified, hverified, rfl⟩ := h
  rw [← verify_classes hverified, classes, List.map_map]
  rfl

variable (S) in
/-- How many pieces of a class come with requests. -/
def countOf (teeClass : String) (requests : List VerificationRequest) : ℕ :=
  ((requests.filter fun request => requestClass S request = teeClass).map (requestCount S)).sum

theorem count_allClaims {requests : List VerificationRequest} {claims : List TeeClaims}
    (h : allClaims S requests = .ok claims) (teeClass : String) :
    (classes claims).count teeClass = countOf S teeClass requests := by
  induction requests generalizing claims with
  | nil =>
    cases h
    rfl
  | cons request requests ih =>
    simp only [allClaims, Outcome.bind_eq_ok, Outcome.pure_eq, Outcome.ok.injEq] at h
    obtain ⟨first, hfirst, rest, hrest, rfl⟩ := h
    have hclasses : classes (first ++ rest) = classes first ++ classes rest := List.map_append
    rw [hclasses, List.count_append, ih hrest, requestClaims_classes hfirst, List.count_replicate,
      countOf, countOf, List.filter_cons]
    by_cases hclass : requestClass S request = teeClass
    · simp [hclass]
    · simp [hclass]

theorem allClaims_append {before after : List VerificationRequest} {claims : List TeeClaims}
    (h : allClaims S (before ++ after) = .ok claims) :
    ∃ first rest, allClaims S before = .ok first ∧ allClaims S after = .ok rest ∧
      claims = first ++ rest := by
  induction before generalizing claims with
  | nil => exact ⟨[], claims, rfl, h, rfl⟩
  | cons request before ih =>
    simp only [List.cons_append, allClaims, Outcome.bind_eq_ok, Outcome.pure_eq,
      Outcome.ok.injEq] at h
    obtain ⟨head, hhead, tail, htail, rfl⟩ := h
    obtain ⟨first, rest, hfirst, hrest, rfl⟩ := ih htail
    refine ⟨head ++ first, rest, ?_, hrest, (List.append_assoc _ _ _).symm⟩
    simp only [allClaims, hhead, hfirst, Outcome.ok_bind, Outcome.pure_eq]

theorem not_endsInDigit_requestClass (S : Service) (request : VerificationRequest) :
    ¬ EndsInDigit (requestClass S request) := by
  unfold requestClass
  cases S.wasmVerifier with
  | some _ =>
    change ¬ EndsInDigit "cpu"
    decide
  | none => cases request.tee <;> decide

theorem not_endsInDigit_allClaims {requests : List VerificationRequest} {claims : List TeeClaims}
    (h : allClaims S requests = .ok claims) : ∀ c ∈ classes claims, ¬ EndsInDigit c := by
  intro c hc
  obtain ⟨teeClaims, hmem, rfl⟩ := List.mem_map.1 hc
  obtain ⟨request, -, claims', hclaims', hmem'⟩ := mem_allClaims S h hmem
  have hin : teeClaims.teeClass ∈ classes claims' := List.mem_map_of_mem hmem'
  rw [requestClaims_classes hclaims'] at hin
  rw [List.eq_of_mem_replicate hin]
  exact not_endsInDigit_requestClass S request

/-! ## Submodules of a request -/

variable (S) in
/-- A submodule of the token was made of the claims of the request that stands between others: the
piece that the loop wrote it for is one of the request's. -/
def Appraised (policyId : String) (submods : Table String (Appraisal S.tokenBroker.crate))
    (before : List VerificationRequest) (request : VerificationRequest)
    (after : List VerificationRequest) : Prop :=
  ∃ first claims rest, allClaims S before = .ok first ∧ requestClaims S request = .ok claims ∧
    allClaims S after = .ok rest ∧ ∃ (m : ℕ) (teeClaims : TeeClaims) (name : String)
      (appraisal : Appraisal S.tokenBroker.crate),
      claims[m]? = some teeClaims ∧
      WrittenBy (classes (first ++ claims ++ rest)) name (first.length + m) ∧
      submods name = some appraisal ∧
      Broker.appraise S.tokenBroker policyId teeClaims = .ok appraisal

variable (S) in
/-- Each request has a submodule in the token. -/
def EveryAppraised (policyId : String) (submods : Table String (Appraisal S.tokenBroker.crate))
    (requests : List VerificationRequest) : Prop :=
  ∀ before request after, requests = before ++ request :: after →
    Appraised S policyId submods before request after

variable (S) in
/-- Each request gives claims, and fewer than 256 pieces of its class come with later requests. -/
def EveryContributes (requests : List VerificationRequest) : Prop :=
  ∀ before request after, requests = before ++ request :: after →
    0 < requestCount S request ∧ countOf S (requestClass S request) after < 256

/-- A submodule of a request is one that its claims were made into. -/
theorem Appraised.exists_submoduleOf {policyId : String}
    {submods : Table String (Appraisal S.tokenBroker.crate)}
    {before after : List VerificationRequest} {request : VerificationRequest}
    (h : Appraised S policyId submods before request after) :
    ∃ name appraisal, submods name = some appraisal ∧ SubmoduleOf S request appraisal := by
  obtain ⟨_, claims, _, -, hclaims, -, m, teeClaims, name, appraisal, hm, -, hget, happraise⟩ := h
  exact ⟨name, appraisal, hget, claims, hclaims, teeClaims, List.mem_of_getElem? hm,
    Broker.appraise_annotatedEvidence happraise⟩

theorem appraised_iff {policyId : String} {before after : List VerificationRequest}
    {request : VerificationRequest} {all : List TeeClaims}
    {submods : Table String (Appraisal S.tokenBroker.crate)}
    (hall : allClaims S (before ++ request :: after) = .ok all)
    (h : Broker.appraiseAll S.tokenBroker policyId Table.empty Table.empty all = .ok submods) :
    Appraised S policyId submods before request after ↔
      0 < requestCount S request ∧ countOf S (requestClass S request) after < 256 := by
  obtain ⟨first, rest', hfirst, hrest', rfl⟩ := allClaims_append hall
  simp only [allClaims, Outcome.bind_eq_ok, Outcome.pure_eq, Outcome.ok.injEq] at hrest'
  obtain ⟨claims, hclaims, rest, hrest, rfl⟩ := hrest'
  rw [← List.append_assoc] at h hall
  have hclasses : classes (first ++ claims ++ rest) = classes first ++
      List.replicate (requestCount S request) (requestClass S request) ++ classes rest := by
    rw [← requestClaims_classes hclaims, classes, List.map_append, List.map_append]
    rfl
  have hclass := not_endsInDigit_allClaims hall
  rw [hclasses] at hclass
  have hfirstLength : (classes first).length = first.length := List.length_map _
  have hlength : claims.length = requestCount S request := by
    have := congrArg List.length (requestClaims_classes hclaims)
    rwa [classes, List.length_map, List.length_replicate] at this
  rw [← count_allClaims hrest, ← Broker.exists_writtenBy_iff hclass, ← hclasses, hfirstLength]
  constructor
  · rintro ⟨first', claims', rest', hfirst', hclaims', hrest', m, teeClaims, name, _, hm, hwritten,
      -, -⟩
    cases hfirst.symm.trans hfirst'
    cases hclaims.symm.trans hclaims'
    cases hrest.symm.trans hrest'
    exact ⟨m, name, hlength ▸ (List.getElem?_eq_some_iff.1 hm).1, hwritten⟩
  · rintro ⟨m, name, hm, hwritten⟩
    rw [← hlength] at hm
    have hget : (first ++ claims ++ rest)[first.length + m]? = some claims[m] := by
      rw [List.append_assoc, List.getElem?_append_right (Nat.le_add_right _ _),
        Nat.add_sub_cancel_left, List.getElem?_append_left hm, List.getElem?_eq_getElem hm]
    obtain ⟨appraisal, happraise⟩ := Broker.exists_appraise h (List.mem_of_getElem? hget)
    exact ⟨first, claims, rest, hfirst, hclaims, hrest, m, claims[m], name, appraisal,
      List.getElem?_eq_getElem hm, hwritten,
      (Broker.appraiseAll_eq_some h).2 ⟨_, _, hwritten, hget, happraise⟩, happraise⟩

/-- **Each request of a token has a submodule in it exactly when each contributes.** -/
theorem evaluate_appraised {requests : List VerificationRequest} {policyIds : List String}
    {token : String} (h : evaluate S requests policyIds = .ok token) :
    ∃ policyId ear, policyIds.head? = some policyId ∧
      unsignedToken S requests policyIds = .ok ear ∧ S.tokenBroker.sign ear = .ok token ∧
      (EveryAppraised S policyId ear.submods requests ↔ EveryContributes S requests) := by
  rw [evaluate_eq_sign] at h
  obtain ⟨ear, hear, hsign⟩ := Outcome.bind_eq_ok.1 h
  have hparts := hear
  simp only [unsignedToken, Outcome.bind_eq_ok] at hparts
  obtain ⟨_, -, all, hall, hunsigned⟩ := hparts
  obtain ⟨policyId, hpolicy, hloop⟩ := Broker.appraiseAll_of_unsignedEar hunsigned
  refine ⟨policyId, ear, hpolicy, hear, hsign, forall₃_congr fun before request after => ?_⟩
  refine imp_congr_right fun heq => ?_
  subst heq
  exact appraised_iff hall hloop

/-! ## A request that leaves nothing -/

/-- The service with the NVIDIA verifier, too. -/
def exampleNvidiaService : Service := { exampleService with
  native := { exampleService.native with enabled := fun feature => feature = "nvidia-verifier" } }

/-- Evidence with no devices. -/
def nvidiaRequest : VerificationRequest where
  evidence := .object [("device_evidence_list", .array [])]
  tee := .Nvidia
  runtimeData := some (.Structured exampleRuntimeData)
  runtimeDataHashAlgorithm := .Sha384
  initData := none
  verifierComponent := none
  verifierComponentId := none

theorem nvidiaRequest_claims : requestClaims exampleNvidiaService nvidiaRequest = .ok [] := by
  have hverify : verify exampleNvidiaService nvidiaRequest (some exampleDigest) none = .ok [] := rfl
  exact requestClaims_of_verify exampleNvidiaService nvidiaRequest example_parseRuntimeData rfl
    hverify

/-- The claims of a sample TEE with the runtime data. -/
def sampleClaims : TeeClaims where
  tee := .Sample
  teeClass := "cpu"
  claims := .object (Sample.addInitData (Sample.parseTeeEvidence
    ⟨"1", Base64.encode exampleDigest⟩) .notProvided)
  initDataClaims := .null
  runtimeDataClaims := exampleRuntimeData

theorem sampleRequest_claims : requestClaims exampleService
    (sampleRequest exampleDigest (some (.Structured exampleRuntimeData)) none) =
      .ok [sampleClaims] :=
  requestClaims_of_verify exampleService
    (sampleRequest exampleDigest (some (.Structured exampleRuntimeData)) none)
    example_parseRuntimeData rfl
    (sampleRequest_verify exampleDigest (some (.Structured exampleRuntimeData)) none (.inr rfl)
      none)

/-- The verifier of sample evidence is in both services. -/
theorem sampleRequest_claims_nvidia : requestClaims exampleNvidiaService
    (sampleRequest exampleDigest (some (.Structured exampleRuntimeData)) none) =
      .ok [sampleClaims] :=
  requestClaims_of_verify exampleNvidiaService
    (sampleRequest exampleDigest (some (.Structured exampleRuntimeData)) none)
    example_parseRuntimeData rfl (verify_sample rfl rfl rfl (.inr rfl) none)

theorem sampleClaims_token : ∃ ear appraisal,
    Broker.unsignedEar exampleBroker [sampleClaims] ["default"] = .ok ear ∧
      ear.submods "cpu0" = some appraisal := by
  obtain ⟨t, ht, -⟩ := Broker.exists_transformClaims_reportData (B := exampleBroker) .null
    exampleRuntimeData (Sample.get_initData_parseTeeEvidence ⟨"1", Base64.encode exampleDigest⟩)
    (Sample.get_reportData_parseTeeEvidence _) rfl rfl
    (show exampleBroker.toVariantName .Sample = _ from rfl) (by decide)
  obtain ⟨ear, hear, appraisal, hsubmod, -⟩ := example_unsignedToken sampleRequest_claims ht
  refine ⟨ear, appraisal, ?_, hsubmod⟩
  simp only [unsignedToken, allClaims, sampleRequest_claims] at hear
  exact hear

/-- **NVIDIA evidence without devices leaves no submodule** in the token for it and other
evidence. -/
theorem nvidiaRequest_notAppraised : ∃ ear,
    evaluate exampleNvidiaService
        [sampleRequest exampleDigest (some (.Structured exampleRuntimeData)) none, nvidiaRequest]
        ["default"] = .ok "token" ∧
      unsignedToken exampleNvidiaService
        [sampleRequest exampleDigest (some (.Structured exampleRuntimeData)) none, nvidiaRequest]
        ["default"] = .ok ear ∧
      ¬ EveryAppraised exampleNvidiaService "default" ear.submods
        [sampleRequest exampleDigest (some (.Structured exampleRuntimeData)) none,
          nvidiaRequest] := by
  obtain ⟨ear, appraisal, hunsigned, hsubmod⟩ := sampleClaims_token
  have hear : unsignedToken exampleNvidiaService
      [sampleRequest exampleDigest (some (.Structured exampleRuntimeData)) none, nvidiaRequest]
      ["default"] = .ok ear := by
    simp only [unsignedToken, allClaims, sampleRequest_claims_nvidia, nvidiaRequest_claims]
    exact hunsigned
  refine ⟨ear, ?_, hear, fun happraised => ?_⟩
  · rw [evaluate_eq_sign, hear]
    exact example_sign hsubmod
  · obtain ⟨-, -, -, claims, hnone, teeClaims, hmem, -⟩ :=
      (happraised [_] nvidiaRequest [] rfl).exists_submoduleOf
    cases nvidiaRequest_claims.symm.trans hnone
    cases hmem

/-- The request of a sample TEE is appraised. -/
theorem evaluate_appraised_sample :
    ∃ ear, unsignedToken exampleService
        [sampleRequest exampleDigest (some (.Structured exampleRuntimeData)) none] ["default"] =
          .ok ear ∧
      EveryAppraised exampleService "default" ear.submods
        [sampleRequest exampleDigest (some (.Structured exampleRuntimeData)) none] := by
  obtain ⟨ear, appraisal, hunsigned, hsubmod⟩ := sampleClaims_token
  have hear : unsignedToken exampleService
      [sampleRequest exampleDigest (some (.Structured exampleRuntimeData)) none] ["default"] =
        .ok ear := by
    simp only [unsignedToken, allClaims, sampleRequest_claims]
    exact hunsigned
  have htoken : evaluate exampleService
      [sampleRequest exampleDigest (some (.Structured exampleRuntimeData)) none] ["default"] =
        .ok "token" := by
    rw [evaluate_eq_sign, hear]
    exact example_sign hsubmod
  obtain ⟨_, ear', hpolicy, hear', -, hiff⟩ := evaluate_appraised htoken
  cases hpolicy
  cases hear.symm.trans hear'
  refine ⟨ear, hear, hiff.2 fun before request after heq => ?_⟩
  cases before with
  | nil =>
    cases heq
    exact ⟨by decide, by decide⟩
  | cons first before => simp at heq

end AttestationService

end Trustmee
