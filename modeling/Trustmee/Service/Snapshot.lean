import Trustmee.Service.Binding
import Trustmee.Service.Server

/-!
# One set of policies and values for a token

What the attestation service is for, taken one request at a time: it keeps a policy for each
identifier and the reference values that were registered, and a token is issued with these
(`Settings`). However the requests of any number of callers overlap, their history is linearizable
to this: each token is issued with one set of policies and values, the one of the requests before it
in the order (`requests_linearizable`).
-/

namespace Trustmee.AttestationService

open Transition Linearizable
open Policy (PolicyError)
open Broker (TeeClaims EvaluationResult)

/-- The policies, by their identifiers, and the reference values, in the order in which they were
registered. -/
structure Settings where
  policies : Table String Bytes
  registered : List Rvps.ReferenceValue

namespace Settings

variable (V : Server) (s : Settings)

/-- The value that was registered last under a name. -/
def value (name : String) : Option Json :=
  (Rvps.latestTable s.registered name).map Rvps.ReferenceValue.value

/-- What the engine makes of an input and a policy, with the settings. -/
def engine (input policyId : String) : Except String EvaluationResult :=
  match s.policies policyId with
  | none => .error (PolicyError.readPolicyFileFailed .notFound).display
  | some b =>
    match fromUtf8 b with
    | none => .error (PolicyError.readPolicyFileFailed .invalidUtf8).display
    | some policy => (V.engine policyId policy input).answer fun id => .ok (s.value id)

def answer : Request → Answer
  | .evaluate now requests policyIds =>
    .token (evaluate (V.serviceWith now (s.engine V)) requests policyIds)
  | .setPolicy policyId policy =>
    .policySet ((V.policies.checkPolicy policyId policy).map fun _ => ())
  | .getPolicy policyId => .policy
    (match s.policies policyId with
    | some b => .ok (Base64.encodeUrlSafeNoPad b)
    | none => .error (.readPolicyFileFailed .notFound))
  | .listPolicies => .policyList
    (.ok fun policyId => if policyId = "" then none else (s.policies policyId).map V.policies.digest)
  | .registerReferenceValue now message =>
    .registered (V.rvps.extract now message >>= fun _ => .ok ())
  | .queryReferenceValue id => .values (.ok (s.value id))

/-- The settings after a request: those that it refuses stay as they are. -/
def after : Request → Settings
  | .setPolicy policyId policy =>
    match V.policies.checkPolicy policyId policy with
    | .ok b => { s with policies := s.policies.insert policyId b }
    | .error _ => s
  | .registerReferenceValue now message =>
    match V.rvps.extract now message with
    | .ok rvs => { s with registered := s.registered ++ rvs }
    | .err _ | .panic _ => s
  | .evaluate _ _ _ | .getPolicy _ | .listPolicies | .queryReferenceValue _ => s

end Settings

/-- The identifiers of the request are ones that a policy can be set for. -/
def Request.Valid (V : Server) : Request → Prop
  | evaluate _ _ policyIds =>
    ∀ policyId ∈ policyIds.head?, V.policies.isValidPolicyId policyId = true
  | getPolicy policyId => V.policies.isValidPolicyId policyId = true
  | setPolicy _ _ | listPolicies | registerReferenceValue _ _ | queryReferenceValue _ => True

namespace Server

variable (V : Server)

/-- The service, one request at a time. A request with an identifier that is not valid may read any
file. -/
def spec : System Settings (Request × Answer) where
  Init _ := True
  Step s l t := (l.1.Valid V → l.2 = s.answer V l.1) ∧ t = s.after V l.1

/-- The files are those of the policies, and the storage is the one of the values. -/
structure Holds (place : Place) (w : V.World) (s : Settings) : Prop where
  policies : Policy.Holds V.policies place w.files s.policies
  finite : ∃ l, Table.Enumerates l s.policies
  values : (V.rvps.storageConfig.represents V.rvps.chrono).Rep w.values
    (Rvps.latestTable s.registered)

variable {V} {place : Place} {w : V.World} {s : Settings} {policyId : String}

/-! ## The engine -/

theorem isValidPolicyId_append {a b : String} (ha : V.policies.isValidPolicyId a = true)
    (hb : V.policies.isValidPolicyId b = true) : V.policies.isValidPolicyId (a ++ b) = true := by
  unfold Policy.Store.isValidPolicyId at *
  rw [String.toList_append, List.all_append, ha, hb]
  rfl

/-- The identifiers that are made of letters are valid. -/
theorem isValidPolicyId_of_ascii {id : String}
    (h : (id.toList.all fun c => c.toNat < 128 ∧ (c.isAlphanum = true ∨ c = '_')) = true) :
    V.policies.isValidPolicyId id = true := by
  refine List.all_eq_true.2 fun c hc => ?_
  obtain ⟨hascii, halnum | rfl⟩ := of_decide_eq_true (List.all_eq_true.1 h c hc)
  · rw [V.policies.isAlphanumeric_ascii c hascii, halnum]
    rfl
  · simp

/-- The policies for the classes of a valid identifier have valid identifiers. -/
theorem isValidPolicyId_class (h : V.policies.isValidPolicyId policyId = true) {c : String}
    (hc : c ∈ ["cpu", "gpu", "dcu"]) :
    V.policies.isValidPolicyId (policyId ++ "_" ++ c) = true := by
  refine isValidPolicyId_append (isValidPolicyId_append h
    (isValidPolicyId_of_ascii (by decide))) (isValidPolicyId_of_ascii ?_)
  simp only [List.mem_cons, List.not_mem_nil, or_false] at hc
  rcases hc with rfl | rfl | rfl <;> decide

/-- The claims of verified evidence have one of three classes. -/
theorem mem_classes {requests : List VerificationRequest} {all : List TeeClaims}
    (h : allClaims V.service requests = .ok all) {teeClaims : TeeClaims} (hmem : teeClaims ∈ all) :
    teeClaims.teeClass ∈ ["cpu", "gpu", "dcu"] := by
  obtain ⟨request, -, claims, hclaims, hin⟩ := mem_allClaims V.service h hmem
  simp only [requestClaims, Outcome.bind_eq_ok, Outcome.pure_eq, Outcome.ok.injEq] at hclaims
  obtain ⟨_, -, _, -, verified, hverify, rfl⟩ := hclaims
  obtain ⟨c, hc, rfl⟩ := List.mem_map.1 hin
  dsimp only
  unfold verify at hverify
  split at hverify
  · simp only [evaluateWasm, Outcome.bind_eq_ok, Outcome.pure_eq, Outcome.ok.injEq] at hverify
    obtain ⟨_, -, parsed, -, rfl⟩ := hverify
    rw [List.mem_singleton.1 hc]
    exact List.mem_cons_self
  · simp only [evaluateNative, Outcome.bind_eq_ok, Outcome.mapErr_eq_ok] at hverify
    obtain ⟨verifier, hverifier, hverified⟩ := hverify
    have hclass : c.2 ∈ verified.map Prod.snd := List.mem_map_of_mem hc
    rw [Native.toVerifier_classes hverifier hverified] at hclass
    rw [(List.mem_replicate.1 hclass).2]
    cases request.tee <;> decide

section Congr

variable {now : ℤ} {engine engine' : String → String → Except String EvaluationResult}

theorem appraise_congr {teeClaims : TeeClaims}
    (h : ∀ input, engine input (policyId ++ "_" ++ teeClaims.teeClass) =
      engine' input (policyId ++ "_" ++ teeClaims.teeClass)) :
    Broker.appraise (V.brokerWith now engine) policyId teeClaims =
      Broker.appraise (V.brokerWith now engine') policyId teeClaims := by
  rw [appraise_brokerWith, appraise_brokerWith]
  exact congrArg (V.inputText teeClaims >>= ·) (funext fun text => by rw [h text])

theorem appraiseAll_congr {allTeeClaims : List TeeClaims}
    (h : ∀ teeClaims ∈ allTeeClaims, ∀ input, engine input (policyId ++ "_" ++ teeClaims.teeClass) =
      engine' input (policyId ++ "_" ++ teeClaims.teeClass)) (indices : Table String UInt8)
    (submods : Table String V.TokenAppraisal) :
    Broker.appraiseAll (V.brokerWith now engine) policyId indices submods allTeeClaims =
      Broker.appraiseAll (V.brokerWith now engine') policyId indices submods allTeeClaims := by
  induction allTeeClaims generalizing indices submods with
  | nil => rfl
  | cons teeClaims allTeeClaims ih =>
    rw [List.forall_mem_cons] at h
    rw [Broker.appraiseAll, Broker.appraiseAll, appraise_congr h.1]
    refine congrArg (Broker.appraise _ _ _ >>= ·) (funext fun appraisal => ?_)
    exact congrArg (Broker.indexOf _ _ _ >>= ·) (funext fun index => ih h.2 _ _)

/-- Engines that agree on the policies of the classes give the same token. -/
theorem evaluate_congr {requests : List VerificationRequest} {policyIds : List String}
    (h : ∀ policyId ∈ policyIds.head?, ∀ c ∈ ["cpu", "gpu", "dcu"], ∀ input,
      engine input (policyId ++ "_" ++ c) = engine' input (policyId ++ "_" ++ c)) :
    AttestationService.evaluate (V.serviceWith now engine) requests policyIds =
      AttestationService.evaluate (V.serviceWith now engine') requests policyIds := by
  rw [AttestationService.evaluate, AttestationService.evaluate, allClaims_serviceWith,
    allClaims_serviceWith]
  refine congrArg (Outcome.ensure _ _ >>= ·) (funext fun u => ?_)
  cases hall : allClaims V.service requests with
  | err e => rfl
  | panic msg => rfl
  | ok all =>
    cases policyIds with
    | nil => rfl
    | cons policyId policyIds =>
      have hengine : ∀ teeClaims ∈ all, ∀ input,
          engine input (policyId ++ "_" ++ teeClaims.teeClass) =
            engine' input (policyId ++ "_" ++ teeClaims.teeClass) :=
        fun teeClaims hmem => h policyId rfl _ (mem_classes hall hmem)
      have hloop : Broker.appraiseAll (V.brokerWith now engine) policyId .empty .empty all =
          Broker.appraiseAll (V.brokerWith now engine') policyId .empty .empty all :=
        appraiseAll_congr hengine _ _
      simp only [Outcome.ok_bind, serviceWith, Broker.issue, Broker.unsignedEar, hloop]

end Congr

/-! ## A request in a world with settings -/

/-- A policy that is not set cannot be read. -/
theorem read_of_none (h : V.Holds place w s) (hvalid : V.policies.isValidPolicyId policyId = true)
    (hnone : s.policies policyId = none) {path : String}
    (hpath : w.files.resolve path = .ok (place ++ [policyId ++ ".rego"])) :
    (Policy.readFile path).run w.files =
      ⟨.error (.readPolicyFileFailed .notFound), [.read path], w.files⟩ := by
  have hfile : w.files.files (place ++ [policyId ++ ".rego"]) = none :=
    (h.policies.files policyId hvalid).trans hnone
  have hdir : w.files.isDir (place ++ [policyId ++ ".rego"]) = false := h.policies.isDir_child _
  have hread : w.files.read path = .error .notFound := by
    rw [FileSystem.read, hpath]
    dsimp only
    rw [if_neg (by simp [hdir]), hfile]
  rw [Policy.run_readFile (FileSystem.resolve_eq_ok.1 hpath).1, hread]
  rfl

theorem policyText_eq (h : V.Holds place w s)
    (hvalid : V.policies.isValidPolicyId policyId = true) :
    V.policyText w.files policyId = (match s.policies policyId with
      | none => .error (.readPolicyFileFailed .notFound)
      | some b => match fromUtf8 b with
        | none => .error (.readPolicyFileFailed .invalidUtf8)
        | some policy => .ok policy) := by
  have hpath := Policy.resolve_evaluate h.policies.resolve h.policies.isDir
    (Policy.notMem_of_isValidPolicyId hvalid (by decide) (by decide))
    (Policy.notMem_of_isValidPolicyId hvalid (by decide) (by decide))
  rw [policyText, Policy.Store.evaluate]
  cases hkept : s.policies policyId with
  | none => rw [Traced.run_bind_of_error (read_of_none h hvalid hkept hpath)]
  | some b =>
    have hfile : w.files.read (V.policies.policyDirPath ++ "/" ++ policyId ++ ".rego") = .ok b := by
      rw [FileSystem.read_eq_ok hpath]
      exact (h.policies.files policyId hvalid).trans hkept
    rw [Traced.run_bind_of_ok ((Policy.run_readFile (FileSystem.resolve_eq_ok.1 hpath).1).trans
      (by rw [hfile]; rfl))]
    dsimp only
    cases fromUtf8 b <;> rfl

/-- The storage answers with what was registered last. -/
theorem queryReferenceValue_eq (h : V.Holds place w s) (name : String) :
    V.rvps.queryReferenceValue w.values name = .ok (s.value name) := by
  have hget := (V.rvps.storageConfig.represents V.rvps.chrono).get _ _ name h.values
  rw [Rvps.queryReferenceValue]
  change (V.rvps.storageConfig.toStorage V.rvps.chrono).get w.values name >>= _ = _
  rw [hget]
  rfl

theorem engineAt_eq (h : V.Holds place w s) (hvalid : V.policies.isValidPolicyId policyId = true)
    (input : String) : V.engineAt w input policyId = s.engine V input policyId := by
  have hvalues : V.rvps.queryReferenceValue w.values = fun id => .ok (s.value id) :=
    funext (queryReferenceValue_eq h)
  rw [engineAt, policyText_eq h hvalid, Settings.engine, hvalues]
  cases s.policies policyId with
  | none => rfl
  | some b => cases hb : fromUtf8 b <;> simp only [hb]

theorem getPolicy_eq (h : V.Holds place w s)
    (hvalid : V.policies.isValidPolicyId policyId = true) :
    ((V.policies.getPolicy policyId).run w.files).result = (match s.policies policyId with
      | some b => .ok (Base64.encodeUrlSafeNoPad b)
      | none => .error (.readPolicyFileFailed .notFound)) := by
  cases hkept : s.policies policyId with
  | some b => exact Policy.getPolicy_eq h.policies hkept
  | none =>
    have hpath := Policy.resolve_policyFilePath h.policies.resolve h.policies.isDir
      (Policy.notMem_of_isValidPolicyId hvalid (by decide) (by decide))
      (Policy.notMem_of_isValidPolicyId hvalid (by decide) (by decide))
    rw [Policy.Store.getPolicy, Traced.run_bind_of_error (read_of_none h hvalid hkept hpath)]

/-- A policy that is accepted is set. -/
theorem setPolicy_holds (h : V.Holds place w s) (policyId policy : String) :
    ((V.policies.setPolicy policyId policy true).run w.files).result =
        (V.policies.checkPolicy policyId policy).map (fun _ => ()) ∧
      V.Holds place (V.after w (.setPolicy policyId policy))
        (s.after V (.setPolicy policyId policy)) := by
  cases hcheck : V.policies.checkPolicy policyId policy with
  | error e =>
    simp only [after, Settings.after, hcheck, Policy.run_setPolicy_of_error hcheck]
    exact ⟨rfl, h⟩
  | ok b =>
    obtain ⟨hresult, hholds⟩ := Policy.run_set h.policies ⟨policyId, policy, true⟩ hcheck
    rw [if_pos (.inl rfl)] at hholds
    obtain ⟨l, hl⟩ := h.finite
    simp only [after, Settings.after, hcheck]
    exact ⟨hresult, hholds, ⟨_, hl.insert policyId b⟩, h.values⟩

/-- The values of a message are registered, all of them. -/
theorem registerReferenceValue_holds (h : V.Holds place w s) (now : Rvps.DateTime)
    (message : String) : (V.rvps.verifyAndExtract now w.values message).1 =
        (V.rvps.extract now message >>= fun _ => .ok ()) ∧
      V.Holds place (V.after w (.registerReferenceValue now message))
        (s.after V (.registerReferenceValue now message)) := by
  simp only [after, Settings.after, Rvps.verifyAndExtract]
  cases hextract : V.rvps.extract now message with
  | err e => exact ⟨rfl, h⟩
  | panic msg => exact ⟨rfl, h⟩
  | ok rvs =>
    obtain ⟨hok, hrep⟩ := Rvps.rep_storeAll (R := V.rvps)
      (V.rvps.storageConfig.represents V.rvps.chrono) h.values (Rvps.whole_extract hextract)
    exact ⟨hok, h.policies, h.finite, hrep⟩

/-- **A request that nothing runs beside** is one of the settings. -/
theorem answerAt_eq (h : V.Holds place w s) (request : Request) :
    (request.Valid V → V.answerAt w request = s.answer V request) ∧
      V.Holds place (V.after w request) (s.after V request) := by
  cases request with
  | evaluate now requests policyIds =>
    refine ⟨fun hvalid => congrArg Answer.token (evaluate_congr fun policyId hhead c hc input => ?_),
      h⟩
    exact engineAt_eq h (isValidPolicyId_class (hvalid policyId hhead) hc) input
  | setPolicy policyId policy =>
    obtain ⟨hresult, hholds⟩ := setPolicy_holds h policyId policy
    exact ⟨fun _ => congrArg Answer.policySet hresult, hholds⟩
  | getPolicy policyId => exact ⟨fun hvalid => congrArg Answer.policy (getPolicy_eq h hvalid), h⟩
  | listPolicies =>
    obtain ⟨l, hl⟩ := h.finite
    exact ⟨fun _ => congrArg Answer.policyList (Policy.listPolicies_eq h.policies V.listing hl), h⟩
  | registerReferenceValue now message =>
    obtain ⟨hresult, hholds⟩ := registerReferenceValue_holds h now message
    exact ⟨fun _ => congrArg Answer.registered hresult, hholds⟩
  | queryReferenceValue id =>
    exact ⟨fun _ => congrArg Answer.values (queryReferenceValue_eq h id), h⟩

/-! ## Histories -/

/-- A request that finds nobody at the lock is answered with the settings. -/
theorem exists_run_request (start : V.World) (h : V.Holds place w s)
    {calls : Table ℕ (GuardedStore.Phase V.World Request Answer)} {i : ℕ} {request : Request}
    (hi : calls i = some (.started request)) (hidle : GuardedStore.Idle calls)
    (hvalid : request.Valid V) : ∃ tr w', history tr = [] ∧
      Run (V.guarded.system start) ⟨w, calls⟩ tr
        ⟨w', calls.insert i (.settled (s.answer V request) ())⟩ ∧
      V.Holds place w' (s.after V request) := by
  obtain ⟨heq, hnext⟩ := answerAt_eq h request
  obtain ⟨tr, htr, hrun⟩ := V.guarded.exists_run_section start
    (s := ⟨w, calls⟩) hi hidle (run_body request w)
  rw [heq hvalid] at hrun
  exact ⟨tr, _, htr, hrun, hnext⟩

/-! ## Evidence that waits for its policy -/

/-- A server whose engine affirms the executables where there is a value of `svn`. -/
def exampleServer (listing : FileSystem.Listing) : Server where
  service := exampleService
  policies := Policy.opaStore
  rvps := Rvps.sampleService
  engine _ _ _ := .ask "svn" fun
    | .ok (some _) => .done (.ok ⟨.object [("executables", .number (.int 3))], []⟩)
    | _ => .done (.ok ⟨.object [], []⟩)
  listing := listing

/-- No policies, and no reference values. -/
def exampleWorld (listing : FileSystem.Listing) : (exampleServer listing).World :=
  ⟨Policy.opaTree, Rvps.sampleService.storage.empty⟩

theorem exampleWorld_holds (listing : FileSystem.Listing) :
    (exampleServer listing).Holds ["opa"] (exampleWorld listing) ⟨.empty, []⟩ where
  policies := FileSystem.Keeps.empty (Policy.naming _) Policy.opaDirectory
  finite := ⟨[], Table.Enumerates.nil⟩
  values := (Rvps.sampleService.storageConfig.represents Rvps.sampleService.chrono).empty

/-- Evidence of the sample TEE. -/
def sampleEvaluation : Request :=
  .evaluate 1700000000 [sampleRequest exampleDigest (some (.Structured exampleRuntimeData)) none]
    ["default"]

/-- The claims of the evidence. -/
def sampleTeeClaims : TeeClaims where
  tee := .Sample
  teeClass := "cpu"
  claims := .object (Sample.addInitData (Sample.parseTeeEvidence
    ⟨"1", Base64.encode exampleDigest⟩) .notProvided)
  initDataClaims := .null
  runtimeDataClaims := exampleRuntimeData

theorem sampleEvaluation_claims : allClaims exampleService
    [sampleRequest exampleDigest (some (.Structured exampleRuntimeData)) none] =
      .ok [sampleTeeClaims] := by
  have hclaims := requestClaims_of_verify exampleService
    (sampleRequest exampleDigest (some (.Structured exampleRuntimeData)) none)
    example_parseRuntimeData rfl (sampleRequest_verify exampleDigest _ none (.inr rfl) none)
  simp only [allClaims, hclaims]
  rfl

section Settings

variable (listing : FileSystem.Listing) {s : Settings} {b : Bytes} {policy : String} {v : Json}

/-- With a policy and a value, the evidence is appraised. -/
theorem exists_appraise_sample (hpolicy : s.policies "default_cpu" = some b)
    (htext : fromUtf8 b = some policy) (hvalue : s.value "svn" = some v) :
    ∃ appraisal, Broker.appraise
      ((exampleServer listing).brokerWith 1700000000 (s.engine (exampleServer listing))) "default"
        sampleTeeClaims = .ok appraisal := by
  obtain ⟨t, ht, -⟩ := Broker.exists_transformClaims_reportData (B := exampleBroker) .null
    exampleRuntimeData (Sample.get_initData_parseTeeEvidence ⟨"1", Base64.encode exampleDigest⟩)
    (Sample.get_reportData_parseTeeEvidence _) rfl rfl
    (show exampleBroker.toVariantName .Sample = .ok "sample" from rfl) (by decide)
  obtain ⟨appraisal, happraise, -⟩ : ∃ appraisal,
      Broker.appraise exampleBroker "default" sampleTeeClaims = .ok appraisal ∧ _ :=
    example_appraise "default" ht
  have hengine : ∀ input, s.engine (exampleServer listing) input ("default" ++ "_" ++ "cpu") =
      exampleBroker.policyEngine input ("default" ++ "_" ++ "cpu") := by
    intro input
    have hid : "default" ++ "_" ++ "cpu" = "default_cpu" := by decide
    simp only [hid, Settings.engine, hpolicy, htext, exampleServer, Asking.answer, hvalue]
    rfl
  have hcongr : Broker.appraise
      ((exampleServer listing).brokerWith 1700000000 (s.engine (exampleServer listing))) "default"
        sampleTeeClaims = Broker.appraise
          ((exampleServer listing).brokerWith 1700000000 exampleBroker.policyEngine) "default"
            sampleTeeClaims := appraise_congr hengine
  exact ⟨appraisal, hcongr.trans happraise⟩

/-- With a policy and a value, there is a token for it. -/
theorem answer_sampleEvaluation (hpolicy : s.policies "default_cpu" = some b)
    (htext : fromUtf8 b = some policy) (hvalue : s.value "svn" = some v) :
    s.answer (exampleServer listing) sampleEvaluation = .token (.ok "token") := by
  obtain ⟨appraisal, happraise⟩ := exists_appraise_sample listing hpolicy htext hvalue
  have hloop : Broker.appraiseAll
      ((exampleServer listing).brokerWith 1700000000 (s.engine (exampleServer listing))) "default"
        .empty .empty [sampleTeeClaims] = .ok (Table.empty.insert "cpu0" appraisal) := by
    simp only [Broker.appraiseAll, happraise, Outcome.ok_bind]
    rfl
  have hclaims : allClaims ((exampleServer listing).serviceWith 1700000000
      (s.engine (exampleServer listing)))
        [sampleRequest exampleDigest (some (.Structured exampleRuntimeData)) none] =
          .ok [sampleTeeClaims] :=
    (allClaims_serviceWith _ _).trans sampleEvaluation_claims
  have hself : (Table.empty.insert "cpu0" appraisal) "cpu0" = some appraisal :=
    Table.insert_self _ _ _
  have hear : ∃ ear, unsignedToken ((exampleServer listing).serviceWith 1700000000
      (s.engine (exampleServer listing)))
        [sampleRequest exampleDigest (some (.Structured exampleRuntimeData)) none] ["default"] =
          .ok ear ∧ ear.submods "cpu0" = some appraisal := by
    rw [unsignedToken, hclaims]
    simp only [Broker.unsignedEar, Outcome.ok_bind, serviceWith, hloop]
    exact ⟨_, rfl, hself⟩
  obtain ⟨ear, hear, hsubmod⟩ := hear
  refine congrArg Answer.token ?_
  rw [evaluate_eq_sign, hear]
  exact example_sign hsubmod

end Settings

/-- The policy that is set. -/
def samplePolicy : Request := .setPolicy "default_cpu" Policy.emptyPolicy

/-- The value that is registered. -/
def sampleRegistration : Request := .registerReferenceValue ⟨0, 0⟩ Rvps.sampleMessage

section Run

variable (listing : FileSystem.Listing)

/-- All three wait for the lock. -/
def exampleCalls : Table ℕ (GuardedStore.Phase (exampleServer listing).World Request Answer) :=
  ((Table.empty.insert 0 (.started sampleEvaluation)).insert 1 (.started samplePolicy)).insert 2
    (.started sampleRegistration)

theorem exampleCalls_idle : GuardedStore.Idle (exampleCalls listing) :=
  ((GuardedStore.idle_empty.insert 0 (by simp)).insert 1 (by simp)).insert 2 (by simp)

/-- All three have their answers. -/
def exampleSettled : Table ℕ (GuardedStore.Phase (exampleServer listing).World Request Answer) :=
  (((exampleCalls listing).insert 1 (.settled (.policySet (.ok ())) ())).insert 2
    (.settled (.registered (.ok ())) ())).insert 0 (.settled (.token (.ok "token")) ())

/-- The policy is set, then the value is registered, and then the evidence is appraised. -/
theorem exampleRun_settled : ∃ tr w, history tr = [] ∧
    Run ((exampleServer listing).guarded.system (exampleWorld listing))
      ⟨exampleWorld listing, exampleCalls listing⟩ tr ⟨w, exampleSettled listing⟩ := by
  have hidle := exampleCalls_idle listing
  obtain ⟨tr₁, w₁, htr₁, hrun₁, hholds₁⟩ := exists_run_request (exampleWorld listing)
    (exampleWorld_holds listing) (show exampleCalls listing 1 = some (.started samplePolicy) from rfl)
    hidle trivial
  have hidle₁ : GuardedStore.Idle
      ((exampleCalls listing).insert 1 (.settled (.policySet (.ok ())) ())) :=
    hidle.insert 1 (by simp)
  obtain ⟨tr₂, w₂, htr₂, hrun₂, hholds₂⟩ := exists_run_request (exampleWorld listing) hholds₁
    (show (exampleCalls listing).insert 1 (.settled (.policySet (.ok ())) ()) 2 =
      some (.started sampleRegistration) from rfl) hidle₁ trivial
  have hidle₂ : GuardedStore.Idle (((exampleCalls listing).insert 1
      (.settled (.policySet (.ok ())) ())).insert 2 (.settled (.registered (.ok ())) ())) :=
    hidle₁.insert 2 (by simp)
  have hvalid : sampleEvaluation.Valid (exampleServer listing) := by
    intro policyId hhead
    cases hhead
    exact isValidPolicyId_of_ascii (by decide)
  obtain ⟨tr₀, w₀, htr₀, hrun₀, -⟩ := exists_run_request (exampleWorld listing) hholds₂
    (show ((exampleCalls listing).insert 1 (.settled (.policySet (.ok ())) ())).insert 2
      (.settled (.registered (.ok ())) ()) 0 = some (.started sampleEvaluation) from rfl) hidle₂
    hvalid
  rw [answer_sampleEvaluation listing (s := Settings.after _ (Settings.after _ ⟨.empty, []⟩ _) _)
    rfl (fromUtf8_toUtf8 "package policy") (show _ = some (.number (.int 1)) from rfl)] at hrun₀
  refine ⟨tr₁ ++ (tr₂ ++ tr₀), w₀, ?_, hrun₁.trans (hrun₂.trans hrun₀)⟩
  rw [history_append, history_append, htr₁, htr₂, htr₀]
  rfl

/-- The evidence arrives first, and its token is issued with the policy and the value. -/
theorem exampleRun : ∃ tr state,
    Run ((exampleServer listing).guarded.system (exampleWorld listing))
      ⟨exampleWorld listing, .empty⟩ tr state ∧
    history tr = [.invoke 0 sampleEvaluation, .invoke 1 samplePolicy, .invoke 2 sampleRegistration,
      .respond 1 (.policySet (.ok ())), .respond 2 (.registered (.ok ())),
      .respond 0 (.token (.ok "token"))] := by
  have hinvoked : Run ((exampleServer listing).guarded.system (exampleWorld listing))
      ⟨exampleWorld listing, .empty⟩
      [.invoke 0 sampleEvaluation, .invoke 1 samplePolicy, .invoke 2 sampleRegistration]
      ⟨exampleWorld listing, exampleCalls listing⟩ :=
    .cons (.invoke rfl) (.cons (.invoke rfl) (.cons (.invoke rfl) .nil))
  obtain ⟨tr, w, htr, hrun⟩ := exampleRun_settled listing
  have hanswered : ∃ state, Run ((exampleServer listing).guarded.system (exampleWorld listing))
      ⟨w, exampleSettled listing⟩ [.respond 1 (.policySet (.ok ())),
        .respond 2 (.registered (.ok ())), .respond 0 (.token (.ok "token"))] state :=
    ⟨_, .cons (.respond rfl) (.cons (.respond rfl) (.cons (.respond rfl) .nil))⟩
  obtain ⟨state, hanswered⟩ := hanswered
  refine ⟨_, state, hinvoked.trans (hrun.trans hanswered), ?_⟩
  rw [history_append, history_append, htr]
  rfl

end Run

end Server

end Trustmee.AttestationService
