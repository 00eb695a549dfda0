import Trustmee.Foundations.ReadersWriter
import Trustmee.Policy.StoreMap
import Trustmee.Rvps.Service
import Trustmee.Service.Evaluate

/-!
# The attestation service behind its lock

The front ends share one `AttestationService` behind a readers-writer lock. A policy is set and
reference values are registered under the guard for writing; evidence is evaluated, and policies and
values are asked for, under the one for reading. An evaluation reads the file of a policy for each
piece of evidence, and asks for reference values while the policy is evaluated, so that it takes many
steps; so do a listing and a registration. Run alone, the program of a request does what the pure
service does with the policies and the values that it finds (`run_body`).
-/

namespace Trustmee

namespace Policy

/-- The text of an error. -/
def PolicyError.display : PolicyError → String
  | readPolicyFileFailed source =>
    "Failed to read attestation service policy file: " ++ source.display
  | writePolicyFileFailed source =>
    "Failed to write attestation service policy to file: " ++ source.display
  | ioError source => "IO error: " ++ source.display
  | base64DecodeFailed source =>
    "Base64 decode attestation service policy string failed: " ++ source
  | invalidPolicyId => "Illegal policy id. Only support alphabet, numeric, `-` or `_`"
  | invalidPolicy source => "Illegal policy: " ++ source
  | loadPolicyFailed source => "Failed to load policy: " ++ source

end Policy

namespace AttestationService

open Policy (PolicyError)
open Broker (TeeClaims Appraisal EvaluationResult)

/-- The service, the directory of its policies and the provider of reference values that is built
in. -/
structure Server where
  service : Service
  policies : Policy.Store
  rvps : Rvps
  /-- What `regorus` makes of the policy of an identifier and of an input, with the reference values
  that it asks for. -/
  engine : String → String → String →
    Asking String (Outcome (Option Json)) (Except String EvaluationResult)
  /-- The order in which a directory is listed. -/
  listing : FileSystem.Listing

/-- A request of a front end. A token is issued at a time, and reference values are registered at
one. -/
inductive Request
  | evaluate (now : ℤ) (requests : List VerificationRequest) (policyIds : List String)
  | setPolicy (policyId policy : String)
  | getPolicy (policyId : String)
  | listPolicies
  | registerReferenceValue (now : Rvps.DateTime) (message : String)
  | queryReferenceValue (referenceValueId : String)

/-- The answer to a request. -/
inductive Answer
  | token (result : Outcome String)
  | policySet (result : Except PolicyError Unit)
  | policy (result : Except PolicyError String)
  | policyList (result : Except PolicyError (Table String String))
  | registered (result : Outcome Unit)
  | values (result : Outcome (Option Json))

/-- The request takes the guard for writing. -/
def Request.writes : Request → Bool
  | setPolicy _ _ | registerReferenceValue _ _ => true
  | evaluate _ _ _ | getPolicy _ | listPolicies | queryReferenceValue _ => false

namespace Server

variable (V : Server)

/-- What is behind the lock: the files, and the storage of the reference values. -/
structure World where
  files : FileSystem
  values : V.rvps.storage.State

abbrev TokenAppraisal : Type := Appraisal V.service.tokenBroker.crate

/-- The broker of the service at a time, with what an engine makes of an input and a policy. -/
abbrev brokerWith (now : ℤ) (engine : String → String → Except String EvaluationResult) :
    Broker.Env :=
  { V.service.tokenBroker with
    policyEngine := engine
    now := now }

/-- The service at a time, with an engine. -/
def serviceWith (now : ℤ) (engine : String → String → Except String EvaluationResult) : Service :=
  { V.service with tokenBroker := V.brokerWith now engine }

/-! ## Programs -/

/-- The text of a policy. -/
def policyText (files : FileSystem) (policyId : String) : Except PolicyError String :=
  ((V.policies.evaluate (fun _ policy => .ok policy) policyId).run files).result

/-- `OPA::evaluate`. -/
def evaluatePolicy (input policyId : String) : Program V.World (Except String EvaluationResult) :=
  Program.read (fun w => V.policyText w.files policyId) >>= fun
    | .error e => .done (.error e.display)
    | .ok policy => (V.engine policyId policy input).program fun id w =>
      V.rvps.queryReferenceValue w.values id

/-- The engine's input for a piece of evidence. -/
def inputText (teeClaims : TeeClaims) : Outcome String := do
  let tcbClaims ← Broker.transformClaims V.service.tokenBroker teeClaims.claims
    teeClaims.initDataClaims teeClaims.runtimeDataClaims teeClaims.tee
  Outcome.ofExcept (V.service.tokenBroker.crate.toString tcbClaims)

/-- The appraisal of a piece of evidence, which goes on from the policy's results. -/
def appraise (now : ℤ) (policyId : String) (teeClaims : TeeClaims) :
    Program V.World (Outcome V.TokenAppraisal) :=
  (Program.done (V.inputText teeClaims)).attempt fun text =>
    V.evaluatePolicy text (policyId ++ "_" ++ teeClaims.teeClass) >>= fun results =>
      .done (Broker.appraise (V.brokerWith now fun _ _ => results) policyId teeClaims)

/-- The loop of `issue`. -/
def appraiseAll (now : ℤ) (policyId : String) : Table String UInt8 → Table String V.TokenAppraisal →
    List TeeClaims → Program V.World (Outcome (Table String V.TokenAppraisal))
  | _, submods, [] => .done (.ok submods)
  | indices, submods, teeClaims :: allTeeClaims =>
    (V.appraise now policyId teeClaims).attempt fun appraisal =>
      (Program.done (Broker.indexOf V.service.tokenBroker indices teeClaims.teeClass)).attempt
        fun index => appraiseAll now policyId (indices.insert teeClaims.teeClass index)
          (submods.insert (teeClaims.teeClass ++ ToString.toString index.toNat) appraisal)
          allTeeClaims

/-- The token with the submodules. -/
def signed (now : ℤ) (submods : Table String V.TokenAppraisal) : Outcome String := do
  let B := V.service.tokenBroker
  let exp ← Outcome.okOr (B.checkedAdd now B.durationMin) "Token expiration overflow."
  let extensions ← Outcome.ofExcept
    (B.crate.register B.crate.newExtensions "exp" 4 (B.crate.kind (B.crate.integer exp)))
  let extensions ← Outcome.ofExcept (B.crate.setExtension extensions "exp" (B.crate.integer exp))
  B.sign {
    profile := B.profileName
    iat := now
    build := B.buildName
    developer := B.developerName
    submods := submods
    extensions := extensions }

/-- `EarAttestationTokenBroker::issue`. -/
def issue (now : ℤ) (allTeeClaims : List TeeClaims) (policyIds : List String) :
    Program V.World (Outcome String) :=
  match policyIds with
  | [] => .done (.bail "No policy is given for EAR token generation.")
  | policyId :: _ => (V.appraiseAll now policyId .empty .empty allTeeClaims).attempt fun submods =>
    .done (V.signed now submods)

/-- The claims of the requests' evidence, which is verified before a policy is read. -/
def verified (requests : List VerificationRequest) : Outcome (List TeeClaims) := do
  Outcome.ensure (requests ≠ []) "No verification requests provided."
  allClaims V.service requests

/-- `AttestationService::evaluate`. -/
def evaluate (now : ℤ) (requests : List VerificationRequest) (policyIds : List String) :
    Program V.World (Outcome String) :=
  (Program.done (V.verified requests)).attempt fun teeClaims => V.issue now teeClaims policyIds

/-- `File::create`. -/
def createFile (path : String) : Program V.World (Except IoError Place) :=
  Program.act fun w =>
    match w.files.create path with
    | .ok (file, files) => (.ok file, { w with files := files })
    | .error e => (.error e, w)

/-- `OPA::set_policy`, which overwrites: the file is made empty, and then the policy is put into
it. -/
def setPolicy (policyId policy : String) : Program V.World (Except PolicyError Unit) :=
  match V.policies.checkPolicy policyId policy with
  | .error e => .done (.error e)
  | .ok policyBytes => V.createFile (V.policies.policyFilePath policyId) >>= fun
    | .error e => .done (.error (.writePolicyFileFailed e))
    | .ok file => Program.act fun w =>
      (.ok (), { w with files := w.files.writeAll file policyBytes })

/-- `OPA::get_policy`. -/
def getPolicy (policyId : String) : Program V.World (Except PolicyError String) :=
  Program.read fun w => ((V.policies.getPolicy policyId).run w.files).result

/-- The loop of `OPA::list_policies`. -/
def digestAll : List String → Table String String →
    Program V.World (Except PolicyError (Table String String))
  | [], policyList => .done (.ok policyList)
  | id :: ids, policyList =>
    Program.read (fun w => w.files.read (V.policies.policyFilePath id)) >>= fun
      | .error e => .done (.error (.readPolicyFileFailed e))
      | .ok policy => digestAll ids (policyList.insert id (V.policies.digest policy))

/-- `OPA::list_policies`. -/
def listPolicies : Program V.World (Except PolicyError (Table String String)) :=
  Program.read (fun w => w.files.readDir V.listing V.policies.policyDirPath) >>= fun
    | .error e => .done (.error (.ioError e))
    | .ok names => V.digestAll (Policy.Store.policyIds names) .empty

/-- The loop of `Rvps::verify_and_extract`. -/
def storeAll : List Rvps.ReferenceValue → Program V.World (Outcome Unit)
  | [] => .done (.ok ())
  | v :: rv => (Program.act fun w : V.World =>
      ((V.rvps.storage.set w.values v.name v).1,
        { w with values := (V.rvps.storage.set w.values v.name v).2 })).attempt fun _ =>
      storeAll rv

/-- `Rvps::verify_and_extract`. -/
def registerReferenceValue (now : Rvps.DateTime) (message : String) :
    Program V.World (Outcome Unit) :=
  (Program.done (V.rvps.extract now message)).attempt V.storeAll

/-- The program of a request. -/
def body : Request → Program V.World Answer
  | .evaluate now requests policyIds =>
    V.evaluate now requests policyIds >>= fun result => .done (.token result)
  | .setPolicy policyId policy =>
    V.setPolicy policyId policy >>= fun result => .done (.policySet result)
  | .getPolicy policyId => V.getPolicy policyId >>= fun result => .done (.policy result)
  | .listPolicies => V.listPolicies >>= fun result => .done (.policyList result)
  | .registerReferenceValue now message =>
    V.registerReferenceValue now message >>= fun result => .done (.registered result)
  | .queryReferenceValue id =>
    Program.read fun w => .values (V.rvps.queryReferenceValue w.values id)

/-! ## What a request does alone -/

/-- What the engine makes of an input and a policy, in a world. -/
def engineAt (w : V.World) (input policyId : String) : Except String EvaluationResult :=
  match V.policyText w.files policyId with
  | .error e => .error e.display
  | .ok policy => (V.engine policyId policy input).answer (V.rvps.queryReferenceValue w.values)

/-- The answer to a request that nothing runs beside. -/
def answerAt (w : V.World) : Request → Answer
  | .evaluate now requests policyIds =>
    .token (AttestationService.evaluate (V.serviceWith now (V.engineAt w)) requests policyIds)
  | .setPolicy policyId policy =>
    .policySet ((V.policies.setPolicy policyId policy true).run w.files).result
  | .getPolicy policyId => .policy ((V.policies.getPolicy policyId).run w.files).result
  | .listPolicies => .policyList (V.policies.listPolicies V.listing w.files)
  | .registerReferenceValue now message =>
    .registered (V.rvps.verifyAndExtract now w.values message).1
  | .queryReferenceValue id => .values (V.rvps.queryReferenceValue w.values id)

/-- The world after a request that nothing runs beside. -/
def after (w : V.World) : Request → V.World
  | .setPolicy policyId policy =>
    { w with files := ((V.policies.setPolicy policyId policy true).run w.files).state }
  | .registerReferenceValue now message =>
    { w with values := (V.rvps.verifyAndExtract now w.values message).2 }
  | .evaluate _ _ _ | .getPolicy _ | .listPolicies | .queryReferenceValue _ => w

/-! ## Programs run alone -/

variable {V} {now : ℤ}

theorem reads_evaluatePolicy (input policyId : String) : (V.evaluatePolicy input policyId).Reads := by
  refine (Program.reads_read _).bind fun policy => ?_
  cases policy with
  | error e => exact .done _
  | ok policy => exact Asking.reads_program _ _

theorem run_evaluatePolicy (input policyId : String) (w : V.World) :
    ((V.evaluatePolicy input policyId).run w).1 = V.engineAt w input policyId := by
  rw [evaluatePolicy, Program.run_bind, Program.run_read, engineAt]
  cases V.policyText w.files policyId with
  | error e => rfl
  | ok policy =>
    dsimp only
    rw [Asking.run_program]

theorem reads_appraise (policyId : String) (teeClaims : TeeClaims) :
    (V.appraise now policyId teeClaims).Reads :=
  (Program.Reads.done _).attempt fun _ => (reads_evaluatePolicy _ _).bind fun _ => .done _

section Engine

variable (engine : String → String → Except String EvaluationResult)

theorem setTrustClaims_brokerWith (vector : V.service.tokenBroker.crate.TrustVector)
    (claims : List (String × Json)) : Broker.setTrustClaims (V.brokerWith now engine) vector claims =
      Broker.setTrustClaims V.service.tokenBroker vector claims := by
  induction claims generalizing vector with
  | nil => rfl
  | cons claim claims ih => simp only [Broker.setTrustClaims, ih]

theorem setExtensions_brokerWith (extensions : V.service.tokenBroker.crate.Extensions)
    (claims : List Broker.Extension) :
    Broker.setExtensions (V.brokerWith now engine) extensions claims =
      Broker.setExtensions V.service.tokenBroker extensions claims := by
  induction claims generalizing extensions with
  | nil => rfl
  | cons claim claims ih => simp only [Broker.setExtensions, ih]

/-- An appraisal looks at the engine at one input and one policy. -/
theorem appraise_brokerWith (policyId : String) (teeClaims : TeeClaims) :
    Broker.appraise (V.brokerWith now engine) policyId teeClaims =
      V.inputText teeClaims >>= fun text => Broker.appraise (V.brokerWith now fun _ _ =>
        engine text (policyId ++ "_" ++ teeClaims.teeClass)) policyId teeClaims := by
  have htransform : ∀ engine, Broker.transformClaims (V.brokerWith now engine) teeClaims.claims
      teeClaims.initDataClaims teeClaims.runtimeDataClaims teeClaims.tee =
        Broker.transformClaims V.service.tokenBroker teeClaims.claims teeClaims.initDataClaims
          teeClaims.runtimeDataClaims teeClaims.tee := fun _ => rfl
  simp only [Broker.appraise, inputText, htransform, setTrustClaims_brokerWith,
    setExtensions_brokerWith]
  cases Broker.transformClaims V.service.tokenBroker teeClaims.claims
      teeClaims.initDataClaims teeClaims.runtimeDataClaims teeClaims.tee with
  | err e => rfl
  | panic msg => rfl
  | ok tcbClaims =>
    simp only [Outcome.ok_bind]
    cases V.service.tokenBroker.crate.toString tcbClaims <;> rfl

end Engine

theorem run_appraise (policyId : String) (teeClaims : TeeClaims) (w : V.World) :
    ((V.appraise now policyId teeClaims).run w).1 =
      Broker.appraise (V.brokerWith now (V.engineAt w)) policyId teeClaims := by
  rw [appraise, (Program.Reads.done _).run_attempt, Program.run_done, appraise_brokerWith]
  refine congrArg (V.inputText teeClaims >>= ·) (funext fun text => ?_)
  rw [Program.run_bind, run_evaluatePolicy, Program.run_done]

theorem reads_appraiseAll (policyId : String) (indices : Table String UInt8)
    (submods : Table String V.TokenAppraisal) (allTeeClaims : List TeeClaims) :
    (V.appraiseAll now policyId indices submods allTeeClaims).Reads := by
  induction allTeeClaims generalizing indices submods with
  | nil => exact .done _
  | cons teeClaims allTeeClaims ih =>
    exact (reads_appraise _ _).attempt fun _ => (Program.Reads.done _).attempt fun _ => ih _ _

theorem run_appraiseAll (policyId : String) (indices : Table String UInt8)
    (submods : Table String V.TokenAppraisal) (allTeeClaims : List TeeClaims) (w : V.World) :
    ((V.appraiseAll now policyId indices submods allTeeClaims).run w).1 =
      Broker.appraiseAll (V.brokerWith now (V.engineAt w)) policyId indices submods allTeeClaims := by
  induction allTeeClaims generalizing indices submods with
  | nil => rfl
  | cons teeClaims allTeeClaims ih =>
    rw [appraiseAll, (reads_appraise _ _).run_attempt, run_appraise, Broker.appraiseAll]
    refine congrArg (Broker.appraise _ _ _ >>= ·) (funext fun appraisal => ?_)
    rw [(Program.Reads.done _).run_attempt, Program.run_done]
    exact congrArg (Broker.indexOf _ _ _ >>= ·) (funext fun index => ih _ _)

theorem run_issue (allTeeClaims : List TeeClaims) (policyIds : List String) (w : V.World) :
    (V.issue now allTeeClaims policyIds).run w =
      (Broker.issue (V.brokerWith now (V.engineAt w)) allTeeClaims policyIds, w) := by
  cases policyIds with
  | nil => rfl
  | cons policyId policyIds =>
    have hreads : (V.issue now allTeeClaims (policyId :: policyIds)).Reads :=
      (reads_appraiseAll _ _ _ _).attempt fun _ => .done _
    rw [hreads.run_eq, issue, (reads_appraiseAll _ _ _ _).run_attempt, run_appraiseAll]
    refine congrArg (·, w) ?_
    simp only [Broker.issue, Broker.unsignedEar, Outcome.bind_assoc]
    refine congrArg (Broker.appraiseAll _ _ _ _ _ >>= ·) (funext fun submods => ?_)
    simp only [Program.run_done, signed, Outcome.pure_eq, Outcome.ok_bind]

theorem allClaims_serviceWith (engine : String → String → Except String EvaluationResult)
    (requests : List VerificationRequest) :
    allClaims (V.serviceWith now engine) requests = allClaims V.service requests := by
  induction requests with
  | nil => rfl
  | cons request requests ih =>
    rw [allClaims, allClaims, ih]
    rfl

theorem run_evaluate (requests : List VerificationRequest) (policyIds : List String) (w : V.World) :
    (V.evaluate now requests policyIds).run w =
      (AttestationService.evaluate (V.serviceWith now (V.engineAt w)) requests policyIds, w) := by
  rw [evaluate, Program.attempt, Program.run_bind, Program.run_done, AttestationService.evaluate,
    verified]
  simp only [allClaims_serviceWith]
  cases Outcome.ensure (requests ≠ []) "No verification requests provided." with
  | err e => rfl
  | panic msg => rfl
  | ok u =>
    simp only [Outcome.ok_bind]
    cases allClaims V.service requests with
    | err e => rfl
    | panic msg => rfl
    | ok teeClaims => exact run_issue teeClaims policyIds w

/-- A file that is created and then written has what `fs::write` gives it. -/
theorem writeAll_create {fs files : FileSystem} {path : String} {file : Place} (b : Bytes)
    (h : fs.create path = .ok (file, files)) : fs.write path b = .ok (files.writeAll file b) := by
  unfold FileSystem.create at h
  unfold FileSystem.write
  cases hresolve : fs.resolve path with
  | error e =>
    rw [hresolve] at h
    cases h
  | ok p =>
    rw [hresolve] at h
    dsimp only at h ⊢
    by_cases hdir : fs.isDir p = false
    · rw [dif_pos hdir] at h ⊢
      cases h
      rw [FileSystem.writeAll, dif_pos (by exact hdir)]
      refine congrArg Except.ok ?_
      simp only [FileSystem.put, Table.insert_insert]
    · rw [dif_neg hdir] at h
      cases h

/-- Where a file cannot be created, `fs::write` fails in the same way. -/
theorem write_of_create {fs : FileSystem} {path : String} {e : IoError} (b : Bytes)
    (h : fs.create path = .error e) : fs.write path b = .error e := by
  unfold FileSystem.create at h
  unfold FileSystem.write
  cases hresolve : fs.resolve path with
  | error e =>
    rw [hresolve] at h
    cases h
    rfl
  | ok p =>
    rw [hresolve] at h
    dsimp only at h ⊢
    by_cases hdir : fs.isDir p = false
    · rw [dif_pos hdir] at h
      cases h
    · rw [dif_neg hdir] at h ⊢
      cases h
      rfl

/-- A policy file that cannot be written. -/
theorem run_writeFile_of_error {fs : FileSystem} {path : String} {b : Bytes} {e : IoError}
    (h : fs.write path b = .error e) : ((Policy.writeFile path b).run fs).result =
      .error (.writePolicyFileFailed e) ∧ ((Policy.writeFile path b).run fs).state = fs := by
  unfold Traced.run Policy.writeFile Policy.callFile
  by_cases hnul : Char.ofNat 0 ∈ path.toList
  · rw [FileSystem.write, FileSystem.resolve, if_pos hnul] at h
    cases h
    rw [Policy.FileCall.path, if_pos hnul]
    exact ⟨rfl, rfl⟩
  · rw [Policy.FileCall.path, if_neg hnul]
    simp only [h]
    exact ⟨rfl, trivial⟩

theorem run_setPolicy (policyId policy : String) (w : V.World) :
    (V.setPolicy policyId policy).run w =
      (((V.policies.setPolicy policyId policy true).run w.files).result,
        { w with files := ((V.policies.setPolicy policyId policy true).run w.files).state }) := by
  cases hcheck : V.policies.checkPolicy policyId policy with
  | error e =>
    rw [Policy.run_setPolicy_of_error hcheck]
    simp only [setPolicy, hcheck, Program.run_done]
  | ok b =>
    have hlift : (Traced.lift (V.policies.checkPolicy policyId policy) :
        Policy.StoreM Bytes).run w.files = ⟨.ok b, [], w.files⟩ := by rw [hcheck, Traced.run_lift]
    have hset : (V.policies.setPolicy policyId policy true).run w.files = _ :=
      Traced.run_bind_of_ok hlift
    simp only [setPolicy, hcheck]
    rw [hset, if_pos rfl, Program.run_bind, createFile, Program.run_act]
    cases hcreate : w.files.create (V.policies.policyFilePath policyId) with
    | error e =>
      obtain ⟨hresult, hstate⟩ := run_writeFile_of_error (write_of_create b hcreate)
      rw [hresult, hstate]
      rfl
    | ok created =>
      rw [Policy.run_writeFile (writeAll_create b hcreate)]
      rfl

theorem reads_digestAll (ids : List String) (policyList : Table String String) :
    (V.digestAll ids policyList).Reads := by
  induction ids generalizing policyList with
  | nil => exact .done _
  | cons id ids ih =>
    refine (Program.reads_read _).bind fun policy => ?_
    cases policy with
    | error e => exact .done _
    | ok policy => exact ih _

theorem run_digestAll (ids : List String) (policyList : Table String String) (w : V.World) :
    ((V.digestAll ids policyList).run w).1 = V.policies.digestAll w.files ids policyList := by
  induction ids generalizing policyList with
  | nil => rfl
  | cons id ids ih =>
    rw [digestAll, Program.run_bind, Program.run_read, Policy.Store.digestAll]
    cases w.files.read (V.policies.policyFilePath id) with
    | error e => rfl
    | ok policy => exact ih _

theorem reads_listPolicies : V.listPolicies.Reads := by
  refine (Program.reads_read _).bind fun names => ?_
  cases names with
  | error e => exact .done _
  | ok names => exact reads_digestAll _ _

theorem run_listPolicies (w : V.World) :
    (V.listPolicies.run w).1 = V.policies.listPolicies V.listing w.files := by
  rw [listPolicies, Program.run_bind, Program.run_read, Policy.Store.listPolicies]
  cases w.files.readDir V.listing V.policies.policyDirPath with
  | error e => rfl
  | ok names => exact run_digestAll _ _ w

theorem run_storeAll (rv : List Rvps.ReferenceValue) (w : V.World) :
    (V.storeAll rv).run w =
      ((V.rvps.storeAll w.values rv).1, { w with values := (V.rvps.storeAll w.values rv).2 }) := by
  induction rv generalizing w with
  | nil => rfl
  | cons v rv ih =>
    rw [storeAll, Program.attempt, Program.run_bind, Program.run_act, Rvps.storeAll]
    cases hset : V.rvps.storage.set w.values v.name v with
    | mk result values =>
      cases result with
      | err e => rfl
      | panic msg => rfl
      | ok previous => exact ih _

theorem run_registerReferenceValue (now : Rvps.DateTime) (message : String) (w : V.World) :
    (V.registerReferenceValue now message).run w =
      ((V.rvps.verifyAndExtract now w.values message).1,
        { w with values := (V.rvps.verifyAndExtract now w.values message).2 }) := by
  rw [registerReferenceValue, Program.attempt, Program.run_bind, Program.run_done,
    Rvps.verifyAndExtract]
  cases V.rvps.extract now message with
  | err e => rfl
  | panic msg => rfl
  | ok rv => exact run_storeAll rv w

theorem reads_issue (allTeeClaims : List TeeClaims) (policyIds : List String) :
    (V.issue now allTeeClaims policyIds).Reads := by
  cases policyIds with
  | nil => exact .done _
  | cons policyId policyIds => exact (reads_appraiseAll _ _ _ _).attempt fun _ => .done _

/-- A request that takes the guard for reading only reads. -/
theorem reads_body {request : Request} (h : request.writes = false) : (V.body request).Reads := by
  cases request with
  | setPolicy policyId policy => cases h
  | registerReferenceValue now message => cases h
  | evaluate requests policyIds =>
    exact ((Program.Reads.done _).attempt fun _ => reads_issue _ _).bind fun _ => .done _
  | getPolicy policyId => exact (Program.reads_read _).bind fun _ => .done _
  | listPolicies => exact reads_listPolicies.bind fun _ => .done _
  | queryReferenceValue id => exact Program.reads_read _

/-- **Run alone, a request does what the pure service does.** -/
theorem run_body (request : Request) (w : V.World) :
    (V.body request).run w = (V.answerAt w request, V.after w request) := by
  cases request with
  | evaluate requests policyIds => rw [body, Program.run_bind, run_evaluate]; rfl
  | setPolicy policyId policy => rw [body, Program.run_bind, run_setPolicy]; rfl
  | getPolicy policyId => rfl
  | listPolicies =>
    rw [body, Program.run_bind, reads_listPolicies.run_eq, run_listPolicies]
    rfl
  | registerReferenceValue now message =>
    rw [body, Program.run_bind, run_registerReferenceValue]
    rfl
  | queryReferenceValue id => rfl

/-- The service behind its lock. -/
def guarded (V : Server) : GuardedStore V.World Request Answer where
  writes := Request.writes
  body := V.body
  reads _ := reads_body

end Server

end AttestationService

end Trustmee
