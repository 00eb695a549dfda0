import Trustmee.Foundations.Directories
import Trustmee.Foundations.JsonPointer
import Trustmee.Foundations.JsonText
import Trustmee.Kbs.Admin
import Trustmee.Kbs.LocalFs

/-!
# The resource policy

The policy that decides on tokens is the content of one file. It is read anew for every decision, so
what decides is what the file holds at that time (`evaluate_of_file`), and it is replaced only by a
text that `regorus` takes as a policy (`setPolicy_spec`). Where there is no file at the start, it is
made, with the policy that the KBS brings along.
-/

namespace Trustmee.Kbs

open FileSystem (Grows)

/-- The members of `KbsPolicyEngineError` that the engine gives. -/
inductive KbsPolicyEngineError
  | EvaluationError (source : String)
  | DataLoadError
  | IOError (source : IoError)
  | DecodeError (source : String)
  | InputError
  | PolicyLoadError
  | IllegalSetPolicyRequest (what : String)
  | InvalidPolicy (source : String)

/-- `Display`. -/
def KbsPolicyEngineError.display : KbsPolicyEngineError → String
  | EvaluationError source => "Failed to evaluate policy " ++ source
  | DataLoadError => "Failed to load data for policy"
  | IOError source => "Policy IO Error: " ++ source.display
  | DecodeError source => "Decoding (base64) policy failed: " ++ source
  | InputError => "Failed to load input for policy"
  | PolicyLoadError => "Failed to load policy"
  | IllegalSetPolicyRequest what => "Set Policy request is illegal for " ++ what
  | InvalidPolicy source => "Failed to set policy, illegal policy: " ++ source

/-- `regorus`, as far as the resource policy uses it. -/
structure Regorus where
  /-- What `add_policy` makes of a text. -/
  Policy : Type
  addPolicy : String → Except String Policy
  /-- `Value::from_json_str`. -/
  fromJsonStr : String → Except String Json
  /-- `add_data` refuses what is no object. -/
  addData : Json → Except String Json
  /-- `set_input_json`. -/
  setInputJson : String → Except String Json
  /-- `eval_bool_query` of `data.policy.allow`, of a policy, data and an input. -/
  evalAllow : Policy → Json → Json → Except String Bool

/-- The result of a call of the policy engine. -/
def ofEngine {α : Type} (x : Except KbsPolicyEngineError α) : Outcome α :=
  .ofExcept (x.mapError KbsPolicyEngineError.display)

@[simp] theorem ofEngine_eq_ok {α : Type} {x : Except KbsPolicyEngineError α} {a : α} :
    ofEngine x = .ok a ↔ x = .ok a := by
  cases x <;> simp [ofEngine, Except.mapError]

/-- `Opa`, with what it takes from other crates. -/
structure Opa where
  regorus : Regorus
  serde : SerdeJson
  /-- What `base64` says of a text that it does not decode. -/
  decodeError : String → String
  /-- What `String::from_utf8` says of bytes that are no text. -/
  utf8Error : Bytes → String
  policyPath : String
  /-- `default_policy.rego`. -/
  defaultPolicy : String

namespace Opa

variable (opa : Opa)

/-! ## Decisions -/

/-- The decision of a policy by its text. -/
def decision (policy : String) (data inputClaims : String) : Except KbsPolicyEngineError Bool := do
  let policy ← (opa.regorus.addPolicy policy).mapError fun _ => .PolicyLoadError
  let resourcePathObject ← (opa.regorus.fromJsonStr data).mapError .EvaluationError
  let data ← (opa.regorus.addData resourcePathObject).mapError fun _ => .DataLoadError
  let input ← (opa.regorus.setInputJson inputClaims).mapError fun _ => .InputError
  (opa.regorus.evalAllow policy data input).mapError .EvaluationError

/-- `evaluate`: the policy is read from its file. -/
def evaluate (data inputClaims : String) (fs : FileSystem) : Except KbsPolicyEngineError Bool :=
  match readToString fs opa.policyPath with
  | .error _ => .error .PolicyLoadError
  | .ok policy => opa.decision policy data inputClaims

/-! ## The file of the policy -/

/-- What `set_policy` writes, of a policy in base64. -/
def checkedPolicy (policy : String) : Except KbsPolicyEngineError Bytes := do
  let policyBytes ← match Base64.decodeUrlSafeNoPad policy with
    | some b => .ok b
    | none => .error (.DecodeError (opa.decodeError policy))
  let policyContent ← match fromUtf8 policyBytes with
    | some s => .ok s
    | none => .error (.InvalidPolicy (opa.utf8Error policyBytes))
  let _ ← (opa.regorus.addPolicy policyContent).mapError .InvalidPolicy
  return policyBytes

/-- The policy of a request, in base64. -/
def requestedPolicy (request : Bytes) : Except KbsPolicyEngineError String := do
  let request ← (opa.serde.fromSlice .ok request).mapError fun _ =>
    .IllegalSetPolicyRequest "Illegal SetPolicy Request Json"
  let policy ← match request.pointer "/policy" with
    | some v => .ok v
    | none => .error (.IllegalSetPolicyRequest "No `policy` field inside SetPolicy Request Json")
  match policy with
  | .string s => .ok s
  | _ => .error (.IllegalSetPolicyRequest
      "`policy` field is not a string in SetPolicy Request Json")

/-- What a request sets the policy to. -/
def policyOf (request : Bytes) : Except KbsPolicyEngineError Bytes := do
  let policy ← opa.requestedPolicy request
  opa.checkedPolicy policy

/-- `PolicyEngine::set_policy`. -/
def setPolicy (request : Bytes) (fs : FileSystem) :
    Except KbsPolicyEngineError Unit × FileSystem :=
  match opa.policyOf request with
  | .error e => (.error e, fs)
  | .ok policyBytes =>
    match fs.write opa.policyPath policyBytes with
    | .error e => (.error (.IOError e), fs)
    | .ok fs => (.ok (), fs)

/-- `get_policy`. -/
def getPolicy (fs : FileSystem) : Except KbsPolicyEngineError String :=
  match fs.read opa.policyPath with
  | .error e => .error (.IOError e)
  | .ok policy => .ok (Base64.encodeUrlSafeNoPad policy)

/-- `Opa::new`, given the directory of the policy. -/
def new (parent : String) (fs : FileSystem) : Except KbsPolicyEngineError Unit × FileSystem :=
  match fs.createDirAll parent with
  | (.error e, fs) => (.error (.IOError e), fs)
  | (.ok (), fs) =>
    if fs.pathExists opa.policyPath then (.ok (), fs)
    else match fs.write opa.policyPath (toUtf8 opa.defaultPolicy) with
      | .error e => (.error (.IOError e), fs)
      | .ok fs => (.ok (), fs)

variable {opa} {fs fs' : FileSystem} {q : Place} {policy : Bytes}

/-! ## What decides -/

/-- The decision of a policy by the bytes of its file. -/
def decideBytes (opa : Opa) (policy : Bytes) (data inputClaims : String) :
    Except KbsPolicyEngineError Bool :=
  match fromUtf8 policy with
  | none => .error .PolicyLoadError
  | some policy => opa.decision policy data inputClaims

/-- The file as it is decides. -/
theorem evaluate_of_file (hpath : fs.resolve opa.policyPath = .ok q)
    (hfile : fs.files q = some policy) (data inputClaims : String) :
    opa.evaluate data inputClaims fs = opa.decideBytes policy data inputClaims := by
  have hread : fs.read opa.policyPath = .ok policy := (FileSystem.read_eq_ok hpath).2 hfile
  rw [evaluate, readToString, hread, decideBytes]
  dsimp only
  cases fromUtf8 policy with
  | none => rfl
  | some s => rfl

/-- **A policy that is set is in the file, and nothing else changes**; one that is refused changes
nothing at all. -/
theorem setPolicy_spec {request : Bytes} {result : Except KbsPolicyEngineError Unit}
    (hpath : fs.resolve opa.policyPath = .ok q)
    (h : opa.setPolicy request fs = (result, fs')) :
    ((∃ e, result = .error e) ∧ fs' = fs) ∨
      (result = .ok () ∧ ∃ policy, opa.policyOf request = .ok policy ∧ Grows fs fs' ∧
        fs'.files = fs.files.insert q policy) := by
  unfold setPolicy at h
  cases hpolicy : opa.policyOf request with
  | error e =>
    rw [hpolicy] at h
    cases h
    exact .inl ⟨⟨e, rfl⟩, rfl⟩
  | ok policy =>
    rw [hpolicy] at h
    dsimp only at h
    rcases FileSystem.write_cases fs opa.policyPath policy with ⟨e, he⟩ | ⟨p, hdir, hresolve, hput⟩
    · rw [he] at h
      cases h
      exact .inl ⟨⟨_, rfl⟩, rfl⟩
    · rw [hput] at h
      cases h
      cases hpath.symm.trans hresolve
      exact .inr ⟨rfl, policy, rfl, .put hdir, rfl⟩

end Opa

end Trustmee.Kbs
