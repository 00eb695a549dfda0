import Trustmee.Foundations.JsonText
import Trustmee.Foundations.Outcome
import Trustmee.KbsTypes

/-!
# Verification requests

What a caller of the attestation service sends with its evidence: runtime data, which is to be
bound to the report data, and init data. Given raw, either is the expected value itself and gives no
claims. Structured, the expected value is its digest, and the token may repeat the data as claims.
-/

namespace Trustmee.AttestationService

/-- `HashAlgorithm`. -/
inductive HashAlgorithm
  | Sha256
  | Sha384
  | Sha512
  deriving DecidableEq

/-- `RuntimeData`. -/
inductive RuntimeData
  | Raw (raw : Bytes)
  | Structured (structured : Json)

/-- `InitDataInput`. -/
inductive InitDataInput
  | Digest (raw : Bytes)
  | Toml (structured : String)

/-- `Initdata`: its hash algorithm, and its data. -/
structure Initdata where
  version : String
  algorithm : HashAlgorithm
  data : List (String × String)

/-- `VerificationRequest`. -/
structure VerificationRequest where
  evidence : Json
  tee : Tee
  runtimeData : Option RuntimeData
  runtimeDataHashAlgorithm : HashAlgorithm
  initData : Option InitDataInput
  verifierComponent : Option Bytes
  verifierComponentId : Option String

/-- What reading a request takes from other crates. -/
structure DataEnv where
  serde : SerdeJson
  /-- `HashAlgorithm::digest`. -/
  digest : HashAlgorithm → Bytes → Bytes
  /-- The canonical JSON of a value. -/
  serializeCanonJson : Json → Except String Bytes
  /-- `toml::from_str::<Initdata>`. -/
  initdataFromToml : String → Except String Initdata
  /-- `toml::from_str::<toml::Value>`, and `serde_json::to_value` of what it reads. -/
  tomlToJson : String → Option Json

variable (D : DataEnv)

/-- `parse_runtime_data`: the expected report data, and the claims. -/
def parseRuntimeData (data : Option RuntimeData) (hashAlgorithm : HashAlgorithm) :
    Outcome (Option Bytes × Json) :=
  match data with
  | some (.Raw raw) => .ok (some raw, .null)
  | some (.Structured structured) => do
    let hashMaterials ← (Outcome.ofExcept (D.serializeCanonJson structured)).context
      "parse JSON structured data"
    return (some (D.digest hashAlgorithm hashMaterials), structured)
  | none => .ok (none, .null)

/-- The text from where a pattern first occurs. -/
def findPattern (pattern : List Char) : List Char → Option (List Char)
  | [] => none
  | c :: text =>
    if pattern.isPrefixOf (c :: text) then some (c :: text) else findPattern pattern text

def startPattern : String := "policy_data := \x7b"

/-- `extract_policy_data`: the JSON that ends the file, from the brace of its declaration. -/
def extractPolicyData (regoContent : String) : Option Json :=
  match findPattern startPattern.toList regoContent.toList with
  | some found =>
    let jsonStr := String.ofList (found.drop (startPattern.length - 1))
    match D.serde.fromStr .ok jsonStr with
    | .ok v => some v
    | .error _ => none
  | none => none

/-- A member that is the text of a TOML file becomes its value. -/
def transformToml (map : Json.Map) (key : String) : Json.Map :=
  match Json.Map.get map key with
  | some (.string tomlStr) =>
    match D.tomlToJson tomlStr with
    | some jsonValue => Json.Map.insert map key jsonValue
    | none => map
  | _ => map

/-- A policy file with policy data gives way to the data. -/
def transformPolicy (map : Json.Map) : Json.Map :=
  match Json.Map.get map "policy.rego" with
  | some (.string regoStr) =>
    match extractPolicyData D regoStr with
    | some policyData =>
      Json.Map.insert (Json.Map.erase map "policy.rego") "agent_policy_claims" policyData
    | none => map
  | _ => map

/-- The claims of init data. -/
def initDataClaims (data : List (String × String)) : Json :=
  let map := Json.Map.ofList (data.map fun p => (p.1, .string p.2))
  .object (transformPolicy D (transformToml D (transformToml D map "cdh.toml") "aa.toml"))

/-- `parse_init_data`: the expected init data hash, and the claims. -/
def parseInitData (data : Option InitDataInput) : Outcome (Option Bytes × Json) :=
  match data with
  | some (.Digest raw) => .ok (some raw, .null)
  | some (.Toml structured) => do
    let initdata ← (Outcome.ofExcept (D.initdataFromToml structured)).context
      "parse TOML structured data"
    let digest := D.digest initdata.algorithm (toUtf8 structured)
    return (some digest, initDataClaims D initdata.data)
  | none => .ok (none, .null)

/-! ## Claims come with a digest -/

/-- Runtime data that gives claims is structured, and its digest is expected. -/
theorem parseRuntimeData_claims {data : Option RuntimeData} {alg : HashAlgorithm}
    {expected : Option Bytes} {claims : Json}
    (h : parseRuntimeData D data alg = .ok (expected, claims)) (hclaims : claims ≠ .null) :
    ∃ digest, expected = some digest := by
  unfold parseRuntimeData at h
  split at h
  · cases h
    exact absurd rfl hclaims
  · simp only [Outcome.bind_eq_ok, Outcome.pure_eq, Outcome.ok.injEq, Prod.mk.injEq] at h
    obtain ⟨_, -, rfl, -⟩ := h
    exact ⟨_, rfl⟩
  · cases h
    exact absurd rfl hclaims

/-- Init data that gives claims is TOML, and its digest is expected. -/
theorem parseInitData_claims {data : Option InitDataInput} {expected : Option Bytes} {claims : Json}
    (h : parseInitData D data = .ok (expected, claims)) (hclaims : claims ≠ .null) :
    ∃ digest, expected = some digest := by
  unfold parseInitData at h
  split at h
  · cases h
    exact absurd rfl hclaims
  · simp only [Outcome.bind_eq_ok, Outcome.pure_eq, Outcome.ok.injEq, Prod.mk.injEq] at h
    obtain ⟨_, -, rfl, -⟩ := h
    exact ⟨_, rfl⟩
  · cases h
    exact absurd rfl hclaims

end Trustmee.AttestationService
