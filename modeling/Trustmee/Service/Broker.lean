import Trustmee.Foundations.JsonText
import Trustmee.Foundations.Outcome
import Trustmee.Foundations.Table
import Trustmee.KbsTypes
import Mathlib.Algebra.Order.Ring.Int

/-!
# The token broker

`EarAttestationTokenBroker::issue` makes a submodule of the token for each piece of evidence. The
annotated evidence of a submodule are the verifier's claims under the name of the TEE, but for
`init_data` and `report_data`, which stand beside it; where one of them is there, the claims of the
init data or of the runtime data stand there too (`transformClaims`).
-/

namespace Trustmee.Broker

/-- What the broker takes from the `ear` crate. -/
structure Crate where
  RawValue : Type
  /-- `RawValue::Null`. -/
  null : RawValue
  /-- `RawValue::String`. -/
  string : String → RawValue
  /-- `RawValue::Integer`. -/
  integer : ℤ → RawValue
  /-- `serde_json::from_str::<RawValue>`. -/
  fromStr : String → Except String RawValue
  /-- `serde_json::to_string` of raw values under their names. -/
  toString : Table String RawValue → Except String String
  RawValueKind : Type
  /-- `RawValue::kind`. -/
  kind : RawValue → RawValueKind
  TrustVector : Type
  newTrustVector : TrustVector
  /-- `mut_by_name(name)`, and `set(value)` of the claim where there is one. -/
  setByName : TrustVector → String → ℤ → Option TrustVector
  /-- `TrustVector::any_set`. -/
  anySet : TrustVector → Bool
  TrustTier : Type
  /-- `update_status_from_trust_vector`. -/
  status : TrustVector → TrustTier
  Extensions : Type
  newExtensions : Extensions
  /-- `Extensions::register`. -/
  register : Extensions → String → ℤ → RawValueKind → Except String Extensions
  /-- `Extensions::set_by_name`. -/
  setExtension : Extensions → String → RawValue → Except String Extensions

/-- `Appraisal`. -/
structure Appraisal (C : Crate) where
  status : C.TrustTier
  trustVector : C.TrustVector
  policyId : String
  annotatedEvidence : Table String C.RawValue
  extensions : C.Extensions

/-- `Ear`, with the members of its verifier's identity. -/
structure Ear (C : Crate) where
  profile : String
  iat : ℤ
  build : String
  developer : String
  submods : Table String (Appraisal C)
  extensions : C.Extensions

/-- `Extension`. -/
structure Extension where
  name : String
  key : ℤ
  value : Json

/-- `EvaluationResult`. -/
structure EvaluationResult where
  trustClaims : Json
  extensions : List Extension

/-- The broker, and what surrounds it. -/
structure Env where
  crate : Crate
  durationMin : ℤ
  developerName : String
  buildName : String
  profileName : String
  /-- `to_variant_name`. -/
  toVariantName : Tee → Except String String
  /-- `PolicyEngine::evaluate`, of the input and the policy's identifier. -/
  policyEngine : String → String → Except String EvaluationResult
  /-- The time now, in seconds. -/
  now : ℤ
  /-- `now.checked_add` of minutes. -/
  checkedAdd : ℤ → ℤ → Option ℤ
  /-- The header with the public key, and the signature with the private one. -/
  sign : Ear crate → Outcome String
  /-- The service is built with overflow checks. -/
  overflowChecks : Bool

/-- `TeeClaims`. -/
structure TeeClaims where
  tee : Tee
  teeClass : String
  claims : Json
  initDataClaims : Json
  runtimeDataClaims : Json

variable (B : Env)

/-! ## The claims -/

/-- Move a claim of the verifier to the output, and add the claims that stand behind it. A claim
that is not a string is a panic. -/
def moveClaim (name claimsName : String) (behind : Json)
    (input : Json.Map × Table String B.crate.RawValue) :
    Outcome (Json.Map × Table String B.crate.RawValue) :=
  match Json.Map.get input.1 name with
  | some v => do
    let text ← Outcome.unwrap v.asStr
    let transformedClaims ← Outcome.ofExcept (B.crate.fromStr behind.print)
    return (Json.Map.erase input.1 name,
      (input.2.insert name (B.crate.string text)).insert claimsName transformedClaims)
  | none => .ok input

/-- Both claims of the verifier are moved. -/
def moveClaims (inputClaims initDataClaims runtimeDataClaims : Json) :
    Outcome (Json × Table String B.crate.RawValue) :=
  match inputClaims with
  | .object claimsMap => do
    let moved ← moveClaim B "init_data" "init_data_claims" initDataClaims (claimsMap, Table.empty)
    let moved ← moveClaim B "report_data" "runtime_data_claims" runtimeDataClaims moved
    return (.object moved.1, moved.2)
  | v => .ok (v, Table.empty)

/-- `transform_claims`. -/
def transformClaims (inputClaims initDataClaims runtimeDataClaims : Json) (tee : Tee) :
    Outcome (Table String B.crate.RawValue) := do
  let moved ← moveClaims B inputClaims initDataClaims runtimeDataClaims
  let transformedClaims ← Outcome.ofExcept (B.crate.fromStr moved.1.print)
  let name ← Outcome.ofExcept (B.toVariantName tee)
  return moved.2.insert name transformedClaims

/-! ## The appraisal -/

/-- `Value::as_i64`. -/
def asI64 : Json → Option ℤ
  | .number (.int n) => if -2 ^ 63 ≤ n ∧ n < 2 ^ 63 then some n else none
  | _ => none

/-- `as i8`. -/
def asI8 (n : ℤ) : ℤ := n.bmod 256

/-- The trust claims of a policy. A name that no claim has is a panic. -/
def setTrustClaims : B.crate.TrustVector → List (String × Json) → Outcome B.crate.TrustVector
  | vector, [] => .ok vector
  | vector, (k, v) :: claims => do
    let claimValue ← Outcome.okOr (asI64 v) "Policy claim value not number"
    let vector ← Outcome.unwrap (B.crate.setByName vector k (asI8 claimValue))
    setTrustClaims vector claims

/-- The extensions of a policy. -/
def setExtensions : B.crate.Extensions → List Extension → Outcome B.crate.Extensions
  | extensions, [] => .ok extensions
  | extensions, extension :: claims => do
    let extensionValue ← Outcome.ofExcept (B.crate.fromStr extension.value.print)
    let extensions ← Outcome.ofExcept (B.crate.register extensions extension.name extension.key
      (B.crate.kind extensionValue))
    let extensions ← Outcome.ofExcept
      (B.crate.setExtension extensions extension.name extensionValue)
    setExtensions extensions claims

/-- The appraisal of a piece of evidence. -/
def appraise (policyId : String) (teeClaims : TeeClaims) : Outcome (Appraisal B.crate) := do
  let tcbClaims ← transformClaims B teeClaims.claims teeClaims.initDataClaims
    teeClaims.runtimeDataClaims teeClaims.tee
  let tcbClaimsJson ← Outcome.ofExcept (B.crate.toString tcbClaims)
  let policyResults ← Outcome.ofExcept
    (B.policyEngine tcbClaimsJson (policyId ++ "_" ++ teeClaims.teeClass))
  let trustClaims ← Outcome.okOr policyResults.trustClaims.asObject
    "Policy result is not an object"
  let trustVector ← setTrustClaims B B.crate.newTrustVector trustClaims
  Outcome.ensure (B.crate.anySet trustVector) "At least one policy claim must be set."
  let extensions ← setExtensions B B.crate.newExtensions policyResults.extensions
  return {
    status := B.crate.status trustVector
    trustVector := trustVector
    policyId := policyId
    annotatedEvidence := tcbClaims
    extensions := extensions }

/-- `*index += 1`. -/
def nextIndex (index : UInt8) : Outcome UInt8 :=
  if B.overflowChecks ∧ index = 255 then .panic "attempt to add with overflow" else .ok (index + 1)

/-- The index of the next submodule of a class. -/
def indexOf (indices : Table String UInt8) (teeClass : String) : Outcome UInt8 :=
  match indices teeClass with
  | some index => nextIndex B index
  | none => .ok 0

/-- The loop over the pieces of evidence. -/
def appraiseAll (policyId : String) : Table String UInt8 → Table String (Appraisal B.crate) →
    List TeeClaims → Outcome (Table String (Appraisal B.crate))
  | _, submods, [] => .ok submods
  | indices, submods, teeClaims :: allTeeClaims => do
    let appraisal ← appraise B policyId teeClaims
    let index ← indexOf B indices teeClaims.teeClass
    appraiseAll policyId (indices.insert teeClaims.teeClass index)
      (submods.insert (teeClaims.teeClass ++ ToString.toString index.toNat) appraisal) allTeeClaims

/-- The token before it is signed. -/
def unsignedEar (allTeeClaims : List TeeClaims) (policyIds : List String) :
    Outcome (Ear B.crate) :=
  match policyIds with
  | [] => .bail "No policy is given for EAR token generation."
  | policyId :: _ => do
    let submods ← appraiseAll B policyId Table.empty Table.empty allTeeClaims
    let exp ← Outcome.okOr (B.checkedAdd B.now B.durationMin) "Token expiration overflow."
    let extensions ← Outcome.ofExcept
      (B.crate.register B.crate.newExtensions "exp" 4 (B.crate.kind (B.crate.integer exp)))
    let extensions ← Outcome.ofExcept
      (B.crate.setExtension extensions "exp" (B.crate.integer exp))
    return {
      profile := B.profileName
      iat := B.now
      build := B.buildName
      developer := B.developerName
      submods := submods
      extensions := extensions }

/-- `EarAttestationTokenBroker::issue`. -/
def issue (allTeeClaims : List TeeClaims) (policyIds : List String) : Outcome String := do
  let ear ← unsignedEar B allTeeClaims policyIds
  B.sign ear

/-! ## Where the claims of a submodule come from -/

variable {B}

theorem moveClaim_of_none {name claimsName : String} {behind : Json}
    {input : Json.Map × Table String B.crate.RawValue} (h : Json.Map.get input.1 name = none) :
    moveClaim B name claimsName behind input = .ok input := by
  simp only [moveClaim, h]

theorem moveClaim_of_string {name claimsName text : String} {behind : Json}
    {input : Json.Map × Table String B.crate.RawValue} {raw : B.crate.RawValue}
    (h : Json.Map.get input.1 name = some (.string text))
    (hraw : B.crate.fromStr behind.print = .ok raw) :
    moveClaim B name claimsName behind input = .ok (Json.Map.erase input.1 name,
      (input.2.insert name (B.crate.string text)).insert claimsName raw) := by
  simp only [moveClaim, h, hraw, Json.asStr, Outcome.unwrap, Outcome.ofExcept, Outcome.ok_bind,
    Outcome.pure_eq]

/-- `transform_claims` of an object, step by step. -/
theorem transformClaims_object {m : Json.Map} {initDataClaims runtimeDataClaims : Json} {tee : Tee}
    {first second : Json.Map × Table String B.crate.RawValue} {raw : B.crate.RawValue}
    {name : String}
    (hinit : moveClaim B "init_data" "init_data_claims" initDataClaims (m, Table.empty) =
      .ok first)
    (hreport : moveClaim B "report_data" "runtime_data_claims" runtimeDataClaims first = .ok second)
    (hraw : B.crate.fromStr (Json.object second.1).print = .ok raw)
    (hname : B.toVariantName tee = .ok name) :
    transformClaims B (.object m) initDataClaims runtimeDataClaims tee =
      .ok (second.2.insert name raw) := by
  simp only [transformClaims, moveClaims, hinit, hreport, hraw, hname, Outcome.ofExcept,
    Outcome.ok_bind, Outcome.pure_eq]

/-- Claims with `report_data` alone: the runtime data claims are put beside it. -/
theorem exists_transformClaims_reportData {m : Json.Map} (initDataClaims runtimeDataClaims : Json)
    {tee : Tee} {text name : String} {raw rest : B.crate.RawValue}
    (hinit : Json.Map.get m "init_data" = none)
    (hreport : Json.Map.get m "report_data" = some (.string text))
    (hraw : B.crate.fromStr runtimeDataClaims.print = .ok raw)
    (hrest : B.crate.fromStr (Json.object (Json.Map.erase m "report_data")).print = .ok rest)
    (hname : B.toVariantName tee = .ok name) (hne : name ≠ "runtime_data_claims") :
    ∃ t, transformClaims B (.object m) initDataClaims runtimeDataClaims tee = .ok t ∧
      t "runtime_data_claims" = some raw := by
  refine ⟨_, transformClaims_object (moveClaim_of_none hinit) (moveClaim_of_string hreport hraw)
    hrest hname, ?_⟩
  dsimp only
  rw [Table.insert_of_ne _ _ hne.symm, Table.insert_self]

/-- Claims with both: the init data claims are put beside `init_data`. -/
theorem exists_transformClaims_initData {m : Json.Map} (initDataClaims runtimeDataClaims : Json)
    {tee : Tee} {text text' name : String} {raw raw' rest : B.crate.RawValue}
    (hinit : Json.Map.get m "init_data" = some (.string text))
    (hreport : Json.Map.get m "report_data" = some (.string text'))
    (hraw : B.crate.fromStr initDataClaims.print = .ok raw)
    (hraw' : B.crate.fromStr runtimeDataClaims.print = .ok raw')
    (hrest : B.crate.fromStr (Json.object (Json.Map.erase (Json.Map.erase m "init_data")
      "report_data")).print = .ok rest)
    (hname : B.toVariantName tee = .ok name) (hne : name ≠ "init_data_claims") :
    ∃ t, transformClaims B (.object m) initDataClaims runtimeDataClaims tee = .ok t ∧
      t "init_data_claims" = some raw := by
  have herase : Json.Map.get (Json.Map.erase m "init_data") "report_data" =
      some (.string text') := by
    rw [Json.Map.get_erase, if_neg (by decide), hreport]
  refine ⟨_, transformClaims_object (moveClaim_of_string hinit hraw)
    (moveClaim_of_string herase hraw') hrest hname, ?_⟩
  dsimp only
  rw [Table.insert_of_ne _ _ hne.symm, Table.insert_of_ne _ _ (by decide),
    Table.insert_of_ne _ _ (by decide), Table.insert_self]

/-- What moving a claim adds to the output. -/
theorem moveClaim_eq_ok {name claimsName : String} {behind : Json}
    {input output : Json.Map × Table String B.crate.RawValue}
    (h : moveClaim B name claimsName behind input = .ok output) :
    (Json.Map.get input.1 name = none ∧ output = input) ∨
      ∃ text raw, Json.Map.get input.1 name = some (.string text) ∧
        B.crate.fromStr behind.print = .ok raw ∧ output.1 = Json.Map.erase input.1 name ∧
        output.2 = (input.2.insert name (B.crate.string text)).insert claimsName raw := by
  unfold moveClaim at h
  split at h
  · next v hget =>
    simp only [Outcome.bind_eq_ok, Outcome.unwrap_eq_ok, Outcome.ofExcept_eq_ok, Outcome.pure_eq,
      Outcome.ok.injEq] at h
    obtain ⟨text, htext, raw, hraw, rfl⟩ := h
    cases v with
    | string s =>
      cases htext
      exact .inr ⟨_, raw, hget, hraw, rfl, rfl⟩
    | _ => cases htext
  · next hget =>
    cases h
    exact .inl ⟨hget, rfl⟩

/-- The members that `moveClaims` gives: for each of the two names a claim of the verifier and what
stands behind it, and nothing else. -/
theorem moveClaims_eq_ok {inputClaims initDataClaims runtimeDataClaims : Json}
    {output : Json × Table String B.crate.RawValue}
    (h : moveClaims B inputClaims initDataClaims runtimeDataClaims = .ok output) :
    (∀ raw, output.2 "runtime_data_claims" = some raw →
      (inputClaims.get "report_data").isSome = true ∧
        B.crate.fromStr runtimeDataClaims.print = .ok raw) ∧
      ∀ raw, output.2 "init_data_claims" = some raw →
        ∃ text, inputClaims.get "init_data" = some (.string text) ∧
          B.crate.fromStr initDataClaims.print = .ok raw ∧
          output.2 "init_data" = some (B.crate.string text) := by
  unfold moveClaims at h
  split at h
  · next m =>
    simp only [Outcome.bind_eq_ok, Outcome.pure_eq, Outcome.ok.injEq] at h
    obtain ⟨⟨m₁, out₁⟩, hfirst, ⟨m₂, out₂⟩, hsecond, rfl⟩ := h
    rcases moveClaim_eq_ok hfirst with ⟨hinit, heq⟩ | ⟨text, raw, hinit, hraw, hm₁, hout₁⟩
    · cases heq
      rcases moveClaim_eq_ok hsecond with ⟨-, heq⟩ | ⟨_, raw, hreport, hraw, -, hout₂⟩
      · cases heq
        simp
      · simp only at hreport hout₂
        subst hout₂
        simp [Table.insert_apply, hreport, hraw]
    · simp only at hinit hm₁ hout₁
      subst hm₁ hout₁
      rcases moveClaim_eq_ok hsecond with ⟨-, heq⟩ | ⟨_, raw', hreport, hraw', -, hout₂⟩
      · cases heq
        simp [Table.insert_apply, hinit, hraw]
      · rw [Json.Map.get_erase, if_neg (by decide)] at hreport
        simp only at hout₂
        subst hout₂
        simp [Table.insert_apply, hreport, hraw', hinit, hraw]
  · cases h
    simp

/-- `transform_claims` keeps what `moveClaims` gives, unless the TEE has one of its names. -/
theorem transformClaims_eq_ok {inputClaims initDataClaims runtimeDataClaims : Json} {tee : Tee}
    {output : Table String B.crate.RawValue}
    (h : transformClaims B inputClaims initDataClaims runtimeDataClaims tee = .ok output) :
    ∃ moved name, moveClaims B inputClaims initDataClaims runtimeDataClaims = .ok moved ∧
      B.toVariantName tee = .ok name ∧ ∀ k, k ≠ name → output k = moved.2 k := by
  simp only [transformClaims, Outcome.bind_eq_ok, Outcome.ofExcept_eq_ok, Outcome.pure_eq,
    Outcome.ok.injEq] at h
  obtain ⟨moved, hmoved, _, -, name, hname, rfl⟩ := h
  exact ⟨moved, name, hmoved, hname, fun k hk => Table.insert_of_ne _ _ hk⟩

theorem appraise_annotatedEvidence {policyId : String} {teeClaims : TeeClaims}
    {appraisal : Appraisal B.crate} (h : appraise B policyId teeClaims = .ok appraisal) :
    transformClaims B teeClaims.claims teeClaims.initDataClaims teeClaims.runtimeDataClaims
      teeClaims.tee = .ok appraisal.annotatedEvidence := by
  simp only [appraise, Outcome.bind_eq_ok, Outcome.pure_eq, Outcome.ok.injEq] at h
  obtain ⟨tcbClaims, htcb, _, -, _, -, _, -, _, -, _, -, _, -, rfl⟩ := h
  exact htcb

/-- Each submodule that the loop adds is the appraisal of a piece of evidence. -/
theorem appraiseAll_eq_ok {policyId : String} {allTeeClaims : List TeeClaims}
    {indices : Table String UInt8} {submods result : Table String (Appraisal B.crate)}
    (h : appraiseAll B policyId indices submods allTeeClaims = .ok result) {name : String}
    {appraisal : Appraisal B.crate} (hget : result name = some appraisal) :
    submods name = some appraisal ∨
      ∃ teeClaims ∈ allTeeClaims, appraise B policyId teeClaims = .ok appraisal := by
  induction allTeeClaims generalizing indices submods with
  | nil =>
    cases h
    exact .inl hget
  | cons teeClaims allTeeClaims ih =>
    simp only [appraiseAll, Outcome.bind_eq_ok] at h
    obtain ⟨appraisal', happraise, index, -, hrest⟩ := h
    rcases ih hrest with hin | ⟨teeClaims', hmem, happraise'⟩
    · rcases Table.insert_eq_some hin with ⟨-, rfl⟩ | ⟨-, hold⟩
      · exact .inr ⟨teeClaims, List.mem_cons_self, happraise⟩
      · exact .inl hold
    · exact .inr ⟨teeClaims', List.mem_cons_of_mem _ hmem, happraise'⟩

/-- The annotated evidence of each submodule are the transformed claims of a piece of evidence. -/
theorem unsignedEar_eq_ok {allTeeClaims : List TeeClaims} {policyIds : List String}
    {ear : Ear B.crate} (h : unsignedEar B allTeeClaims policyIds = .ok ear) {name : String}
    {appraisal : Appraisal B.crate} (hget : ear.submods name = some appraisal) :
    ∃ teeClaims ∈ allTeeClaims, transformClaims B teeClaims.claims teeClaims.initDataClaims
      teeClaims.runtimeDataClaims teeClaims.tee = .ok appraisal.annotatedEvidence := by
  unfold unsignedEar at h
  split at h
  · exact absurd h Outcome.bail_ne_ok
  · simp only [Outcome.bind_eq_ok, Outcome.pure_eq, Outcome.ok.injEq] at h
    obtain ⟨submods, hsubmods, _, -, _, -, _, -, rfl⟩ := h
    rcases appraiseAll_eq_ok hsubmods hget with hempty | ⟨teeClaims, hmem, happraise⟩
    · cases hempty
    · exact ⟨teeClaims, hmem, appraise_annotatedEvidence happraise⟩

end Trustmee.Broker
