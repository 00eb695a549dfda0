import Trustmee.Policy.Input

/-!
# The policy engine

`OPA::evaluate` takes the policy of a file, sets the text of the transformed claims as its input and
evaluates its trust claims and its extensions. Where the policy is the default one, the trust vector
of an appraisal is made from the claims of the verifier alone: two pieces of evidence with the same
claims, and other claims of the init data or of the runtime data, are appraised alike
(`appraise_eq`).
-/

namespace Trustmee.Policy

open Broker Rego

/-- The files of policies, `regorus` and the reference values. -/
structure Opa where
  /-- The policy of an identifier, read from its file and added to the engine. -/
  policies : String → Except String Rego.Policy
  /-- `set_input_json`. -/
  setInputJson : String → Except String Json
  /-- The order of values. -/
  compare : Json → Json → Ordering
  /-- The RVPS. -/
  rvps : String → Option Json
  /-- What the rule `extensions` of the policy of an identifier gives for an input. -/
  extensions : String → Json → Except String (List Extension)

/-- `OPA::evaluate`. Trust claims that are not defined are written as a text. -/
def Opa.evaluate (O : Opa) (input policyId : String) : Except String EvaluationResult := do
  let policy ← O.policies policyId
  let input ← O.setInputJson input
  let trustClaims ← policy.object (policyContext O.compare O.rvps input) "trust_claims"
  let extensions ← O.extensions policyId input
  return ⟨trustClaims.getD (.string "<undefined>"), extensions⟩

/-- The engine reads the text of transformed claims as an object of them. -/
def Opa.ReadsInput {B : Broker.Env} (O : Opa) (value : B.crate.RawValue → Json) (claims : Json)
    (tee : Tee) : Prop :=
  ∀ initDataClaims runtimeDataClaims tcbClaims text input,
    transformClaims B claims initDataClaims runtimeDataClaims tee = .ok tcbClaims →
      B.crate.toString tcbClaims = .ok text → O.setInputJson text = .ok input →
        IsInput value tcbClaims input

variable {B : Broker.Env} {O : Opa} {value : B.crate.RawValue → Json}

theorem Opa.evaluate_eq_ok {text policyId : String} {results : EvaluationResult} :
    O.evaluate text policyId = .ok results ↔
      ∃ policy input trustClaims extensions, O.policies policyId = .ok policy ∧
        O.setInputJson text = .ok input ∧
        policy.object (policyContext O.compare O.rvps input) "trust_claims" = .ok trustClaims ∧
        O.extensions policyId input = .ok extensions ∧
        results = ⟨trustClaims.getD (.string "<undefined>"), extensions⟩ := by
  unfold Opa.evaluate
  cases O.policies policyId with
  | error e => simp [bind, Except.bind]
  | ok policy =>
    cases O.setInputJson text with
    | error e => simp [bind, Except.bind]
    | ok input =>
      cases htrust : policy.object (policyContext O.compare O.rvps input) "trust_claims" with
      | error e => simp [bind, Except.bind, htrust]
      | ok trustClaims =>
        cases hextensions : O.extensions policyId input with
        | error e => simp [bind, Except.bind, htrust, hextensions]
        | ok extensions =>
          simp [bind, Except.bind, pure, Except.pure, htrust, hextensions, eq_comm]

/-- An appraisal with the default policy: the engine's input, and the trust claims that the trust
vector is made of. -/
theorem exists_input_of_appraise (hengine : B.policyEngine = O.evaluate) {policyId : String}
    {teeClaims : TeeClaims} {appraisal : Appraisal B.crate}
    (hpolicy : O.policies (policyId ++ "_" ++ teeClaims.teeClass) = .ok cpuPolicy)
    (hread : O.ReadsInput value teeClaims.claims teeClaims.tee)
    (h : appraise B policyId teeClaims = .ok appraisal) :
    ∃ input tcbClaims trustClaims, transformClaims B teeClaims.claims teeClaims.initDataClaims
        teeClaims.runtimeDataClaims teeClaims.tee = .ok tcbClaims ∧
      IsInput value tcbClaims input ∧
      cpuPolicy.object (policyContext O.compare O.rvps input) "trust_claims" = .ok trustClaims ∧
      ∃ members, (trustClaims.getD (.string "<undefined>")).asObject = some members ∧
        setTrustClaims B B.crate.newTrustVector members = .ok appraisal.trustVector ∧
        appraisal.status = B.crate.status appraisal.trustVector := by
  simp only [appraise, Outcome.bind_eq_ok, Outcome.ofExcept_eq_ok, Outcome.pure_eq,
    Outcome.ok.injEq, Outcome.okOr_eq_ok, hengine] at h
  obtain ⟨tcbClaims, htransform, text, htext, results, hresults, members, hmembers, trustVector,
    hvector, -, -, extensions, -, rfl⟩ := h
  obtain ⟨policy, input, trustClaims, _, hpolicy', hinput, htrust, -, rfl⟩ :=
    Opa.evaluate_eq_ok.1 hresults
  rw [hpolicy] at hpolicy'
  cases hpolicy'
  exact ⟨input, tcbClaims, trustClaims, htransform, hread _ _ _ _ _ htransform htext hinput, htrust,
    members, hmembers, hvector, rfl⟩

/-- **Appraisals depend on the verifier's claims alone**, under the default policy: with other
claims of the init data and of the runtime data, the trust vector and the status are the same. -/
theorem appraise_eq (hengine : B.policyEngine = O.evaluate) {policyId : String}
    {teeClaims teeClaims' : TeeClaims} {appraisal appraisal' : Appraisal B.crate}
    (hpolicy : O.policies (policyId ++ "_" ++ teeClaims.teeClass) = .ok cpuPolicy)
    (hread : O.ReadsInput value teeClaims.claims teeClaims.tee)
    (hclass : teeClaims'.teeClass = teeClaims.teeClass) (htee : teeClaims'.tee = teeClaims.tee)
    (hclaims : teeClaims'.claims = teeClaims.claims)
    (h : appraise B policyId teeClaims = .ok appraisal)
    (h' : appraise B policyId teeClaims' = .ok appraisal') :
    appraisal'.trustVector = appraisal.trustVector ∧ appraisal'.status = appraisal.status := by
  obtain ⟨input, tcbClaims, trustClaims, htransform, hinput, htrust, members, hmembers, hvector,
    hstatus⟩ := exists_input_of_appraise hengine hpolicy hread h
  rw [← hclass] at hpolicy
  rw [← htee, ← hclaims] at hread
  obtain ⟨input', tcbClaims', trustClaims', htransform', hinput', htrust', members', hmembers',
    hvector', hstatus'⟩ := exists_input_of_appraise hengine hpolicy hread h'
  rw [hclaims, htee] at htransform'
  have hsame : SameAt (platforms.map fun p => [p]) (policyContext O.compare O.rvps input).input
      input' := sameAt_platforms htransform hinput htransform' hinput'
  have hobject : cpuPolicy.object (policyContext O.compare O.rvps input') "trust_claims" =
      cpuPolicy.object (policyContext O.compare O.rvps input) "trust_claims" :=
    Policy.object_congr hsame cpuPolicy_readsOnly "trust_claims"
  rw [htrust', htrust] at hobject
  cases hobject
  rw [hmembers] at hmembers'
  cases hmembers'
  rw [hvector, Outcome.ok.injEq] at hvector'
  exact ⟨hvector'.symm, by rw [hstatus, hstatus', hvector']⟩

end Trustmee.Policy
