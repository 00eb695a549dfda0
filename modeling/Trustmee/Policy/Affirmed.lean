import Trustmee.Policy.Gpu
import Trustmee.Policy.Backends
import Trustmee.Policy.Monotone
import Trustmee.Snp.Soundness
import Trustmee.Snp.Agreement

/-!
# What evidence the default policy affirms

A trust claim is affirmed when its value is one for what is recognised, from 2 to 31. From the
evidence that a verifier accepts to the trust claims that the default policy gives, this says which
evidence has all its trust claims affirmed: for SNP, a report that an endorsement key of AMD signs,
with a measurement and TCB parts among the reference values and a policy without debugging and
migration (`snp_affirmed_iff`).
-/

namespace Trustmee.Policy

open Broker Rego

/-! ## Affirmed trust claims -/

/-- The values for what is recognised, and not found to be at fault. -/
def Affirming (n : ℤ) : Prop := 2 ≤ n ∧ n < 32

instance (n : ℤ) : Decidable (Affirming n) := inferInstanceAs (Decidable (_ ∧ _))

/-- The policy affirms a trust claim. -/
def Affirms (ctx : Context) (head : String) : Prop :=
  ∃ n, Affirming n ∧ cpuPolicy.eval ctx head = .ok (some (claimValue n))

/-- The policy affirms all trust claims that depend on the evidence. -/
def AffirmsAll (ctx : Context) : Prop := ∀ head ∈ evidenceClaims, Affirms ctx head

/-- The rule of a platform for a trust claim affirms it where it gives a value, and the default does
not. -/
structure AffirmingRule (name head : String) (rule : Rule) (d : ℤ) : Prop where
  only : ((cpuPolicy.rulesOf head).filter fun rule => rule.guard == some name) = [rule]
  default : Json.Map.get cpuPolicy.defaults head = some (claimValue d)
  values : rule.branches.map Prod.fst = (numbers rule).map claimValue
  affirming : ∀ n ∈ numbers rule, Affirming n
  notDefault : ¬ Affirming d

section Claims

variable {compare : Json → Json → Ordering} {rvps : String → Option Json} {claims input : Json}
  {name head : String} {rule : Rule} {d : ℤ}

/-- Where the claims of the platform are there, its rule decides. -/
theorem AffirmingRule.affirms_iff (h : AffirmingRule name head rule d)
    (hinput : IsTeeInput name claims input) (htrue : truthy (teeMembers claims) = true)
    (hhead : head ∈ evidenceClaims) : Affirms (policyContext compare rvps input) head ↔
      ∃ branch ∈ rule.withoutGuard.branches, holds (policyContext compare rvps input)
        (cpuPolicy.helper (policyContext compare rvps input)) [] branch.2 = true := by
  have hguard : rule.guard = some name := by
    have hmem := List.mem_singleton_self rule
    rw [← h.only, List.mem_filter] at hmem
    exact beq_iff_eq.1 hmem.2
  have hmember : (policyContext compare rvps input).input.get name = some (teeMembers claims) :=
    hinput.member
  rw [Affirms, hinput.eval_eq compare rvps hhead h.only h.default, ← firstValue_isSome]
  have hvalue : rule.eval (policyContext compare rvps input)
      (cpuPolicy.helper (policyContext compare rvps input)) = rule.withoutGuard.eval
        (policyContext compare rvps input)
        (cpuPolicy.helper (policyContext compare rvps input)) :=
    Rule.eval_of_present hguard hmember htrue
  change _ ↔ (rule.withoutGuard.eval _ _).isSome = true
  rw [← hvalue]
  cases hrule : rule.eval (policyContext compare rvps input)
      (cpuPolicy.helper (policyContext compare rvps input)) with
  | none =>
    rw [Option.getD_none, Option.isSome_none]
    constructor
    · rintro ⟨n, hn, heq⟩
      have hd : claimValue d = claimValue n := Option.some.inj (Except.ok.inj heq)
      exact absurd (claimValue_injective hd ▸ hn) h.notDefault
    · intro hfalse
      cases hfalse
  | some v =>
    have hmem := mem_of_firstValue hrule
    rw [h.values] at hmem
    obtain ⟨n, hn, rfl⟩ := List.mem_map.1 hmem
    exact ⟨fun _ => rfl, fun _ => ⟨n, h.affirming n hn, rfl⟩⟩

/-- A claim of the verifier, in the input. -/
theorem follow_claim (hinput : IsTeeInput name claims input) {k : String} (hinit : k ≠ "init_data")
    (hreport : k ≠ "report_data") : follow input [name, k] = claims.get k := by
  rw [follow, hinput.member, Option.bind_some, follow, get_teeMembers hinit hreport]
  cases claims.get k <;> rfl

/-! ## What the rules ask for -/

/-- A value is among the reference values of a name. -/
def Listed (compare : Json → Json → Ordering) (rvps : String → Option Json) (id : String)
    (v : Json) : Prop :=
  contains compare v ((rvps id).getD .null) = true

variable {named : String → Bool} {vars : Json.Map} {path : List String}

theorem eval_listed {v : Json} {id : String} (h : follow input path = some v) :
    Test.eval (policyContext compare rvps input) named vars
      (.mem (.input path) (queryReferenceValue id)) = true ↔ Listed compare rvps id v := by
  have hinput : Term.eval (policyContext compare rvps input) vars (.input path) = some v := h
  rw [Test.eval, compareTerms, hinput, Option.any_some, queryReferenceValue, Term.eval,
    Option.any_some]
  exact Iff.rfl

/-- A flag in the input is off. -/
theorem eval_off (hcompare : ∀ b c, compare (.bool b) (.bool c) = .eq ↔ b = c) {b : Bool}
    (h : follow input path = some (.bool b)) :
    Test.eval (policyContext compare rvps input) named vars
      (.eq (.input path) (.value (.bool false))) = true ↔ b = false := by
  have hinput : Term.eval (policyContext compare rvps input) vars (.input path) =
      some (.bool b) := h
  rw [Test.eval, compareTerms, hinput, Option.any_some, Term.eval, Option.any_some, beq_iff_eq,
    policyContext, hcompare]

end Claims

/-! ## SNP -/

/-- A report with a measurement and TCB parts among the reference values, whose policy allows no
debugging and no migration agent. -/
structure SnpTrusted (compare : Json → Json → Ordering) (rvps : String → Option Json)
    (report : Snp.AttestationReport) : Prop where
  measurement : Listed compare rvps "snp_launch_measurement"
    (.string (Base64.encode report.measurement.toList))
  bootloader : Listed compare rvps "snp_bootloader"
    (.number (.int report.reportedTcb.bootloader.toNat))
  microcode : Listed compare rvps "snp_microcode"
    (.number (.int report.reportedTcb.microcode.toNat))
  snp : Listed compare rvps "snp_snp_svn" (.number (.int report.reportedTcb.snp.toNat))
  tee : Listed compare rvps "snp_tee_svn" (.number (.int report.reportedTcb.tee.toNat))
  debugAllowed : report.policy.debugAllowed = false
  migrateMaAllowed : report.policy.migrateMaAllowed = false

theorem affirmingRule_snpExecutables : AffirmingRule "snp" "executables" snpExecutables 33 :=
  ⟨rfl, rfl, rfl, by decide, by decide⟩

theorem affirmingRule_snpHardware : AffirmingRule "snp" "hardware" snpHardware 97 :=
  ⟨rfl, rfl, rfl, by decide, by decide⟩

theorem affirmingRule_snpConfiguration :
    AffirmingRule "snp" "configuration" snpConfiguration 36 :=
  ⟨rfl, rfl, rfl, by decide, by decide⟩

section Snp

variable {compare : Json → Json → Ordering} {rvps : String → Option Json} {input : Json}
  {report : Snp.AttestationReport}

/-- What the policy reads of a report. -/
structure ReadsReport (input : Json) (report : Snp.AttestationReport) : Prop where
  measurement : follow input ["snp", "measurement"] =
    some (.string (Base64.encode report.measurement.toList))
  bootloader : follow input ["snp", "reported_tcb_bootloader"] =
    some (.number (.int report.reportedTcb.bootloader.toNat))
  microcode : follow input ["snp", "reported_tcb_microcode"] =
    some (.number (.int report.reportedTcb.microcode.toNat))
  snp : follow input ["snp", "reported_tcb_snp"] =
    some (.number (.int report.reportedTcb.snp.toNat))
  tee : follow input ["snp", "reported_tcb_tee"] =
    some (.number (.int report.reportedTcb.tee.toNat))
  debugAllowed : follow input ["snp", "policy_debug_allowed"] =
    some (.bool report.policy.debugAllowed)
  migrateMaAllowed : follow input ["snp", "policy_migrate_ma"] =
    some (.bool report.policy.migrateMaAllowed)

theorem readsReport_of_claims
    (hinput : IsTeeInput "snp" (Snp.Native.parseTeeEvidence report) input) :
    ReadsReport input report := by
  have hfollow : ∀ k, k ≠ "init_data" → k ≠ "report_data" →
      follow input ["snp", k] = (Snp.Native.parseTeeEvidence report).get k :=
    fun k hinit hreport => follow_claim hinput hinit hreport
  constructor
  all_goals
    rw [hfollow _ (by decide) (by decide), Snp.Native.parseTeeEvidence, Json.get_object]
    refine (Json.Map.get_extend_eq_some ?_).2 (.inl (by simp))
    simp only [List.map_cons, List.map_nil]
    decide

/-- **The reports that the policy affirms.** -/
theorem affirmsAll_snp_iff (hcompare : ∀ b c, compare (.bool b) (.bool c) = .eq ↔ b = c)
    (hinput : IsTeeInput "snp" (Snp.Native.parseTeeEvidence report) input) :
    AffirmsAll (policyContext compare rvps input) ↔ SnpTrusted compare rvps report := by
  have hread := readsReport_of_claims hinput
  simp only [AffirmsAll, evidenceClaims, List.forall_mem_cons, List.not_mem_nil, false_implies,
    implies_true, and_true,
    affirmingRule_snpExecutables.affirms_iff hinput rfl (by decide),
    affirmingRule_snpHardware.affirms_iff hinput rfl (by decide),
    affirmingRule_snpConfiguration.affirms_iff hinput rfl (by decide)]
  simp only [Rule.withoutGuard, snpExecutables, snpHardware, snpConfiguration, executables, hardware,
    configuration, List.map_cons, List.map_nil, List.tail_cons, List.exists_mem_cons_iff,
    List.not_mem_nil, false_and, exists_false, or_false, isIn, is, isReference, holds_test_cons,
    holds_nil, Bool.and_true, Bool.and_eq_true, eval_listed hread.measurement,
    eval_listed hread.bootloader, eval_listed hread.microcode, eval_listed hread.snp,
    eval_listed hread.tee, eval_off hcompare hread.debugAllowed,
    eval_off hcompare hread.migrateMaAllowed]
  constructor
  · rintro ⟨hmeasurement, ⟨hbootloader, hmicrocode, hsnp, htee⟩, hconfiguration⟩
    -- The second branch asks for what the first one does, and for no reference value.
    obtain ⟨hdebug, hmigrate⟩ : report.policy.debugAllowed = false ∧
        report.policy.migrateMaAllowed = false := by
      rcases hconfiguration with ⟨hdebug, hmigrate, -⟩ | h
      · exact ⟨hdebug, hmigrate⟩
      · exact h
    exact ⟨hmeasurement, hbootloader, hmicrocode, hsnp, htee, hdebug, hmigrate⟩
  · intro h
    exact ⟨h.measurement, ⟨h.bootloader, h.microcode, h.snp, h.tee⟩,
      .inr ⟨h.debugAllowed, h.migrateMaAllowed⟩⟩

variable {V : Snp.Env} {B : Broker.Env} {value : B.crate.RawValue → Json}
  {evidence claims initDataClaims runtimeDataClaims : Json} {reportData : ReportData}
  {initDataHash : InitDataHash} {verified : Claims} {c : String} {tee : Tee}
  {tcbClaims : Table String B.crate.RawValue}

/-- **The SNP evidence that is affirmed.** Evidence that the verifier accepts is signed and bound as
it should be, and the policy affirms all its trust claims exactly when its report is to be
trusted. -/
theorem snp_affirmed_iff (hcompare : ∀ b c, compare (.bool b) (.bool c) = .eq ↔ b = c)
    (hverified : Snp.Native.evaluate V evidence reportData initDataHash = .ok verified)
    (hmem : (claims, c) ∈ verified)
    (h : transformClaims B claims initDataClaims runtimeDataClaims tee = .ok tcbClaims)
    (hinput : IsInput value tcbClaims input) (hname : B.toVariantName tee = .ok "snp")
    (hvalue : ∀ raw, B.crate.fromStr (teeMembers claims).print = .ok raw →
      value raw = teeMembers claims) :
    ∃ ev, Snp.Native.SnpEvidence.fromValue V evidence = .ok ev ∧
      Snp.Native.Sound V ev reportData initDataHash ∧
      (AffirmsAll (policyContext compare rvps input) ↔
        SnpTrusted compare rvps ev.attestationReport) := by
  obtain ⟨ev, v, hev, hv, rfl⟩ := Snp.Native.evaluate_eq_ok.1 hverified
  obtain ⟨hsound, rfl⟩ := Snp.Native.verifyEvidence_eq_ok.1 hv
  obtain ⟨rfl, -⟩ := Prod.mk.injEq .. ▸ List.mem_singleton.1 hmem
  have hteeInput := isTeeInput_of_transformClaims h hinput hname (by decide) hvalue
  exact ⟨ev, hev, hsound, affirmsAll_snp_iff hcompare hteeInput⟩

end Snp

/-! ## A report that is affirmed -/

/-- A broker that reads all texts as the claims of one TEE. -/
def readingBroker (name : String) (claims : Json) : Broker.Env := { jsonBroker with
  crate := { jsonCrate with fromStr _ := .ok (teeMembers claims) }
  toVariantName _ := .ok name
  sign _ := .ok "token" }

theorem IsInput.insert {C : Crate} {value : C.RawValue → Json} {t : Table String C.RawValue}
    {m : Json.Map} (h : IsInput value t (.object m)) (k : String) (raw : C.RawValue) :
    IsInput value (t.insert k raw) (.object (m.insert k (value raw))) := by
  intro k'
  rw [Json.get_object, Json.Map.get_insert, Table.insert_apply]
  split_ifs
  · rfl
  · exact h k'

/-- Claims with init data and report data are transformed to an input. -/
theorem exists_input (name : String) (tee : Tee) (claims : Json) {text text' : String}
    (hinit : claims.get "init_data" = some (.string text))
    (hreport : claims.get "report_data" = some (.string text')) :
    ∃ tcbClaims input,
      transformClaims (readingBroker name claims) claims .null .null tee = .ok tcbClaims ∧
        IsInput (C := (readingBroker name claims).crate) id tcbClaims input := by
  cases claims with
  | object m =>
    have hrest : Json.Map.get (Json.Map.erase m "init_data") "report_data" =
        some (.string text') := by
      rw [Json.Map.get_erase, if_neg (by decide)]
      exact hreport
    have hempty : IsInput (C := (readingBroker name (.object m)).crate) id Table.empty
        (.object []) := fun _ => rfl
    exact ⟨_, _, transformClaims_object (moveClaim_of_string hinit rfl)
      (moveClaim_of_string hrest rfl) rfl rfl, ((((hempty.insert _ _).insert _ _).insert _ _).insert
        _ _).insert _ _⟩
  | _ => cases hinit

/-- Texts, numbers and flags are equal to themselves alone. -/
def compareScalars : Json → Json → Ordering
  | .string a, .string b => if a = b then .eq else .lt
  | .number (.int a), .number (.int b) => if a = b then .eq else .lt
  | .bool a, .bool b => if a = b then .eq else .lt
  | _, _ => .lt

theorem compareScalars_bool (b c : Bool) : compareScalars (.bool b) (.bool c) = .eq ↔ b = c := by
  by_cases h : b = c
  · simp [compareScalars, h]
  · simp [compareScalars, h]

/-- The measurement of the report, and TCB parts that are 0. -/
def milanRvps (id : String) : Option Json :=
  if id = "snp_launch_measurement" then
    some (.array [.string (Base64.encode Snp.milanReport.measurement.toList)])
  else some (.array [.number (.int 0)])

/-- The report of a Milan processor is affirmed. -/
theorem snp_affirmed_iff_example :
    ∃ input, AffirmsAll (policyContext compareScalars milanRvps input) := by
  have hverified : Snp.Native.evaluate Snp.milanEnv (.object Snp.milanEvidence) (.value [])
      .notProvided = .ok [(Snp.Native.parseTeeEvidence Snp.milanReport, "cpu")] := rfl
  obtain ⟨tcbClaims, input, h, hinput⟩ :=
    exists_input "snp" .Snp (Snp.Native.parseTeeEvidence Snp.milanReport) rfl rfl
  obtain ⟨ev, hev, -, hiff⟩ := snp_affirmed_iff compareScalars_bool hverified
    (List.mem_singleton_self _) h hinput rfl fun raw hraw => (Except.ok.inj hraw).symm
  cases hev
  have hzero : Listed compareScalars milanRvps "snp_bootloader" (.number (.int 0)) := rfl
  have hmeasurement : Listed compareScalars milanRvps "snp_launch_measurement"
      (.string (Base64.encode Snp.milanReport.measurement.toList)) := by
    rw [Listed, milanRvps, if_pos rfl, Option.getD_some, contains, elements, List.any_cons,
      compareScalars, if_pos rfl]
    rfl
  exact ⟨input, hiff.2 ⟨hmeasurement, rfl, rfl, rfl, rfl, rfl, rfl⟩⟩

end Trustmee.Policy
