import Trustmee.Foundations.RegoMonotone
import Trustmee.Policy.Input

/-!
# More reference values

The default policy for CPUs looks into most of its reference values, and compares ten of them
(`comparedIds`). Where those ten stay and the others get more values, no trust claim becomes worse,
whatever the evidence is (`cpuPolicy_mono`): a number that a trust claim receives is the same, or a
smaller one.
-/

namespace Trustmee.Policy

open Broker Rego

/-- The reference values that the policy compares with. -/
def comparedIds : List String :=
  ["major_version", "minimum_minor_version", "snp_smt_enabled", "snp_tsme_enabled",
   "snp_guest_abi_major", "snp_guest_abi_minor", "snp_single_socket", "snp_smt_allowed",
   "tdvfkernel", "tdvfkernelparams"]

/-- More reference values: those that are compared with are the same, and the others have at least
the values that they had. -/
structure MoreValues (compare : Json → Json → Ordering) (rvps rvps' : String → Option Json) :
    Prop where
  same : ∀ id ∈ comparedIds, rvps' id = rvps id
  more : ∀ id, id ∉ comparedIds → ∀ v, contains compare v ((rvps id).getD .null) = true →
    contains compare v ((rvps' id).getD .null) = true

/-- The reference values that may get more. -/
def mayGrow (id : String) : Bool := decide (id ∉ comparedIds)

theorem MoreValues.grows {compare : Json → Json → Ordering} {rvps rvps' : String → Option Json}
    (h : MoreValues compare rvps rvps') (input : Json) :
    (policyContext compare rvps input).Grows mayGrow (policyContext compare rvps' input) where
  input := rfl
  compare := rfl
  same name id hid := by
    have hmem : id ∈ comparedIds := by simpa [mayGrow] using hid
    change (rvps' id).getD .null = (rvps id).getD .null
    rw [h.same id hmem]
  more name id hid := h.more id (of_decide_eq_true hid)

theorem cpuPolicy_monotone : cpuPolicy.monotone mayGrow = true := by
  decide

/-! ## The order of the values -/

/-- A trust claim is at most another one. -/
def AtMost (v w : Json) : Prop := ∀ n, w = claimValue n → ∃ m ≤ n, v = claimValue m

theorem AtMost.refl (v : Json) : AtMost v v := fun n h => ⟨n, Int.le_refl n, h⟩

theorem claimValue_injective : Function.Injective claimValue := fun m n h => by
  cases h
  rfl

/-- The numbers that a rule gives. -/
def numbers (rule : Rule) : List ℤ := rule.branches.filterMap fun branch => asI64 branch.1

/-- The rule gives these numbers, and they and the default go up. -/
structure GoesUp (rule : Rule) (d : ℤ) : Prop where
  values : rule.branches.map Prod.fst = (numbers rule).map claimValue
  sorted : (numbers rule ++ [d]).Pairwise (· ≤ ·)

theorem GoesUp.ordered {rule : Rule} {d : ℤ} (h : GoesUp rule d) :
    rule.Ordered AtMost (claimValue d) := by
  obtain ⟨hsorted, -, hdefault⟩ := List.pairwise_append.1 h.sorted
  constructor
  · rw [h.values, List.pairwise_map]
    exact hsorted.imp fun hle n hn => ⟨_, claimValue_injective hn ▸ hle, rfl⟩
  · intro v hv n hn
    rw [h.values] at hv
    obtain ⟨m, hm, rfl⟩ := List.mem_map.1 hv
    exact ⟨m, claimValue_injective hn ▸ hdefault m hm d (List.mem_singleton_self d), rfl⟩

/-- Each rule of a trust claim that depends on the evidence gives values in order. -/
theorem exists_rule {head name : String} (hhead : head ∈ evidenceClaims) (hname : name ∈ platforms) :
    ∃ rule d, ((cpuPolicy.rulesOf head).filter fun rule => rule.guard == some name) = [rule] ∧
      Json.Map.get cpuPolicy.defaults head = some (claimValue d) ∧ GoesUp rule d := by
  simp only [evidenceClaims, List.mem_cons, List.not_mem_nil, or_false] at hhead
  simp only [platforms, List.mem_cons, List.not_mem_nil, or_false] at hname
  rcases hhead with rfl | rfl | rfl <;> rcases hname with rfl | rfl | rfl | rfl | rfl | rfl <;>
    exact ⟨_, _, rfl, rfl, rfl, by decide⟩

/-! ## No trust claim becomes worse -/

variable {B : Broker.Env} {compare : Json → Json → Ordering} {rvps rvps' : String → Option Json}
  {value : B.crate.RawValue → Json} {claims initDataClaims runtimeDataClaims : Json} {tee : Tee}
  {tcbClaims : Table String B.crate.RawValue} {input : Json} {head : String}

/-- A rule that goes up receives numbers. -/
theorem GoesUp.exists_value {rule : Rule} {d : ℤ} (h : GoesUp rule d) (ctx : Context)
    (named : String → Bool) : ∃ n, (rule.eval ctx named).getD (claimValue d) = claimValue n := by
  cases hv : rule.eval ctx named with
  | none => exact ⟨d, rfl⟩
  | some v =>
    have hmem := mem_of_firstValue hv
    rw [h.values] at hmem
    obtain ⟨n, -, rfl⟩ := List.mem_map.1 hmem
    exact ⟨n, rfl⟩

/-- What the policy says of transformed claims: one rule decides, or none does. -/
theorem eval_of_transformClaims
    (h : transformClaims B claims initDataClaims runtimeDataClaims tee = .ok tcbClaims)
    (hinput : IsInput value tcbClaims input) (hhead : head ∈ evidenceClaims) :
    (∃ rule d, rule ∈ cpuPolicy.rules ∧ GoesUp rule d ∧ ∀ rvps,
        cpuPolicy.eval (policyContext compare rvps input) head =
          .ok (some ((rule.eval (policyContext compare rvps input)
            (cpuPolicy.helper (policyContext compare rvps input))).getD (claimValue d)))) ∨
      ∃ d, ∀ rvps, cpuPolicy.eval (policyContext compare rvps input) head =
        .ok (some (claimValue d)) := by
  obtain ⟨name, raw, -, -, htable⟩ := table_of_platform h
  have hguards := guards_of_mem hhead
  have hnone : none ∉ cpuPolicy.guards head := by
    rw [hguards]
    decide
  have honly : ∀ rvps k, some k ∈ cpuPolicy.guards head → k ≠ name →
      (policyContext compare rvps input).input.get k = none := by
    intro rvps k hk hne
    rw [hguards, List.mem_map_of_injective (Option.some_injective _)] at hk
    change input.get k = none
    rw [hinput k, htable k hk, if_neg hne, Option.map_none]
  by_cases hname : name ∈ platforms
  · obtain ⟨rule, d, hrule, hdefault, hgoesUp⟩ := exists_rule hhead hname
    have hmem : rule ∈ cpuPolicy.rulesOf head :=
      (List.mem_filter.1 (hrule ▸ List.mem_singleton_self rule :
        rule ∈ (cpuPolicy.rulesOf head).filter fun rule => rule.guard == some name)).1
    exact .inl ⟨rule, d, (List.mem_filter.1 hmem).1, hgoesUp, fun rvps =>
      Policy.eval_of_only hnone (honly rvps) hrule hdefault⟩
  · obtain ⟨rule, d, -, hdefault, -⟩ := exists_rule hhead (show "sample" ∈ platforms by decide)
    refine .inr ⟨d, fun rvps => ?_⟩
    have hfilter : (cpuPolicy.rulesOf head).filter (fun rule => rule.guard == some name) = [] := by
      refine List.filter_eq_nil_iff.2 fun rule hrule hguard => hname ?_
      have hmem : rule.guard ∈ cpuPolicy.guards head := List.mem_map_of_mem hrule
      rw [beq_iff_eq.1 hguard, hguards, List.mem_map_of_injective (Option.some_injective _)] at hmem
      exact hmem
    rw [Policy.eval, Policy.outputs_of_only hnone (honly rvps), hfilter]
    exact congrArg Except.ok hdefault

/-- **More reference values make no trust claim worse.** -/
theorem cpuPolicy_mono (hmore : MoreValues compare rvps rvps')
    (h : transformClaims B claims initDataClaims runtimeDataClaims tee = .ok tcbClaims)
    (hinput : IsInput value tcbClaims input) (hhead : head ∈ evidenceClaims) :
    ∃ n n', cpuPolicy.eval (policyContext compare rvps input) head = .ok (some (claimValue n)) ∧
      cpuPolicy.eval (policyContext compare rvps' input) head = .ok (some (claimValue n')) ∧
        n' ≤ n := by
  rcases eval_of_transformClaims h hinput hhead with ⟨rule, d, hrule, hgoesUp, heval⟩ | ⟨d, heval⟩
  · obtain ⟨n, hn⟩ := hgoesUp.exists_value (policyContext compare rvps input)
      (cpuPolicy.helper (policyContext compare rvps input))
    obtain ⟨n', hle, hn'⟩ := Policy.getD_mono AtMost.refl (hmore.grows input) cpuPolicy_monotone
      hrule hgoesUp.ordered n hn
    exact ⟨n, n', by rw [heval, hn], by rw [heval, hn'], hle⟩
  · exact ⟨d, d, heval rvps, heval rvps', Int.le_refl d⟩

/-- With the launch digest among the reference values, the executables of the sample TEE are
affirmed. -/
theorem cpuPolicy_mono_example : ∃ n n',
    cpuPolicy.eval (policyContext compareTexts (fun _ => none) (sampleInput .null)) "executables" =
        .ok (some (claimValue n)) ∧
      cpuPolicy.eval (policyContext compareTexts sampleRvps (sampleInput .null)) "executables" =
        .ok (some (claimValue n')) ∧ n' ≤ n := by
  have hmore : MoreValues compareTexts (fun _ => none) sampleRvps := by
    constructor
    · intro id hid
      have hne : id ≠ "launch_digest" := by
        rintro rfl
        exact absurd hid (by decide)
      exact if_neg hne
    · intro id _ v hv
      cases hv
  exact cpuPolicy_mono hmore (transformClaims_sample rfl) (isInput_sample .null)
    (show "executables" ∈ evidenceClaims from List.mem_cons_self)

end Trustmee.Policy
