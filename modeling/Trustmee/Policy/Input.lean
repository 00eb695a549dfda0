import Trustmee.Policy.Cpu
import Trustmee.Service.Broker

/-!
# The default policy on transformed claims

`transform_claims` puts the claims of the verifier under the name of the TEE, and beside them only
members that no rule of the default policy asks for (`table_of_platform`). So no two rules of a
trust claim are satisfied together, and the claims of the init data and of the runtime data make no
difference to any (`cpuPolicy_conflictFree`).
-/

namespace Trustmee.Policy

open Broker Rego

variable {B : Broker.Env}

/-! ## The policy's input -/

/-- The input that the policy engine reads: an object of the transformed claims, each with the value
that its raw value stands for. -/
def IsInput {C : Crate} (value : C.RawValue → Json) (tcbClaims : Table String C.RawValue)
    (input : Json) : Prop :=
  ∀ k, input.get k = (tcbClaims k).map value

/-- What the policy is evaluated over. A reference value that is not there is read as null. -/
def policyContext (compare : Json → Json → Ordering) (rvps : String → Option Json) (input : Json) :
    Context where
  input := input
  extension _ id := (rvps id).getD .null
  compare := compare

/-- The claims of the verifier that stand under the name of the TEE. -/
def teeMembers : Json → Json
  | .object m => .object (Json.Map.erase (Json.Map.erase m "init_data") "report_data")
  | v => v

theorem erase_of_none {m : Json.Map} {k : String} (h : Json.Map.get m k = none) :
    m.erase k = m := by
  induction m with
  | nil => rfl
  | cons p m ih =>
    obtain ⟨k', v⟩ := p
    rw [Json.Map.get_cons] at h
    split_ifs at h with hk
    have hrest : List.filter (fun p : String × Json => decide (p.1 ≠ k)) m = m := ih h
    rw [Json.Map.erase, List.filter_cons_of_pos (by simpa using Ne.symm hk), hrest]

/-- A claim that is moved leaves the claims, and adds members of two names. -/
theorem moveClaim_members {name claimsName : String} {behind : Json}
    {input output : Json.Map × Table String B.crate.RawValue}
    (h : moveClaim B name claimsName behind input = .ok output) :
    output.1 = input.1.erase name ∧
      ∀ k, k ≠ name → k ≠ claimsName → output.2 k = input.2 k := by
  rcases moveClaim_eq_ok h with ⟨hnone, rfl⟩ | ⟨text, raw, -, -, hmap, htable⟩
  · exact ⟨(erase_of_none hnone).symm, fun _ _ _ => rfl⟩
  · refine ⟨hmap, ?_⟩
    intro k hname hclaims
    rw [htable, Table.insert_of_ne _ _ hclaims, Table.insert_of_ne _ _ hname]

theorem moveClaims_members {claims initDataClaims runtimeDataClaims : Json}
    {moved : Json × Table String B.crate.RawValue}
    (h : moveClaims B claims initDataClaims runtimeDataClaims = .ok moved) :
    moved.1 = teeMembers claims ∧ ∀ k ∈ platforms, moved.2 k = none := by
  cases claims with
  | object m =>
    simp only [moveClaims, Outcome.bind_eq_ok, Outcome.pure_eq, Outcome.ok.injEq] at h
    obtain ⟨first, hfirst, second, hsecond, rfl⟩ := h
    obtain ⟨hmap, htable⟩ := moveClaim_members hfirst
    obtain ⟨hmap', htable'⟩ := moveClaim_members hsecond
    refine ⟨congrArg Json.object (hmap'.trans (by rw [hmap])), ?_⟩
    intro k hk
    have hne : ∀ p ∈ platforms, p ≠ "init_data" ∧ p ≠ "init_data_claims" ∧ p ≠ "report_data" ∧
        p ≠ "runtime_data_claims" := by decide
    obtain ⟨h₁, h₂, h₃, h₄⟩ := hne k hk
    exact (htable' k h₃ h₄).trans (htable k h₁ h₂)
  | _ =>
    cases h
    exact ⟨rfl, fun _ _ => rfl⟩

/-- The transformed claims have one member that the policy may ask for, the one of the TEE. -/
theorem table_of_platform {claims initDataClaims runtimeDataClaims : Json} {tee : Tee}
    {tcbClaims : Table String B.crate.RawValue}
    (h : transformClaims B claims initDataClaims runtimeDataClaims tee = .ok tcbClaims) :
    ∃ name raw, B.toVariantName tee = .ok name ∧
      B.crate.fromStr (teeMembers claims).print = .ok raw ∧
      ∀ k ∈ platforms, tcbClaims k = if k = name then some raw else none := by
  simp only [transformClaims, Outcome.bind_eq_ok, Outcome.ofExcept_eq_ok, Outcome.pure_eq,
    Outcome.ok.injEq] at h
  obtain ⟨moved, hmoved, raw, hraw, name, hname, rfl⟩ := h
  obtain ⟨hmembers, hnone⟩ := moveClaims_members hmoved
  rw [hmembers] at hraw
  refine ⟨name, raw, hname, hraw, ?_⟩
  intro k hk
  rw [Table.insert_apply, hnone k hk]

/-! ## One value for each trust claim -/

variable {compare : Json → Json → Ordering} {rvps : String → Option Json}
  {value : B.crate.RawValue → Json} {claims initDataClaims runtimeDataClaims : Json} {tee : Tee}
  {tcbClaims : Table String B.crate.RawValue} {input : Json}

/-- The transformed claims of one verifier's claims look the same to the policy, whatever claims of
the init data and of the runtime data stand beside them. -/
theorem sameAt_platforms {initDataClaims' runtimeDataClaims' : Json}
    {tcbClaims' : Table String B.crate.RawValue} {input' : Json}
    (h : transformClaims B claims initDataClaims runtimeDataClaims tee = .ok tcbClaims)
    (hinput : IsInput value tcbClaims input)
    (h' : transformClaims B claims initDataClaims' runtimeDataClaims' tee = .ok tcbClaims')
    (hinput' : IsInput value tcbClaims' input') :
    SameAt (platforms.map fun p => [p]) input input' := by
  obtain ⟨name, raw, hname, hraw, htable⟩ := table_of_platform h
  obtain ⟨name', raw', hname', hraw', htable'⟩ := table_of_platform h'
  rw [hname'] at hname
  cases hname
  rw [hraw'] at hraw
  cases hraw
  intro path hpath
  obtain ⟨k, hk, rfl⟩ := List.mem_map.1 hpath
  rw [follow, follow, hinput k, hinput' k, htable k hk, htable' k hk]

variable (compare rvps)

/-- On transformed claims, each trust claim that depends on the evidence receives one value. -/
theorem exists_assigns (h : transformClaims B claims initDataClaims runtimeDataClaims tee =
    .ok tcbClaims) (hinput : IsInput value tcbClaims input) {head : String}
    (hhead : head ∈ evidenceClaims) :
    ∃ v, cpuPolicy.Assigns (policyContext compare rvps input) head v := by
  obtain ⟨name, raw, -, -, htable⟩ := table_of_platform h
  obtain ⟨d, hdefault⟩ := exists_default_of_mem hhead
  have hguards := guards_of_mem hhead
  refine Policy.exists_assigns_of_only (k := name) ?_ ?_ ?_ hdefault
  · rw [hguards]
    decide
  · rw [hguards]
    decide
  · intro k hk hne
    rw [hguards, List.mem_map_of_injective (Option.some_injective _)] at hk
    have hnone : input.get k = none := by
      rw [hinput k, htable k hk, if_neg hne, Option.map_none]
    exact hnone

/-- **The default policy for CPUs has no conflict, and no unverified data steers it.** -/
theorem cpuPolicy_conflictFree
    (h : transformClaims B claims initDataClaims runtimeDataClaims tee = .ok tcbClaims)
    (hinput : IsInput value tcbClaims input) {head : String} (hhead : head ∈ evidenceClaims) :
    ∃ v, cpuPolicy.Assigns (policyContext compare rvps input) head v ∧
      ∀ initDataClaims' runtimeDataClaims' tcbClaims' input',
        transformClaims B claims initDataClaims' runtimeDataClaims' tee = .ok tcbClaims' →
          IsInput value tcbClaims' input' →
            cpuPolicy.Assigns (policyContext compare rvps input') head v := by
  obtain ⟨v, hv⟩ := exists_assigns compare rvps h hinput hhead
  refine ⟨v, hv, ?_⟩
  intro initDataClaims' runtimeDataClaims' tcbClaims' input' h' hinput'
  exact hv.congr (sameAt_platforms h hinput h' hinput') cpuPolicy_readsOnly

/-! ## The input for the claims of one TEE -/

/-- The claims of the TEE are the one member of the input that the policy may ask for. -/
structure IsTeeInput (name : String) (claims input : Json) : Prop where
  member : input.get name = some (teeMembers claims)
  others : ∀ k ∈ platforms, k ≠ name → input.get k = none

/-- Transformed claims are such an input, where the engine reads the claims as they are written. -/
theorem isTeeInput_of_transformClaims {name : String}
    (h : transformClaims B claims initDataClaims runtimeDataClaims tee = .ok tcbClaims)
    (hinput : IsInput value tcbClaims input) (hname : B.toVariantName tee = .ok name)
    (hplatform : name ∈ platforms)
    (hvalue : ∀ raw, B.crate.fromStr (teeMembers claims).print = .ok raw →
      value raw = teeMembers claims) : IsTeeInput name claims input := by
  obtain ⟨name', raw, hname', hraw, htable⟩ := table_of_platform h
  rw [hname'] at hname
  cases hname
  constructor
  · rw [hinput name, htable name hplatform, if_pos rfl, Option.map_some, hvalue raw hraw]
  · intro k hk hne
    rw [hinput k, htable k hk, if_neg hne, Option.map_none]

theorem isTeeInput_object (name : String) (claims : Json) :
    IsTeeInput name claims (.object [(name, teeMembers claims)]) := by
  constructor
  · rw [Json.get_object, Json.Map.get_cons, if_pos rfl]
  · intro k _ hne
    rw [Json.get_object, Json.Map.get_cons, if_neg hne, Json.Map.get_nil]

/-- Where the claims of a TEE are there, one rule decides on each trust claim. -/
theorem IsTeeInput.eval_eq {name : String} (h : IsTeeInput name claims input) {head : String}
    (hhead : head ∈ evidenceClaims) {rule : Rule} {d : Json}
    (hrule : ((cpuPolicy.rulesOf head).filter fun rule => rule.guard == some name) = [rule])
    (hdefault : Json.Map.get cpuPolicy.defaults head = some d) :
    cpuPolicy.eval (policyContext compare rvps input) head =
      .ok (some ((rule.eval (policyContext compare rvps input)
        (cpuPolicy.helper (policyContext compare rvps input))).getD d)) := by
  have hguards := guards_of_mem hhead
  refine Policy.eval_of_only ?_ ?_ hrule hdefault
  · rw [hguards]
    decide
  · intro k hk hne
    rw [hguards, List.mem_map_of_injective (Option.some_injective _)] at hk
    exact h.others k hk hne

/-! ## Claims of the sample TEE -/

def sampleMembers : Json := .object [("launch_digest", .string "abcde")]

def sampleClaims : Json := .object
  [("launch_digest", .string "abcde"), ("report_data", .string "bm9uY2U=")]

/-- Raw values as values, with a reader of the texts below. -/
def jsonCrate : Crate where
  RawValue := Json
  null := .null
  string := .string
  integer n := .number (.int n)
  fromStr text :=
    if text = "null" then .ok .null
    else if text = "true" then .ok (.bool true)
    else .ok sampleMembers
  toString _ := .error "unavailable"
  RawValueKind := Unit
  kind _ := ()
  TrustVector := Unit
  newTrustVector := ()
  setByName vector _ _ := some vector
  anySet _ := true
  TrustTier := Unit
  status _ := ()
  Extensions := Unit
  newExtensions := ()
  register extensions _ _ _ := .ok extensions
  setExtension extensions _ _ := .ok extensions

def jsonBroker : Broker.Env where
  crate := jsonCrate
  durationMin := 5
  developerName := "https://confidentialcontainers.org"
  buildName := "attestation-service 0.1.0"
  profileName := "tag:github.com,2024:confidential-containers/Trustee"
  toVariantName _ := .ok "sample"
  policyEngine _ _ := .error "unavailable"
  now := 1700000000
  checkedAdd now minutes := some (now + 60 * minutes)
  sign _ := .ok "token"
  overflowChecks := false

/-- The transformed claims, with the claims of the runtime data. -/
def sampleTable (runtimeDataClaims : Json) : Table String jsonCrate.RawValue :=
  ((Table.empty.insert "report_data" (.string "bm9uY2U=")).insert "runtime_data_claims"
    runtimeDataClaims).insert "sample" sampleMembers

def sampleInput (runtimeDataClaims : Json) : Json := .object
  [("report_data", .string "bm9uY2U="), ("runtime_data_claims", runtimeDataClaims),
   ("sample", sampleMembers)]

theorem transformClaims_sample {v : Json} (h : jsonCrate.fromStr v.print = .ok v) :
    transformClaims jsonBroker sampleClaims .null v .Sample = .ok (sampleTable v) :=
  transformClaims_object (moveClaim_of_none rfl) (moveClaim_of_string rfl h) rfl rfl

theorem isInput_sample (v : Json) : IsInput id (sampleTable v) (sampleInput v) := by
  intro k
  simp only [sampleInput, sampleTable, Json.get_object, Json.Map.get_cons, Table.insert_apply]
  by_cases hreport : k = "report_data"
  · subst hreport
    rfl
  · by_cases hruntime : k = "runtime_data_claims"
    · subst hruntime
      rfl
    · by_cases hsample : k = "sample"
      · subst hsample
        rfl
      · simp only [hreport, hruntime, hsample, if_false]
        rfl

/-- A reference value for the launch digest. -/
def sampleRvps (id : String) : Option Json :=
  if id = "launch_digest" then some (.array [.string "abcde"]) else none

/-- Texts are equal to themselves alone; no other values are compared below. -/
def compareTexts : Json → Json → Ordering
  | .string a, .string b => if a = b then .eq else .lt
  | _, _ => .lt

/-- The theorem at claims of the sample TEE, with other claims of the runtime data. -/
theorem cpuPolicy_conflictFree_example :
    ∃ v, cpuPolicy.Assigns (policyContext compareTexts sampleRvps (sampleInput .null))
        "executables" v ∧
      cpuPolicy.Assigns (policyContext compareTexts sampleRvps (sampleInput (.bool true)))
        "executables" v := by
  have hnull : transformClaims jsonBroker sampleClaims .null .null .Sample =
      .ok (sampleTable .null) := transformClaims_sample rfl
  have htrue : transformClaims jsonBroker sampleClaims .null (.bool true) .Sample =
      .ok (sampleTable (.bool true)) := transformClaims_sample rfl
  obtain ⟨v, hv, hother⟩ := cpuPolicy_conflictFree compareTexts sampleRvps hnull
    (isInput_sample .null) (show "executables" ∈ evidenceClaims from List.mem_cons_self)
  exact ⟨v, hv, hother _ _ _ _ htrue (isInput_sample (.bool true))⟩

example : cpuPolicy.eval (policyContext compareTexts sampleRvps (sampleInput .null)) "executables" =
    .ok (some (claimValue 3)) := by
  rfl

end Trustmee.Policy
