import Trustmee.Foundations.Rego
import Trustmee.Kbs.KeyBinding
import Trustmee.Kbs.SecretRelease
import Trustmee.Policy.Input
import Trustmee.Service.Submodules

/-!
# Resource policies on tokens

The resource policy that the KBS brings along, and the one that asks for affirming submodules, and
what they say of the tokens of the attestation service. The first one keeps out the sample TEE, and
it looks at one submodule: the first CPU. Evidence without a CPU, and a sample TEE that is not the
first CPU, are let in (`allowByDefault_iff`). The second one looks at all submodules, so it lets in
the tokens for which all evidence was appraised as affirming, as long as no submodule takes the
place of another (`allowAffirming_iff`).
-/

namespace Trustmee.Kbs

open Broker (Appraisal Ear TeeClaims WrittenBy classes)
open Rego (truthy elements)

/-! ## The policies -/

/-- `count(v)`. It is not defined for values that are no collection. -/
def count : Json → Option ℕ
  | .array l => some l.length
  | .object m => some m.length
  | .string s => some s.length
  | _ => none

/-- `allow` of `default_policy.rego`. -/
def allowByDefault (data input : Json) : Bool :=
  (data.get "plugin").any (fun plugin => plugin.asStr == some "resource") &&
    !(Rego.follow input ["submods", "cpu0", "ear.veraison.annotated-evidence", "sample"]).any truthy

/-- `any_not_affirming` of `affirming.rego`. -/
def anyNotAffirming (input : Json) : Bool :=
  ((input.get "submods").elim [] elements).any fun submod =>
    (submod.get "ear.status").any fun status => status.asStr != some "affirming"

/-- `allow` of `affirming.rego`. -/
def allowAffirming (input : Json) : Bool :=
  !anyNotAffirming input && ((input.get "submods").bind count).any (0 < ·)

/-! ## How a token is written -/

variable {C : Broker.Crate}

/-- What the `ear` crate writes for a token: its submodules and nothing else under `submods`, and
for each of them its status and its annotated evidence. -/
structure EarJson.Writes (R : EarJson C) (status : C.TrustTier → String) (ear : Ear C) : Prop where
  submods : ∃ m : Json.Map, (R.toJson ear).get "submods" = some (.object m) ∧
    ∀ name v, (name, v) ∈ m ↔
      ∃ appraisal, ear.submods name = some appraisal ∧ R.appraisalToJson appraisal = v
  status : ∀ name appraisal, ear.submods name = some appraisal →
    (R.appraisalToJson appraisal).get "ear.status" = some (.string (status appraisal.status))
  annotatedEvidence : ∀ name appraisal, ear.submods name = some appraisal → ∃ evidence : Json.Map,
    (R.appraisalToJson appraisal).get "ear.veraison.annotated-evidence" = some (.object evidence) ∧
      ∀ k v, (k, v) ∈ evidence ↔
        ∃ raw, appraisal.annotatedEvidence k = some raw ∧ R.rawToJson raw = v

theorem exists_get_of_mem {m : Json.Map} {k : String} {v : Json} (h : (k, v) ∈ m) :
    ∃ w, Json.Map.get m k = some w := by
  induction m with
  | nil => cases h
  | cons p m ih =>
    rw [Json.Map.get_cons]
    split
    · exact ⟨_, rfl⟩
    · next hk =>
      rcases List.mem_cons.1 h with rfl | h
      · exact absurd rfl hk
      · exact ih h

/-- A map with the members that a table gives. -/
theorem get_of_mem_iff {α : Type} {m : Json.Map} {t : Table String α} {f : α → Json}
    (h : ∀ k v, (k, v) ∈ m ↔ ∃ a, t k = some a ∧ f a = v) (k : String) :
    Json.Map.get m k = (t k).map f := by
  have hone : ∀ v w, (k, v) ∈ m → (k, w) ∈ m → v = w := by
    intro v w hv hw
    obtain ⟨a, ha, rfl⟩ := (h k v).1 hv
    obtain ⟨b, hb, rfl⟩ := (h k w).1 hw
    cases ha.symm.trans hb
    rfl
  have hget : ∀ v, Json.Map.get m k = some v ↔ (k, v) ∈ m := by
    intro v
    refine ⟨Json.Map.mem_of_get, fun hmem => ?_⟩
    obtain ⟨w, hw⟩ := exists_get_of_mem hmem
    rw [hw, hone w v (Json.Map.mem_of_get hw) hmem]
  ext v
  rw [hget, h, Option.map_eq_some_iff]

variable {R : EarJson C} {status : C.TrustTier → String} {ear : Ear C}

/-- The submodules of a written token. -/
theorem EarJson.Writes.get_submods (h : R.Writes status ear) : ∃ m : Json.Map,
    (R.toJson ear).get "submods" = some (.object m) ∧
      (∀ v, v ∈ elements (.object m) ↔
        ∃ name appraisal, ear.submods name = some appraisal ∧ R.appraisalToJson appraisal = v) ∧
      ∀ name, Json.Map.get m name = (ear.submods name).map R.appraisalToJson := by
  obtain ⟨m, hm, hmem⟩ := h.submods
  refine ⟨m, hm, fun v => ?_, get_of_mem_iff hmem⟩
  simp only [elements, List.mem_map, Prod.exists, exists_eq_right, hmem]

/-- The annotated evidence of a submodule of a written token. -/
theorem EarJson.Writes.get_annotatedEvidence (h : R.Writes status ear) {name : String}
    {appraisal : Appraisal C} (hname : ear.submods name = some appraisal) : ∃ evidence : Json.Map,
    (R.appraisalToJson appraisal).get "ear.veraison.annotated-evidence" = some (.object evidence) ∧
      ∀ k, Json.Map.get evidence k = (appraisal.annotatedEvidence k).map R.rawToJson := by
  obtain ⟨evidence, hevidence, hmem⟩ := h.annotatedEvidence name appraisal hname
  exact ⟨evidence, hevidence, get_of_mem_iff hmem⟩

/-! ## The default policy -/

variable {B : Broker.Env}

/-- The claims that stand under the name of the sample TEE. -/
theorem annotatedEvidence_sample {policyId : String} {piece : TeeClaims}
    {appraisal : Appraisal B.crate} (h : Broker.appraise B policyId piece = .ok appraisal) :
    (B.toVariantName piece.tee = .ok "sample" ∧ ∃ raw,
        B.crate.fromStr (Policy.teeMembers piece.claims).print = .ok raw ∧
          appraisal.annotatedEvidence "sample" = some raw) ∨
      (B.toVariantName piece.tee ≠ .ok "sample" ∧ appraisal.annotatedEvidence "sample" = none) := by
  obtain ⟨name, raw, hname, hraw, htable⟩ :=
    Policy.table_of_platform (Broker.appraise_annotatedEvidence h)
  rw [htable "sample" (by decide), hname]
  by_cases hsample : "sample" = name
  · subst hsample
    exact .inl ⟨rfl, raw, hraw, if_pos rfl⟩
  · exact .inr ⟨fun heq => hsample (Except.ok.inj heq).symm, if_neg hsample⟩

variable {R : EarJson B.crate} {status : B.crate.TrustTier → String} {ear : Ear B.crate}
  {pieces : List TeeClaims} {policyIds : List String}

/-- What the policy finds of the sample TEE in a token. -/
theorem follow_sample (hwrites : R.Writes status ear) :
    Rego.follow (R.toJson ear) ["submods", "cpu0", "ear.veraison.annotated-evidence", "sample"] =
      (ear.submods "cpu0").bind fun appraisal =>
        (appraisal.annotatedEvidence "sample").map R.rawToJson := by
  obtain ⟨m, hm, -, hget⟩ := hwrites.get_submods
  rw [Rego.follow, hm, Option.bind_some, Rego.follow, Json.get_object, hget "cpu0"]
  cases hcpu : ear.submods "cpu0" with
  | none => rfl
  | some appraisal =>
    obtain ⟨evidence, hevidence, hclaims⟩ := hwrites.get_annotatedEvidence hcpu
    rw [Option.map_some, Option.bind_some, Rego.follow, hevidence, Option.bind_some, Rego.follow,
      Json.get_object, hclaims "sample", Option.bind_some]
    cases appraisal.annotatedEvidence "sample" with
    | none => rfl
    | some raw => rfl

/-- The piece is one of the sample TEE for the policy, which asks `not` of its claims: they are
anything but `false`. -/
def TakenAsSample (R : EarJson B.crate) (piece : TeeClaims) : Prop :=
  B.toVariantName piece.tee = .ok "sample" ∧ ∃ raw,
    B.crate.fromStr (Policy.teeMembers piece.claims).print = .ok raw ∧
      truthy (R.rawToJson raw) = true

/-- The submodule of the first CPU is not one of the sample TEE. -/
def NoSampleCpu (R : EarJson B.crate) (pieces : List TeeClaims) : Prop :=
  ∀ i piece, WrittenBy (classes pieces) "cpu0" i → pieces[i]? = some piece → ¬ TakenAsSample R piece

/-- Up to 256 pieces of a class, the submodule of the first CPU is the one of the first piece of a
CPU. -/
theorem writtenBy_cpu0_iff {cs : List String} (hclass : ∀ c ∈ cs, ¬ EndsInDigit c)
    (hcount : ∀ c, cs.count c ≤ 256) {i : ℕ} :
    WrittenBy cs "cpu0" i ↔ cs[i]? = some "cpu" ∧ "cpu" ∉ cs.take i := by
  have hcpu : numbered "cpu" 0 = "cpu0" := by decide
  have hname : Broker.submoduleName cs i = some "cpu0" ↔
      cs[i]? = some "cpu" ∧ "cpu" ∉ cs.take i := by
    rw [Broker.submoduleName_eq_some]
    constructor
    · rintro ⟨c, hc, hnumbered⟩
      rw [← hcpu] at hnumbered
      have hdigit : ¬ EndsInDigit "cpu" := by decide
      obtain ⟨rfl, hzero⟩ :=
        numbered_injective (hclass c (List.mem_of_getElem? hc)) hdigit hnumbered
      have hlt := (rank_lt_count (rank_eq_some.2 ⟨hc, rfl⟩)).trans_le (hcount "cpu")
      rw [Nat.mod_eq_of_lt hlt] at hzero
      exact ⟨hc, List.count_eq_zero.1 hzero⟩
    · rintro ⟨hc, hnone⟩
      refine ⟨"cpu", hc, ?_⟩
      rw [List.count_eq_zero.2 hnone]
      exact hcpu
  rw [WrittenBy, hname]
  refine and_iff_left_of_imp fun h j hij hj => ?_
  have := Broker.submoduleName_injective hclass hcount (hname.2 h) hj
  omega

/-- **Whom the default policy lets in**: those who ask for a resource, unless the submodule of the
first CPU is one of the sample TEE. Up to 256 pieces of a class this is the first piece of a CPU, so
evidence without a CPU is let in. -/
theorem allowByDefault_iff (hear : Broker.unsignedEar B pieces policyIds = .ok ear)
    (hwrites : R.Writes status ear) (plugin : String) (rest : List String) (query : Query) :
    (allowByDefault (policyData plugin rest query) (R.toJson ear) = true ↔
      plugin = "resource" ∧ NoSampleCpu R pieces) ∧
    ((∀ c ∈ classes pieces, ¬ EndsInDigit c) → (∀ c, (classes pieces).count c ≤ 256) →
      (NoSampleCpu R pieces ↔ ∀ before piece after, pieces = before ++ piece :: after →
        piece.teeClass = "cpu" → (∀ p ∈ before, p.teeClass ≠ "cpu") → ¬ TakenAsSample R piece)) := by
  constructor
  · obtain ⟨policyId, -, hloop⟩ := Broker.appraiseAll_of_unsignedEar hear
    have hplugin : (policyData plugin rest query).get "plugin" = some (.string plugin) :=
      (ApiServer.get_policyData rest query).1
    rw [allowByDefault, hplugin, Bool.and_eq_true, follow_sample hwrites]
    refine and_congr (by simp [Json.asStr]) ?_
    rw [Bool.not_eq_true']
    constructor
    · rintro hnone i piece hwritten hpiece ⟨hsample, raw, hread, htruthy⟩
      have hmem := List.mem_of_getElem? hpiece
      obtain ⟨appraisal, happraise⟩ := Broker.exists_appraise hloop hmem
      have hcpu := (Broker.appraiseAll_eq_some hloop).2 ⟨i, piece, hwritten, hpiece, happraise⟩
      rcases annotatedEvidence_sample happraise with ⟨-, raw', hraw, hevidence⟩ | ⟨hother, -⟩
      · cases hread.symm.trans hraw
        rw [hcpu, Option.bind_some, hevidence, Option.map_some, Option.any_some, htruthy] at hnone
        cases hnone
      · exact hother hsample
    · intro hnone
      cases hcpu : ear.submods "cpu0" with
      | none => rfl
      | some appraisal =>
        obtain ⟨i, piece, hwritten, hpiece, happraise⟩ := (Broker.appraiseAll_eq_some hloop).1 hcpu
        rcases annotatedEvidence_sample happraise with ⟨hsample, raw, hraw, hevidence⟩ |
          ⟨-, hevidence⟩
        · rw [Option.bind_some, hevidence, Option.map_some, Option.any_some, ← Bool.not_eq_true]
          exact fun htruthy => hnone i piece hwritten hpiece ⟨hsample, raw, hraw, htruthy⟩
        · rw [Option.bind_some, hevidence]
          rfl
  · intro hclass hcount
    constructor
    · rintro hnone before piece after rfl hcpu hbefore
      refine hnone before.length piece ((writtenBy_cpu0_iff hclass hcount).2 ⟨?_, ?_⟩) (by simp)
      · simp [classes, hcpu]
      · rw [classes, List.map_append, List.take_left' (List.length_map _), List.mem_map]
        rintro ⟨p, hp, hclassOf⟩
        exact hbefore p hp hclassOf
    · intro hfirst i piece hwritten hpiece
      obtain ⟨hcpu, hbefore⟩ := (writtenBy_cpu0_iff hclass hcount).1 hwritten
      rw [classes, List.getElem?_map, hpiece, Option.map_some, Option.some.injEq] at hcpu
      obtain ⟨hi, hget⟩ := List.getElem?_eq_some_iff.1 hpiece
      refine hfirst (pieces.take i) piece (pieces.drop (i + 1)) ?_ hcpu fun p hp hclassOf => ?_
      · rw [← hget, List.getElem_cons_drop, List.take_append_drop]
      · refine hbefore ?_
        rw [classes, ← List.map_take, ← hclassOf]
        exact List.mem_map_of_mem hp

/-! ## A token of two devices -/

open Broker (exampleTeeClaims)
open AttestationService (exampleBroker exampleCrate)

/-- A broker whose policy affirms the executables of any evidence, but for the one policy
identifier for which it warns of them. -/
abbrev warningBroker (warned : String) : Broker.Env :=
  { exampleBroker with
    toVariantName := fun tee =>
      if tee = .SampleDevice then .ok "sampledevice" else exampleBroker.toVariantName tee
    policyEngine := fun _ policyId => .ok ⟨.object [("executables",
      .number (.int (if policyId = warned then 33 else 3)))], []⟩ }

/-- A sample TEE and its sample device. -/
def devicePieces : List TeeClaims :=
  [exampleTeeClaims, ⟨.SampleDevice, "gpu", .object [], .null, .null⟩]

/-- The names of the tiers. -/
def tierName (tier : ℕ) : String :=
  if tier = 0 then "none" else if tier = 2 then "affirming" else if tier = 32 then "warning"
  else "contraindicated"

/-- The token of the two pieces, with their status and their evidence. -/
def tokenJson : EarJson exampleCrate where
  toJson ear := .object [("submods", .object (["cpu0", "gpu0"].filterMap fun name =>
    (ear.submods name).map fun appraisal => (name, .object
      [("ear.status", .string (tierName appraisal.status)),
      ("ear.veraison.annotated-evidence", .object (["sample", "sampledevice"].filterMap fun k =>
        (appraisal.annotatedEvidence k).map fun _ => (k, .object [])))])))]
  appraisalToJson appraisal := .object [("ear.status", .string (tierName appraisal.status)),
    ("ear.veraison.annotated-evidence", .object (["sample", "sampledevice"].filterMap fun k =>
      (appraisal.annotatedEvidence k).map fun _ => (k, .object [])))]
  rawToJson _ := .object []

/-- The members of a map with some names. -/
theorem mem_filterMap_names {α : Type} {names : List String} {name : String} {t : Table String α}
    {f : α → Json} {v : Json} (hnames : ∀ k a, t k = some a → k ∈ names) :
    (name, v) ∈ names.filterMap (fun k => (t k).map fun a => (k, f a)) ↔
      ∃ a, t name = some a ∧ f a = v := by
  constructor
  · intro h
    obtain ⟨k, -, hk⟩ := List.mem_filterMap.1 h
    obtain ⟨a, ha, heq⟩ := Option.map_eq_some_iff.1 hk
    cases heq
    exact ⟨a, ha, rfl⟩
  · rintro ⟨a, ha, rfl⟩
    exact List.mem_filterMap.2 ⟨name, hnames name a ha, by rw [ha, Option.map_some]⟩

/-- Claims without members stand under the name of their TEE. -/
theorem transformClaims_empty (warned : String) {tee : Tee} {name : String}
    (hname : (warningBroker warned).toVariantName tee = .ok name) :
    ∃ raw, Broker.transformClaims (warningBroker warned) (.object []) .null .null tee =
      .ok (Table.empty.insert name raw) :=
  ⟨_, Broker.transformClaims_object (Broker.moveClaim_of_none rfl) (Broker.moveClaim_of_none rfl)
    rfl hname⟩

/-- What the broker makes of the two pieces. -/
theorem transformClaims_devicePieces (warned : String) {piece : TeeClaims}
    (hpiece : piece ∈ devicePieces) : ∃ name ∈ ["sample", "sampledevice"], ∃ raw,
      Broker.transformClaims (warningBroker warned) piece.claims piece.initDataClaims
        piece.runtimeDataClaims piece.tee = .ok (Table.empty.insert name raw) := by
  have hcases : piece = exampleTeeClaims ∨
      piece = ⟨.SampleDevice, "gpu", .object [], .null, .null⟩ := by
    simpa [devicePieces] using hpiece
  rcases hcases with rfl | rfl
  · exact ⟨"sample", List.mem_cons_self, transformClaims_empty warned rfl⟩
  · exact ⟨"sampledevice", List.mem_cons_of_mem _ List.mem_cons_self,
      transformClaims_empty warned rfl⟩

theorem tokenJson_writes {warned : String} {ear : Ear exampleCrate}
    (hear : Broker.unsignedEar (warningBroker warned) devicePieces ["default"] = .ok ear) :
    tokenJson.Writes tierName ear := by
  obtain ⟨_, -, hloop⟩ := Broker.appraiseAll_of_unsignedEar hear
  have hsubmod : ∀ name appraisal, ear.submods name = some appraisal → name ∈ ["cpu0", "gpu0"] := by
    intro name appraisal hname
    obtain ⟨i, piece, hwritten, hpiece, -⟩ := (Broker.appraiseAll_eq_some hloop).1 hname
    obtain ⟨c, hc, rfl⟩ := Broker.submoduleName_eq_some.1 hwritten.1
    rcases i with _ | _ | i
    · cases hc
      exact List.mem_cons_self
    · cases hc
      exact List.mem_cons_of_mem _ List.mem_cons_self
    · cases hpiece
  have hevidence : ∀ name appraisal, ear.submods name = some appraisal →
      ∀ k raw, appraisal.annotatedEvidence k = some raw → k ∈ ["sample", "sampledevice"] := by
    intro name appraisal hname k raw hraw
    obtain ⟨piece, hmem, htransform⟩ := Broker.unsignedEar_eq_ok hear hname
    obtain ⟨variant, hvariant, value, htable⟩ := transformClaims_devicePieces warned hmem
    rw [← Outcome.ok.inj (htable.symm.trans htransform)] at hraw
    rcases Table.insert_eq_some hraw with ⟨rfl, -⟩ | ⟨-, hempty⟩
    · exact hvariant
    · cases hempty
  refine ⟨⟨_, rfl, fun name v => ?_⟩, fun _ _ _ => rfl, fun name appraisal hname =>
    ⟨_, rfl, fun k v => ?_⟩⟩
  · exact mem_filterMap_names hsubmod
  · exact mem_filterMap_names (hevidence name appraisal hname)

/-- How the two pieces are appraised. -/
theorem appraise_devicePieces (warned : String) {piece : TeeClaims} (hpiece : piece ∈ devicePieces) :
    ∃ appraisal, Broker.appraise (warningBroker warned) "default" piece = .ok appraisal ∧
      tierName appraisal.status =
        if "default" ++ "_" ++ piece.teeClass = warned then "warning" else "affirming" := by
  obtain ⟨name, -, raw, ht⟩ := transformClaims_devicePieces warned hpiece
  simp only [Broker.appraise, ht, Outcome.ok_bind]
  by_cases hwarned : "default" ++ "_" ++ piece.teeClass = warned
  · simp only [warningBroker, hwarned, if_true]
    exact ⟨_, rfl, rfl⟩
  · simp only [warningBroker, hwarned, if_false]
    exact ⟨_, rfl, rfl⟩

/-- The token of the two pieces. -/
theorem exists_deviceToken (warned : String) : ∃ ear,
    Broker.unsignedEar (warningBroker warned) devicePieces ["default"] = .ok ear := by
  have happraise : ∀ piece ∈ devicePieces,
      ∃ a, Broker.appraise (warningBroker warned) "default" piece = .ok a := by
    intro piece hmem
    obtain ⟨a, ha, -⟩ := appraise_devicePieces warned hmem
    exact ⟨a, ha⟩
  obtain ⟨result, hresult⟩ := Broker.exists_appraiseAll (B := warningBroker warned) rfl happraise
    Table.empty Table.empty
  simp only [Broker.unsignedEar, hresult, Outcome.ok_bind]
  exact ⟨_, rfl⟩

theorem classes_devicePieces : classes devicePieces = ["cpu", "gpu"] := rfl

theorem not_endsInDigit_devicePieces : ∀ c ∈ classes devicePieces, ¬ EndsInDigit c := by
  rw [classes_devicePieces]
  decide

theorem count_devicePieces (c : String) : (classes devicePieces).count c ≤ 256 :=
  List.count_le_length.trans (by decide)

/-- The sample TEE is kept out. -/
theorem allowByDefault_iff_example : ∃ ear,
    Broker.unsignedEar (warningBroker "") devicePieces ["default"] = .ok ear ∧
      allowByDefault (policyData "resource" ["a", "b", "c"] ⟨[], List.nodup_nil⟩)
        (tokenJson.toJson ear) = false := by
  obtain ⟨ear, hear⟩ := exists_deviceToken ""
  obtain ⟨hiff, hfirst⟩ := allowByDefault_iff hear (tokenJson_writes hear) "resource"
    ["a", "b", "c"] ⟨[], List.nodup_nil⟩
  refine ⟨ear, hear, Bool.eq_false_iff.2 fun hallow => ?_⟩
  have hnone := (hfirst not_endsInDigit_devicePieces count_devicePieces).1 (hiff.1 hallow).2 []
    exampleTeeClaims _ rfl rfl (by simp)
  exact hnone ⟨rfl, _, rfl, rfl⟩

/-! ## Affirming submodules -/

/-- A token whose submodules are all affirming, of which there is one. -/
theorem allowAffirming_eq_true (hwrites : R.Writes status ear) :
    allowAffirming (R.toJson ear) = true ↔
      (∃ name appraisal, ear.submods name = some appraisal) ∧
        ∀ name appraisal, ear.submods name = some appraisal →
          status appraisal.status = "affirming" := by
  obtain ⟨m, hm, hmem, -⟩ := hwrites.get_submods
  rw [allowAffirming, anyNotAffirming, hm, Option.elim_some, Option.bind_some, Bool.and_eq_true,
    Bool.not_eq_true', List.any_eq_false, and_comm]
  refine and_congr ?_ ⟨fun h name appraisal hname => ?_, fun h v hv => ?_⟩
  · rw [count, Option.any_some, decide_eq_true_eq, List.length_pos_iff_exists_mem]
    constructor
    · rintro ⟨p, hp⟩
      obtain ⟨name, appraisal, hname, -⟩ := (hmem p.2).1 (List.mem_map_of_mem hp)
      exact ⟨name, appraisal, hname⟩
    · rintro ⟨name, appraisal, hname⟩
      obtain ⟨p, hp, -⟩ := List.mem_map.1 ((hmem _).2 ⟨name, appraisal, hname, rfl⟩)
      exact ⟨p, hp⟩
  · have hv := h _ ((hmem _).2 ⟨name, appraisal, hname, rfl⟩)
    simpa [hwrites.status name appraisal hname, Json.asStr] using hv
  · obtain ⟨name, appraisal, hname, rfl⟩ := (hmem v).1 hv
    simp [hwrites.status name appraisal hname, Json.asStr, h name appraisal hname]

/-- The piece is appraised as affirming. -/
def Affirmed (B : Broker.Env) (status : B.crate.TrustTier → String) (policyIds : List String)
    (piece : TeeClaims) : Prop :=
  ∃ policyId appraisal, policyIds.head? = some policyId ∧
    Broker.appraise B policyId piece = .ok appraisal ∧ status appraisal.status = "affirming"

theorem exists_submoduleName {cs : List String} {i : ℕ} (h : i < cs.length) :
    ∃ name, Broker.submoduleName cs i = some name :=
  ⟨_, Broker.submoduleName_eq_some.2 ⟨cs[i], List.getElem?_eq_getElem h, rfl⟩⟩

theorem lt_of_submoduleName {cs : List String} {i : ℕ} {name : String}
    (h : Broker.submoduleName cs i = some name) : i < cs.length := by
  obtain ⟨c, hc, -⟩ := Broker.submoduleName_eq_some.1 h
  exact (List.getElem?_eq_some_iff.1 hc).1

/-- The last piece has a submodule. -/
theorem exists_writtenBy_last {cs : List String} (h : cs ≠ []) :
    ∃ name, WrittenBy cs name (cs.length - 1) := by
  have hpos := List.length_pos_iff.2 h
  obtain ⟨name, hname⟩ := exists_submoduleName (show cs.length - 1 < cs.length by omega)
  refine ⟨name, hname, fun j hj hname' => ?_⟩
  have := lt_of_submoduleName hname'
  omega

/-- Up to 256 pieces of a class, each piece has a submodule. -/
theorem exists_writtenBy {cs : List String} (hclass : ∀ c ∈ cs, ¬ EndsInDigit c)
    (hcount : ∀ c, cs.count c ≤ 256) {i : ℕ} (h : i < cs.length) : ∃ name, WrittenBy cs name i := by
  obtain ⟨name, hname⟩ := exists_submoduleName h
  refine ⟨name, hname, fun j hj hname' => ?_⟩
  have := Broker.submoduleName_injective hclass hcount hname hname'
  omega

/-- **Whom the affirming policy lets in**: those with evidence that is affirmed, wherever it has the
last submodule of its name. Up to 256 pieces of a class this is all evidence. -/
theorem allowAffirming_iff (hear : Broker.unsignedEar B pieces policyIds = .ok ear)
    (hwrites : R.Writes status ear) :
    (allowAffirming (R.toJson ear) = true ↔ pieces ≠ [] ∧ ∀ i piece name,
      WrittenBy (classes pieces) name i → pieces[i]? = some piece →
        Affirmed B status policyIds piece) ∧
    ((∀ c ∈ classes pieces, ¬ EndsInDigit c) → (∀ c, (classes pieces).count c ≤ 256) →
      (allowAffirming (R.toJson ear) = true ↔
        pieces ≠ [] ∧ ∀ piece ∈ pieces, Affirmed B status policyIds piece)) := by
  obtain ⟨policyId, hpolicy, hloop⟩ := Broker.appraiseAll_of_unsignedEar hear
  have hsome : (∃ name appraisal, ear.submods name = some appraisal) ↔ pieces ≠ [] := by
    constructor
    · rintro ⟨name, appraisal, hname⟩ rfl
      obtain ⟨i, piece, -, hpiece, -⟩ := (Broker.appraiseAll_eq_some hloop).1 hname
      cases hpiece
    · intro hne
      obtain ⟨name, hwritten⟩ := exists_writtenBy_last (show classes pieces ≠ [] by simpa [classes])
      have hlt := lt_of_submoduleName hwritten.1
      rw [classes, List.length_map] at hlt hwritten
      obtain ⟨appraisal, happraise⟩ := Broker.exists_appraise hloop (List.getElem_mem hlt)
      exact ⟨name, appraisal, (Broker.appraiseAll_eq_some hloop).2
        ⟨_, _, hwritten, List.getElem?_eq_getElem hlt, happraise⟩⟩
  have hall : (∀ name appraisal, ear.submods name = some appraisal →
        status appraisal.status = "affirming") ↔
      ∀ i piece name, WrittenBy (classes pieces) name i → pieces[i]? = some piece →
        Affirmed B status policyIds piece := by
    constructor
    · intro h i piece name hwritten hpiece
      obtain ⟨appraisal, happraise⟩ := Broker.exists_appraise hloop (List.mem_of_getElem? hpiece)
      exact ⟨policyId, appraisal, hpolicy, happraise, h name appraisal
        ((Broker.appraiseAll_eq_some hloop).2 ⟨i, piece, hwritten, hpiece, happraise⟩)⟩
    · intro h name appraisal hname
      obtain ⟨i, piece, hwritten, hpiece, happraise⟩ := (Broker.appraiseAll_eq_some hloop).1 hname
      obtain ⟨policyId', appraisal', hpolicy', happraise', haffirming⟩ :=
        h i piece name hwritten hpiece
      cases hpolicy.symm.trans hpolicy'
      cases happraise.symm.trans happraise'
      exact haffirming
  have hiff : allowAffirming (R.toJson ear) = true ↔ pieces ≠ [] ∧ ∀ i piece name,
      WrittenBy (classes pieces) name i → pieces[i]? = some piece →
        Affirmed B status policyIds piece := by
    rw [allowAffirming_eq_true hwrites, hsome, hall]
  refine ⟨hiff, fun hclass hcount => hiff.trans (and_congr_right fun _ => ?_)⟩
  constructor
  · intro h piece hmem
    obtain ⟨i, hi⟩ := List.getElem?_of_mem hmem
    have hlt : i < (classes pieces).length := by
      rw [classes, List.length_map]
      exact (List.getElem?_eq_some_iff.1 hi).1
    obtain ⟨name, hwritten⟩ := exists_writtenBy hclass hcount hlt
    exact h i piece name hwritten hi
  · intro h i piece name _ hpiece
    exact h piece (List.mem_of_getElem? hpiece)

/-- A token is let in where both pieces are affirmed, and kept out where the device is warned
of. -/
theorem allowAffirming_iff_example : ∃ affirmed warned,
    Broker.unsignedEar (warningBroker "") devicePieces ["default"] = .ok affirmed ∧
      allowAffirming (tokenJson.toJson affirmed) = true ∧
    Broker.unsignedEar (warningBroker "default_gpu") devicePieces ["default"] = .ok warned ∧
      allowAffirming (tokenJson.toJson warned) = false := by
  obtain ⟨affirmed, haffirmed⟩ := exists_deviceToken ""
  obtain ⟨warned, hwarned⟩ := exists_deviceToken "default_gpu"
  refine ⟨affirmed, warned, haffirmed, ?_, hwarned, Bool.eq_false_iff.2 fun hallow => ?_⟩
  · refine ((allowAffirming_iff haffirmed (tokenJson_writes haffirmed)).2
      not_endsInDigit_devicePieces count_devicePieces).2 ⟨by simp [devicePieces], ?_⟩
    intro piece hmem
    obtain ⟨appraisal, happraise, hstatus⟩ := appraise_devicePieces "" hmem
    exact ⟨"default", appraisal, rfl, happraise, by rw [hstatus, if_neg (by simp)]⟩
  · obtain ⟨-, hall⟩ := ((allowAffirming_iff hwarned (tokenJson_writes hwarned)).2
      not_endsInDigit_devicePieces count_devicePieces).1 hallow
    have hdevice : ⟨.SampleDevice, "gpu", .object [], .null, .null⟩ ∈ devicePieces := by
      simp [devicePieces]
    obtain ⟨policyId, appraisal, hpolicy, happraise, hstatus⟩ := hall _ hdevice
    obtain ⟨appraisal', happraise', hstatus'⟩ := appraise_devicePieces "default_gpu" hdevice
    cases hpolicy
    cases happraise.symm.trans happraise'
    rw [hstatus, if_pos (by decide)] at hstatus'
    exact absurd hstatus' (by decide)

end Trustmee.Kbs
