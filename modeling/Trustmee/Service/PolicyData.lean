import Trustmee.Foundations.RegoText
import Trustmee.Service.Request

/-!
# The policy data of init data

`extract_policy_data` looks for the first `policy_data := {` in the text of a policy, wherever it
stands, and reads what follows to the end of the file as JSON. What it finds is what the policy
binds `policy_data` to exactly when that first place is the head of a rule and no other rule has
this name (`bindsPolicyData_iff`). The claims of init data name it `agent_policy_claims`, and so
does a member that the init data itself gives that name (`agentPolicyClaims_iff`).
-/

namespace Trustmee

/-! ## JSON texts -/

/-- A JSON text has no words but `true`, `false` and `null`, and no string goes over a line: no line
of it begins with a letter of another word. -/
def SerdeJson.RefusesWords (serde : SerdeJson) : Prop :=
  ∀ a ws b c v, (∀ w ∈ ws, w ∈ RegoText.blanks) → c.isAlpha = true → c ∉ ['t', 'f', 'n'] →
    serde.fromStr .ok (String.ofList (a ++ '\n' :: ws ++ c :: b)) ≠ .ok v

/-- A JSON text that begins with a brace is an object. -/
def SerdeJson.ReadsObjects (serde : SerdeJson) : Prop :=
  ∀ text v, serde.fromStr .ok (String.ofList ('{' :: text)) = .ok v → v.IsObject

namespace AttestationService

open RegoText

/-! ## The first place of a pattern -/

/-- The pattern first stands in a text between these parts. -/
structure FirstAt (pattern text before found : List Char) : Prop where
  split : text = before ++ found
  starts : pattern <+: found
  first : ∀ b r, text = b ++ r → pattern <+: r → before.length ≤ b.length

theorem findPattern_eq_some_iff {pattern text found : List Char} (hpattern : pattern ≠ []) :
    findPattern pattern text = some found ↔ ∃ before, FirstAt pattern text before found := by
  induction text with
  | nil =>
    refine iff_of_false nofun ?_
    rintro ⟨before, hsplit, hstarts, -⟩
    obtain ⟨-, rfl⟩ := List.append_eq_nil_iff.1 hsplit.symm
    exact hpattern (List.prefix_nil.1 hstarts)
  | cons c text ih =>
    rw [findPattern]
    split
    · next hprefix =>
      have hhere : pattern <+: c :: text := List.isPrefixOf_iff_prefix.1 hprefix
      constructor
      · intro h
        cases h
        exact ⟨[], rfl, hhere, fun _ _ _ _ => Nat.zero_le _⟩
      · rintro ⟨before, hsplit, -, hfirst⟩
        have hnil : before = [] := List.length_eq_zero_iff.1 (Nat.le_zero.1 (hfirst [] _ rfl hhere))
        rw [hsplit, hnil]
        rfl
    · next hprefix =>
      have hhere : ¬ pattern <+: c :: text := fun h =>
        hprefix (List.isPrefixOf_iff_prefix.2 h)
      rw [ih]
      constructor
      · rintro ⟨before, hsplit, hstarts, hfirst⟩
        refine ⟨c :: before, by rw [hsplit, List.cons_append], hstarts, fun b r hbr hr => ?_⟩
        cases b with
        | nil =>
          rw [List.nil_append] at hbr
          exact absurd (hbr ▸ hr) hhere
        | cons d b =>
          rw [List.cons_append, List.cons.injEq] at hbr
          exact Nat.succ_le_succ (hfirst b r hbr.2 hr)
      · rintro ⟨before, hsplit, hstarts, hfirst⟩
        cases before with
        | nil => exact absurd (by rw [hsplit]; exact hstarts) hhere
        | cons d before =>
          rw [List.cons_append, List.cons.injEq] at hsplit
          refine ⟨before, hsplit.2, hstarts, fun b r hbr hr => ?_⟩
          exact Nat.le_of_succ_le_succ (hfirst (c :: b) r (by rw [hbr, List.cons_append]) hr)

variable (D : DataEnv)

/-- The text of a policy has JSON after the first place of the pattern, to its end. -/
def ReadsPolicyData (regoContent : String) (v : Json) : Prop :=
  ∃ before found, FirstAt startPattern.toList regoContent.toList before found ∧
    D.serde.fromStr .ok (String.ofList (found.drop (startPattern.length - 1))) = .ok v

theorem extractPolicyData_eq_some {regoContent : String} {v : Json} :
    extractPolicyData D regoContent = some v ↔ ReadsPolicyData D regoContent v := by
  have hpattern : startPattern.toList ≠ [] := by decide
  unfold extractPolicyData ReadsPolicyData
  cases hfind : findPattern startPattern.toList regoContent.toList with
  | none =>
    refine iff_of_false (Option.some_ne_none v).symm ?_
    rintro ⟨before, found, hfirst, -⟩
    rw [(findPattern_eq_some_iff hpattern).2 ⟨before, hfirst⟩] at hfind
    cases hfind
  | some found =>
    obtain ⟨before, hfirst⟩ := (findPattern_eq_some_iff hpattern).1 hfind
    constructor
    · intro h
      refine ⟨before, found, hfirst, ?_⟩
      cases hread : D.serde.fromStr .ok
          (String.ofList (found.drop (startPattern.length - 1))) with
      | ok v' => simpa [hread] using h
      | error message => simp [hread] at h
    · rintro ⟨before', found', hfirst', h⟩
      have hfind' := (findPattern_eq_some_iff hpattern).2 ⟨before', hfirst'⟩
      rw [hfind, Option.some.injEq] at hfind'
      subst hfind'
      simp [h]

/-! ## What a policy binds -/

def policyDataName : List Char := "policy_data".toList

/-- The policy binds `policy_data` to a value: it has a definition `policy_data := {…}` with the
value's JSON, and no other rule of that name. -/
def BindsPolicyData (regoContent : String) (v : Json) : Prop :=
  ∃ before rest, regoContent.toList = before ++ rest ∧ HeadsAt policyDataName before rest ∧
    (∃ object after, rest = "policy_data := ".toList ++ '{' :: object ++ after ∧
      D.serde.fromStr .ok (String.ofList ('{' :: object)) = .ok v) ∧
    ∀ before' rest', regoContent.toList = before' ++ rest' → HeadsAt policyDataName before' rest' →
      before' = before

/-- Where JSON follows the first place of the pattern, that place is the head of a rule, and no
other rule has its name. -/
def DeclaredFirst (regoContent : String) : Prop :=
  ∀ before found v, FirstAt startPattern.toList regoContent.toList before found →
    D.serde.fromStr .ok (String.ofList (found.drop (startPattern.length - 1))) = .ok v →
    HeadsAt policyDataName before found ∧
      ∀ before' rest', regoContent.toList = before' ++ rest' →
        HeadsAt policyDataName before' rest' → before' = before

/-- What begins with the pattern is the name, and an object. -/
theorem exists_object_of_prefix {found : List Char} (h : startPattern.toList <+: found) :
    ∃ object, found = "policy_data := ".toList ++ '{' :: object ∧
      found.drop (startPattern.length - 1) = '{' :: object := by
  obtain ⟨object, rfl⟩ := h
  exact ⟨object, rfl, rfl⟩

/-- A text without a line break ends before the first break of a text that begins with it. -/
theorem exists_append_of_not_mem {pattern tail a b : List Char} (h : '\n' ∉ pattern)
    (heq : pattern ++ tail = a ++ '\n' :: b) : ∃ a', tail = a' ++ '\n' :: b := by
  rcases List.append_eq_append_iff.1 heq with ⟨u, -, htail⟩ | ⟨u, hpattern, hrest⟩
  · exact ⟨u, htail⟩
  · cases u with
    | nil => exact ⟨[], by simpa using hrest.symm⟩
    | cons c u =>
      rw [List.cons_append, List.cons.injEq] at hrest
      exact absurd (by rw [hpattern, ← hrest.1]; simp) h

/-- **JSON has no rule in it**: the heads of rules come no later than the place that JSON follows
to the end of the file. -/
theorem length_le_of_headsAt (hwords : D.serde.RefusesWords) {text before found : List Char}
    {before' rest' : List Char} {v : Json} (hfirst : FirstAt startPattern.toList text before found)
    (hjson : D.serde.fromStr .ok (String.ofList (found.drop (startPattern.length - 1))) = .ok v)
    (hsplit : text = before' ++ rest') (hheads : HeadsAt policyDataName before' rest') :
    before'.length ≤ before.length := by
  by_contra hgt
  obtain ⟨object, hfound, hdrop⟩ := exists_object_of_prefix hfirst.starts
  have heq : before ++ 'p' :: ("olicy_data := ".toList ++ '{' :: object) = before' ++ rest' := by
    rw [← hsplit, hfirst.split, hfound]
    rfl
  have hheads' : HeadsAt ('p' :: "olicy_data".toList) before' rest' := hheads
  obtain ⟨a, ws, d, b, hws, hd, hline⟩ :=
    hheads'.exists_line (by decide) heq (Nat.lt_of_not_le hgt)
  have hline' : "policy_data := ".toList ++ '{' :: object = a ++ '\n' :: (ws ++ d :: b) := by
    simpa using hline
  obtain ⟨a', ha'⟩ := exists_append_of_not_mem (by decide) hline'
  have hassoc : a' ++ '\n' :: (ws ++ d :: b) = a' ++ '\n' :: ws ++ d :: b := by simp
  rw [hdrop, ha', hassoc] at hjson
  rcases hd with rfl | rfl
  · exact hwords a' ws b 'p' v hws (by decide) (by decide) hjson
  · exact hwords a' ws b 'd' v hws (by decide) (by decide) hjson

theorem bindsPolicyData_of_declaredFirst {regoContent : String} {v : Json}
    (h : DeclaredFirst D regoContent) (hv : extractPolicyData D regoContent = some v) :
    BindsPolicyData D regoContent v := by
  obtain ⟨before, found, hfirst, hjson⟩ := (extractPolicyData_eq_some D).1 hv
  obtain ⟨hheads, honly⟩ := h before found v hfirst hjson
  obtain ⟨object, hfound, hdrop⟩ := exists_object_of_prefix hfirst.starts
  rw [hdrop] at hjson
  exact ⟨before, found, hfirst.split, hheads, ⟨object, [], by rw [hfound, List.append_nil], hjson⟩,
    honly⟩

/-- A definition of the policy data is where the pattern first stands. -/
theorem declaredFirst_of_bindsPolicyData (hwords : D.serde.RefusesWords) {regoContent : String}
    (h : ∀ v, extractPolicyData D regoContent = some v → BindsPolicyData D regoContent v) :
    DeclaredFirst D regoContent := by
  intro before found v hfirst hjson
  obtain ⟨before', rest', hsplit, hheads, ⟨object, after, hrest, -⟩, honly⟩ :=
    h v ((extractPolicyData_eq_some D).2 ⟨before, found, hfirst, hjson⟩)
  have hle := length_le_of_headsAt D hwords hfirst hjson hsplit hheads
  have hge := hfirst.first before' rest' hsplit (by
    rw [hrest]
    exact ⟨object ++ after, by simp [startPattern]⟩)
  obtain ⟨rfl, rfl⟩ := List.append_inj (hsplit.symm.trans hfirst.split) (Nat.le_antisymm hle hge)
  exact ⟨hheads, honly⟩

/-- **What is extracted is the binding of the policy data** exactly when the first place of the
pattern, where JSON follows it to the end, is the head of the only rule of that name. -/
theorem bindsPolicyData_iff (hwords : D.serde.RefusesWords) (regoContent : String) :
    (∀ v, extractPolicyData D regoContent = some v → BindsPolicyData D regoContent v) ↔
      DeclaredFirst D regoContent :=
  ⟨declaredFirst_of_bindsPolicyData D hwords,
    fun h _ hv => bindsPolicyData_of_declaredFirst D h hv⟩

theorem BindsPolicyData.isObject (hobjects : D.serde.ReadsObjects) {regoContent : String} {v : Json}
    (h : BindsPolicyData D regoContent v) : v.IsObject := by
  obtain ⟨_, _, -, -, ⟨object, -, -, hv⟩, -⟩ := h
  exact hobjects object v hv

/-! ## The claims of init data -/

/-- The members of init data. -/
def dataMembers (data : List (String × String)) : Json.Map :=
  Json.Map.ofList (data.map fun p => (p.1, .string p.2))

/-- The members of init data are texts. -/
theorem exists_string_of_dataMembers {data : List (String × String)} {k : String} {v : Json}
    (h : Json.Map.get (dataMembers data) k = some v) : ∃ text, v = .string text := by
  have hmem := (Json.Map.mem_extend (Json.Map.mem_of_get h)).resolve_left List.not_mem_nil
  obtain ⟨p, -, hp⟩ := List.mem_map.1 hmem
  cases hp
  exact ⟨p.2, rfl⟩

theorem get_transformToml (map : Json.Map) {key k : String} (h : k ≠ key) :
    Json.Map.get (transformToml D map key) k = Json.Map.get map k := by
  unfold transformToml
  split
  · split
    · exact Json.Map.get_insert_of_ne _ _ h
    · rfl
  · rfl

/-- The members of init data, but for the files that become their values. -/
theorem get_transformed (data : List (String × String)) {k : String} (hcdh : k ≠ "cdh.toml")
    (haa : k ≠ "aa.toml") :
    Json.Map.get (transformToml D (transformToml D (dataMembers data) "cdh.toml") "aa.toml") k =
      Json.Map.get (dataMembers data) k := by
  rw [get_transformToml D _ haa, get_transformToml D _ hcdh]

/-- With a policy, the policy claims are its data where they are found, and else the member of that
name. -/
theorem get_initDataClaims {data : List (String × String)} {regoContent : String}
    (h : Json.Map.get (dataMembers data) "policy.rego" = some (.string regoContent)) :
    (initDataClaims D data).get "agent_policy_claims" =
      (extractPolicyData D regoContent).or
        (Json.Map.get (dataMembers data) "agent_policy_claims") := by
  rw [← get_transformed D data (by decide) (by decide)] at h ⊢
  unfold dataMembers at h
  simp only [initDataClaims, Json.get_object, transformPolicy, h]
  cases extractPolicyData D regoContent with
  | none => rfl
  | some policyData => simp

theorem get_initDataClaims_of_none {data : List (String × String)}
    (h : Json.Map.get (dataMembers data) "policy.rego" = none) :
    (initDataClaims D data).get "agent_policy_claims" =
      Json.Map.get (dataMembers data) "agent_policy_claims" := by
  rw [← get_transformed D data (by decide) (by decide)] at h ⊢
  unfold dataMembers at h
  simp only [initDataClaims, Json.get_object, transformPolicy, h]
  rfl

/-- The policy claims that the init data of a request gives are what its policy binds
`policy_data` to. -/
def PublishesBinding (data : Option InitDataInput) : Prop :=
  ∀ expected claims v, parseInitData D data = .ok (expected, claims) →
    claims.get "agent_policy_claims" = some v →
    ∃ structured initdata regoContent, data = some (.Toml structured) ∧
      D.initdataFromToml structured = .ok initdata ∧
      Json.Map.get (dataMembers initdata.data) "policy.rego" = some (.string regoContent) ∧
      BindsPolicyData D regoContent v

/-- The policy of the init data declares its data first, and init data has no member with the
name of the policy claims unless a policy's data take its place. -/
def NamesPolicyClaims (data : List (String × String)) : Prop :=
  (∀ regoContent, Json.Map.get (dataMembers data) "policy.rego" = some (.string regoContent) →
    DeclaredFirst D regoContent) ∧
  ((Json.Map.get (dataMembers data) "agent_policy_claims").isSome →
    ∃ regoContent v, Json.Map.get (dataMembers data) "policy.rego" = some (.string regoContent) ∧
      ReadsPolicyData D regoContent v)

theorem parseInitData_toml {structured : String} {initdata : Initdata}
    (h : D.initdataFromToml structured = .ok initdata) :
    parseInitData D (some (.Toml structured)) =
      .ok (some (D.digest initdata.algorithm (toUtf8 structured)),
        initDataClaims D initdata.data) := by
  simp [parseInitData, h, Outcome.ofExcept, Outcome.context]

theorem namesPolicyClaims_of_publishesBinding (hwords : D.serde.RefusesWords)
    (hobjects : D.serde.ReadsObjects) {structured : String} {initdata : Initdata}
    (hdata : D.initdataFromToml structured = .ok initdata)
    (h : PublishesBinding D (some (.Toml structured))) : NamesPolicyClaims D initdata.data := by
  have hbinding : ∀ v, (initDataClaims D initdata.data).get "agent_policy_claims" = some v →
      ∃ regoContent,
        Json.Map.get (dataMembers initdata.data) "policy.rego" = some (.string regoContent) ∧
        BindsPolicyData D regoContent v := by
    intro v hv
    obtain ⟨_, initdata', regoContent, heq, hdata', hrego, hbinds⟩ :=
      h _ _ v (parseInitData_toml D hdata) hv
    cases heq
    rw [hdata] at hdata'
    cases hdata'
    exact ⟨regoContent, hrego, hbinds⟩
  refine ⟨fun regoContent hrego => ?_, fun hmember => ?_⟩
  · apply declaredFirst_of_bindsPolicyData D hwords
    intro v hv
    obtain ⟨regoContent', hrego', hbinds⟩ :=
      hbinding v (by rw [get_initDataClaims D hrego, hv, Option.some_or])
    rw [hrego] at hrego'
    cases hrego'
    exact hbinds
  · obtain ⟨w, hw⟩ := Option.isSome_iff_exists.1 hmember
    obtain ⟨text, rfl⟩ := exists_string_of_dataMembers hw
    by_contra hnone
    -- the member itself would be the claim, but it is a text
    have hclaims : (initDataClaims D initdata.data).get "agent_policy_claims" =
        some (.string text) := by
      cases hrego : Json.Map.get (dataMembers initdata.data) "policy.rego" with
      | none => rw [get_initDataClaims_of_none D hrego, hw]
      | some policy =>
        obtain ⟨regoStr, rfl⟩ := exists_string_of_dataMembers hrego
        rw [get_initDataClaims D hrego, hw]
        cases hextract : extractPolicyData D regoStr with
        | none => rfl
        | some v =>
          exact absurd ⟨regoStr, v, hrego, (extractPolicyData_eq_some D).1 hextract⟩ hnone
    obtain ⟨_, -, hbinds⟩ := hbinding _ hclaims
    obtain ⟨_, hm⟩ := hbinds.isObject D hobjects
    cases hm

theorem publishesBinding_of_namesPolicyClaims {structured : String} {initdata : Initdata}
    (hdata : D.initdataFromToml structured = .ok initdata)
    (h : NamesPolicyClaims D initdata.data) : PublishesBinding D (some (.Toml structured)) := by
  intro expected claims v hparse hv
  rw [parseInitData_toml D hdata] at hparse
  cases hparse
  obtain ⟨hdeclared, hmember⟩ := h
  have hextracted : ∃ regoContent,
      Json.Map.get (dataMembers initdata.data) "policy.rego" = some (.string regoContent) ∧
      extractPolicyData D regoContent = some v := by
    cases hrego : Json.Map.get (dataMembers initdata.data) "policy.rego" with
    | none =>
      rw [get_initDataClaims_of_none D hrego] at hv
      obtain ⟨_, _, hrego', -⟩ := hmember (by rw [hv]; rfl)
      rw [hrego] at hrego'
      cases hrego'
    | some policy =>
      obtain ⟨regoStr, rfl⟩ := exists_string_of_dataMembers hrego
      refine ⟨regoStr, rfl, ?_⟩
      rw [get_initDataClaims D hrego] at hv
      cases hextract : extractPolicyData D regoStr with
      | some u => rwa [hextract, Option.some_or] at hv
      | none =>
        rw [hextract, Option.none_or] at hv
        obtain ⟨_, u, hrego', hreads⟩ := hmember (by rw [hv]; rfl)
        rw [hrego] at hrego'
        cases hrego'
        rw [(extractPolicyData_eq_some D).2 hreads] at hextract
        cases hextract
  obtain ⟨regoContent, hrego, hextract⟩ := hextracted
  exact ⟨structured, initdata, regoContent, rfl, hdata, hrego,
    bindsPolicyData_of_declaredFirst D (hdeclared regoContent hrego) hextract⟩

/-- **The policy claims of init data** are what its policy binds exactly when the policy declares
its data first and no other member has their name. -/
theorem publishesBinding_iff (hwords : D.serde.RefusesWords) (hobjects : D.serde.ReadsObjects)
    (data : Option InitDataInput) :
    PublishesBinding D data ↔ ∀ structured initdata, data = some (.Toml structured) →
      D.initdataFromToml structured = .ok initdata → NamesPolicyClaims D initdata.data := by
  constructor
  · rintro h structured initdata rfl hdata
    exact namesPolicyClaims_of_publishesBinding D hwords hobjects hdata h
  · intro h expected claims v hparse hv
    cases data with
    | none =>
      cases hparse
      cases hv
    | some input =>
      cases input with
      | Digest raw =>
        cases hparse
        cases hv
      | Toml structured =>
        have hparse' := hparse
        simp only [parseInitData, Outcome.bind_eq_ok, Outcome.context_eq_ok,
          Outcome.ofExcept_eq_ok] at hparse'
        obtain ⟨initdata, hdata, -⟩ := hparse'
        exact publishesBinding_of_namesPolicyClaims D hdata (h structured initdata rfl hdata)
          expected claims v hparse hv

/-- **The policy claims** are the policy's own data exactly under the conditions above: for every
text of a policy, and for the init data of every request. -/
theorem agentPolicyClaims_iff (hwords : D.serde.RefusesWords) (hobjects : D.serde.ReadsObjects) :
    (∀ regoContent,
      (∀ v, extractPolicyData D regoContent = some v → BindsPolicyData D regoContent v) ↔
        DeclaredFirst D regoContent) ∧
      ∀ data, PublishesBinding D data ↔ ∀ structured initdata, data = some (.Toml structured) →
        D.initdataFromToml structured = .ok initdata → NamesPolicyClaims D initdata.data :=
  ⟨bindsPolicyData_iff D hwords, publishesBinding_iff D hwords hobjects⟩

/-! ## Init data with a policy alone -/

/-- The policy data are `{}`, and the text of init data is the policy. -/
def policyEnv : DataEnv where
  serde := {
    fromStr := fun deserialize text =>
      if text = "\x7b\x7d" then deserialize (.object []) else .error "expected value" }
  digest _ _ := []
  serializeCanonJson _ := .ok []
  initdataFromToml text := .ok ⟨"0.1.0", .Sha256, [("policy.rego", text)]⟩
  tomlToJson _ := none

theorem refusesWords_policyEnv : policyEnv.serde.RefusesWords := by
  intro a ws b c v _ _ _ h
  by_cases htext : String.ofList (a ++ '\n' :: ws ++ c :: b) = "\x7b\x7d"
  · have hmem : '\n' ∈ "\x7b\x7d".toList := by
      rw [← htext, String.toList_ofList]
      simp
    exact absurd hmem (by decide)
  · simp only [policyEnv] at h
    rw [if_neg htext] at h
    cases h

theorem readsObjects_policyEnv : policyEnv.serde.ReadsObjects := by
  intro text v h
  simp only [policyEnv] at h
  split_ifs at h
  cases h
  exact ⟨[], rfl⟩

/-- The theorem at a policy that declares its data. -/
theorem publishesBinding_declared :
    PublishesBinding policyEnv (some (.Toml "policy_data := \x7b\x7d")) := by
  refine ((agentPolicyClaims_iff policyEnv refusesWords_policyEnv readsObjects_policyEnv).2 _).2 ?_
  rintro _ _ ⟨⟩ ⟨⟩
  refine ⟨fun regoContent hrego => ?_, fun hmember => by cases hmember⟩
  cases hrego
  intro before found v hfirst hjson
  have hnil : before = [] := by
    apply List.length_eq_zero_iff.1
    apply Nat.le_zero.1
    exact hfirst.first [] _ rfl (by decide)
  subst hnil
  have hfound : found = "policy_data := \x7b\x7d".toList := hfirst.split.symm
  refine ⟨HeadsAt.of_starts (by decide) ⟨" := \x7b\x7d".toList, hfound, ?_⟩, ?_⟩
  · intro c hc
    cases hc
    decide
  · intro before' rest' hsplit hheads
    exact List.length_eq_zero_iff.1 (Nat.le_zero.1
      (length_le_of_headsAt policyEnv refusesWords_policyEnv hfirst hjson hsplit hheads))

/-- Policy data in a comment are published. -/
theorem not_bindsPolicyData_comment :
    ¬ ∀ regoContent v, extractPolicyData policyEnv regoContent = some v →
      BindsPolicyData policyEnv regoContent v := by
  intro h
  have hdeclared := declaredFirst_of_bindsPolicyData policyEnv refusesWords_policyEnv
    (h "# policy_data := \x7b\x7d")
  have hfind : findPattern startPattern.toList "# policy_data := \x7b\x7d".toList =
      some "policy_data := \x7b\x7d".toList := by decide
  obtain ⟨before, hfirst⟩ := (findPattern_eq_some_iff (by decide)).1 hfind
  have hbefore : "# ".toList = before := List.append_cancel_right hfirst.split
  subst hbefore
  obtain ⟨⟨-, statement, opening, hsplit, hstarts, hopening⟩, -⟩ :=
    hdeclared _ _ (.object []) hfirst rfl
  rcases hopening with rfl | ⟨ws, -, -, rfl⟩
  · rw [List.append_nil] at hsplit
    rw [← hsplit] at hstarts
    exact absurd hstarts (by decide)
  · have hlength := congrArg List.length hsplit
    simp at hlength
    omega

end AttestationService

end Trustmee
