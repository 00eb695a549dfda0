import Trustmee.Policy.Input
import Trustmee.Tdx.Measured
import Trustmee.Foundations.Numbering

/-!
# The default policy on the claims of different backends

A TDX quote is verified by the DCAP library of Intel, or by `dcap-qvl` in the native verifier or in
the component. What the policy asks for in the claims is the same from all three, but for the
expiration of the collateral: it asks for `collateral_expiration_status`, which only the DCAP
library gives. So a quote that is up to date and recognised, with collateral that is not expired, is
genuine hardware to the policy with that backend alone (`backends_agree_iff`).
-/

namespace Trustmee.Policy

open Rego Tdx Eventlog

/-! ## The backends -/

/-- What verifies the quote, and in which verifier. -/
inductive Backend
  | intelDcap (L : DcapLibrary)
  | nativeDcapQvl (Q : DcapQvl)
  | wasmDcapQvl (Q : DcapQvl)

namespace Backend

/-- The backend is the DCAP library of Intel. -/
def isIntelDcap : Backend → Bool
  | intelDcap _ => true
  | _ => false

def quoteVerification : Backend → Bytes → Outcome CustomClaims
  | intelDcap L => L.ecdsaQuoteVerification
  | nativeDcapQvl Q => Q.ecdsaQuoteVerification
  | wasmDcapQvl Q => Q.ecdsaQuoteVerification

/-- The surroundings of the verifier. -/
def env (H : Hashes) (P : Parsers) (b : Backend) : Tdx.Env := logEnv H P b.quoteVerification

/-- What a backend finds out of a quote: its TCB status, and whether its collateral is expired. The
DCAP library gives the expiration as a status, which is 0 where nothing is expired. -/
def Finds (quoteBin : Bytes) (status : String) (expired : Bool) : Backend → Prop
  | intelDcap L => ∃ suppSize expirationStatus result supp,
      L.supplementalDataSize quoteBin = .ok suppSize ∧
      L.verifyQuote quoteBin (L.getCollateral quoteBin).toOption
        (suppSize == L.sizeOfSupplementalData) =
          .ok (expirationStatus, .accepted result, supp) ∧
      status = result.asStr ∧ expired = decide (expirationStatus ≠ 0)
  | nativeDcapQvl Q | wasmDcapQvl Q => ∃ collateral report,
      Q.getCollateralCached quoteBin = .ok collateral ∧
      Q.verify quoteBin collateral Q.now = .ok report ∧
      status = report.status ∧ expired = Q.collateralExpired collateral

variable (H : Hashes) (P : Parsers) (serde : SerdeJson) (m : Json.Map) (rd id : Option Bytes)

/-- The verifier returns claims for the evidence: a native one as a list of one element, the
component through the host. -/
def Evaluates (claims : Json) (b : Backend) : Prop :=
  match b with
  | intelDcap _ | nativeDcapQvl _ =>
    Native.evaluate (b.env H P) (.object m) (.ofOption rd) (.ofOption id) = .ok [(claims, "cpu")]
  | wasmDcapQvl _ =>
    hostEvaluate serde (Component.evaluate (b.env H P) serde) (.object m) rd id = .ok claims

/-- The texts that pass between the host and the component are read as they were written. -/
def TextsRead (b : Backend) : Prop :=
  match b with
  | intelDcap _ | nativeDcapQvl _ => True
  | wasmDcapQvl _ =>
    serde.Reads Component.TdxEvidenceJson.fromValue (.object m) ∧
      ∀ v, answer (Component.evaluateImpl (b.env H P) serde (toUtf8 (Json.object m).print) rd id) =
        .ok v → serde.Reads .ok v

end Backend

/-! ## What the claims of a backend are -/

variable {H : Hashes} {P : Parsers} {serde : SerdeJson} {m : Json.Map} {rd id : Option Bytes}
  {claims : Json} {b : Backend} {ev : Native.TdxEvidence} {quoteBin : Bytes} {quote : Quote}
  {status : String} {expired : Bool}

/-- The component is as good as a native verifier with its backend. -/
theorem native_of_evaluates (hread : b.TextsRead H P serde m rd id)
    (h : b.Evaluates H P serde m rd id claims) :
    Native.evaluate (b.env H P) (.object m) (.ofOption rd) (.ofOption id) =
      .ok [(claims, "cpu")] := by
  cases b with
  | intelDcap L => exact h
  | nativeDcapQvl Q => exact h
  | wasmDcapQvl Q =>
    obtain ⟨claims₀, himpl, -, rfl⟩ := (hostEvaluate_component hread.2).1 h
    exact ((evaluateImpl_eq_ok_iff hread.1).1 himpl).1

/-- The claims are those of the quote and its event log, and those that the backend adds. -/
theorem exists_claims_of_evaluates (hread : b.TextsRead H P serde m rd id)
    (h : b.Evaluates H P serde m rd id claims)
    (hev : Native.TdxEvidence.fromValue (.object m) = .ok ev)
    (hdecode : Base64.decode ev.quote = some quoteBin)
    (hquote : parseTdxQuote quoteBin = .ok quote) :
    ∃ custom ccel claims₀, b.quoteVerification quoteBin = .ok custom ∧
      Native.checkEventlog (E := b.env H P) quote ev.ccEventlog = .ok ccel ∧
      generateParsedClaim (E := b.env H P) quote ccel = .ok (.object claims₀) ∧
      claims = .object (Json.Map.extend claims₀ custom.map) := by
  obtain ⟨ev', v, hev', hverify, hclaims⟩ := Native.evaluate_eq_ok.1 (native_of_evaluates hread h)
  rw [hev] at hev'
  cases hev'
  obtain ⟨quoteBin', custom, quote', ccel, claims₀, haccepts, rfl⟩ :=
    Native.verifyEvidence_eq_ok.1 hverify
  have hbin := haccepts.decode
  rw [hdecode] at hbin
  cases hbin
  have hparse := haccepts.parse
  rw [hquote] at hparse
  cases hparse
  exact ⟨custom, ccel, claims₀, haccepts.verification, haccepts.eventlog, haccepts.claims,
    (by simpa using hclaims)⟩

theorem given_of_backend {custom : CustomClaims} (h : b.quoteVerification quoteBin = .ok custom) :
    custom.Given := by
  cases b with
  | intelDcap L => exact given_of_dcapLibrary h
  | nativeDcapQvl Q => exact given_of_dcapQvl h
  | wasmDcapQvl Q => exact given_of_dcapQvl h

/-- What claims say of the TCB status and of the expiration of the collateral, when custom claims
are added to them. -/
structure Reports (custom : CustomClaims) (status : String) (expiration : Option String) :
    Prop where
  status : ∀ claims, Json.Map.get (Json.Map.extend claims custom.map) "tcb_status" =
    some (.string status)
  expiration : ∀ claims, Json.Map.get claims "collateral_expiration_status" = none →
    Json.Map.get (Json.Map.extend claims custom.map) "collateral_expiration_status" =
      expiration.map .string

theorem reports_fromVerifiedReport (report : VerifiedReport) (expired : Bool) :
    Reports (.fromVerifiedReport report expired) report.status none := by
  have hmap : (CustomClaims.fromVerifiedReport report expired).map = Json.Map.ofList (
      [("tcb_status", .string report.status),
       ("advisory_ids", .array (report.advisoryIds.map .string)),
       ("platform_provider_id", .string (hexEncode report.ppid))] ++
      if expired then [("collateral_expired", .bool true)] else []) := by
    cases expired <;> rfl
  constructor
  · intro claims
    rw [hmap]
    refine Json.Map.get_extend_ofList ?_ (List.mem_append_left _ List.mem_cons_self)
    cases expired <;> simp
  · intro claims hnone
    rw [Json.Map.get_extend_of_none _ _ ?_, hnone, Option.map_none]
    cases expired <;>
      simp [CustomClaims.fromVerifiedReport, Json.Map.ofList, Json.Map.extend_cons,
        Json.Map.get_insert]

/-- The members of the DCAP library's claims have different names. -/
theorem exists_members_prepareCustomClaimsMap (supp : SupplementalData) (expirationStatus : ℕ)
    (result : QvResult) :
    ∃ l, (CustomClaims.prepareCustomClaimsMap supp expirationStatus result).map = .ofList l ∧
      (List.map Prod.fst l).Nodup ∧ ("tcb_status", .string result.asStr) ∈ l ∧
      ("collateral_expiration_status", .string (toString expirationStatus)) ∈ l := by
  have hplatform : (platformMembers supp).map Prod.fst =
      ["is_dynamic_platform", "is_cached_keys", "is_smt_enabled"] ∨
      (platformMembers supp).map Prod.fst = [] := by
    unfold platformMembers
    split_ifs
    · exact .inl rfl
    · exact .inr rfl
  simp only [CustomClaims.prepareCustomClaimsMap]
  refine ⟨_, rfl, ?_, List.mem_append_right _ (by simp), List.mem_append_right _ (by simp)⟩
  rw [List.map_append, List.map_append]
  rcases hplatform with hkeys | hkeys
  · rw [hkeys]
    simp only [List.map_cons, List.map_nil]
    decide
  · rw [hkeys]
    simp only [List.map_cons, List.map_nil]
    decide

theorem reports_prepareCustomClaimsMap (supp : SupplementalData) (expirationStatus : ℕ)
    (result : QvResult) : Reports (.prepareCustomClaimsMap supp expirationStatus result)
      result.asStr (some (toString expirationStatus)) := by
  obtain ⟨l, hmap, hnodup, hstatus, hexpiration⟩ :=
    exists_members_prepareCustomClaimsMap supp expirationStatus result
  constructor
  · intro claims
    rw [hmap, Json.Map.get_extend_ofList hnodup hstatus]
  · intro claims _
    rw [hmap, Json.Map.get_extend_ofList hnodup hexpiration, Option.map_some]

/-- A number is written as 0 when it is. -/
theorem toString_eq_zero {n : ℕ} : toString n = "0" ↔ n = 0 := by
  constructor
  · intro h
    exact toString_injective h
  · rintro rfl
    rfl

/-- What a backend finds is in its claims. -/
theorem reports_of_finds {custom : CustomClaims} (h : b.quoteVerification quoteBin = .ok custom)
    (hfinds : b.Finds quoteBin status expired) :
    ∃ expiration, Reports custom status expiration ∧
      (expiration = some "0" ↔ b.isIntelDcap = true ∧ expired = false) := by
  have hqvl : ∀ Q : DcapQvl, Q.ecdsaQuoteVerification quoteBin = .ok custom →
      (∃ collateral report, Q.getCollateralCached quoteBin = .ok collateral ∧
        Q.verify quoteBin collateral Q.now = .ok report ∧
        status = report.status ∧ expired = Q.collateralExpired collateral) →
      Reports custom status none := by
    rintro Q hverify ⟨collateral, report, hcollateral, hreport, rfl, -⟩
    simp only [DcapQvl.ecdsaQuoteVerification, hcollateral, hreport, Outcome.context,
      Outcome.ofExcept, Outcome.ok_bind, Outcome.pure_eq, Outcome.ok.injEq] at hverify
    subst hverify
    exact reports_fromVerifiedReport report _
  cases b with
  | intelDcap L =>
    obtain ⟨suppSize, expirationStatus, result, supp, hsize, hquote, rfl, rfl⟩ := hfinds
    refine ⟨some (toString expirationStatus), ?_, ?_⟩
    · simp only [Backend.quoteVerification, DcapLibrary.ecdsaQuoteVerification, hsize, hquote,
        Outcome.mapErr, Outcome.ofExcept, Outcome.ok_bind, Outcome.pure_eq, Outcome.ok.injEq] at h
      subst h
      exact reports_prepareCustomClaimsMap supp expirationStatus result
    · rw [Option.some.injEq, toString_eq_zero]
      simp [Backend.isIntelDcap]
  | nativeDcapQvl Q => exact ⟨none, hqvl Q h hfinds, by simp [Backend.isIntelDcap]⟩
  | wasmDcapQvl Q => exact ⟨none, hqvl Q h hfinds, by simp [Backend.isIntelDcap]⟩

/-! ## What the policy reads of the claims -/

/-- The input for claims of a quote and its event log, with custom claims. -/
theorem follow_tdx {claims₀ : Json.Map} {custom : CustomClaims} {input : Json}
    (h : IsTeeInput "tdx" (.object (Json.Map.extend claims₀ custom.map)) input) {k : String}
    (hinit : k ≠ "init_data") (hreport : k ≠ "report_data") :
    follow input ["tdx", k] = Json.Map.get (Json.Map.extend claims₀ custom.map) k := by
  rw [follow, h.member, Option.bind_some, teeMembers, follow, Json.get_object, Json.Map.get_erase,
    if_neg hreport, Json.Map.get_erase, if_neg hinit]
  cases Json.Map.get (Json.Map.extend claims₀ custom.map) k with
  | none => rfl
  | some v => rfl

/-- The parts of the claims that do not depend on the backend. -/
def sharedPaths : List (List String) :=
  [["tdx", "quote"], ["tdx", "uefi_event_logs"], ["tdx", "td_attributes"]]

theorem sameAt_sharedPaths {claims₀ : Json.Map} {custom custom' : CustomClaims}
    {input input' : Json} (hgiven : custom.Given) (hgiven' : custom'.Given)
    (h : IsTeeInput "tdx" (.object (Json.Map.extend claims₀ custom.map)) input)
    (h' : IsTeeInput "tdx" (.object (Json.Map.extend claims₀ custom'.map)) input') :
    SameAt sharedPaths input input' := by
  have hshared : ∀ k ∈ ["uefi_event_logs", "quote", "td_attributes", "report_data", "init_data"],
      k ≠ "init_data" → k ≠ "report_data" → follow input ["tdx", k] = follow input' ["tdx", k] := by
    intro k hk hinit hreport
    rw [follow_tdx h hinit hreport, follow_tdx h' hinit hreport,
      Json.Map.get_extend_of_none _ _ (hgiven.get_eq_none hk),
      Json.Map.get_extend_of_none _ _ (hgiven'.get_eq_none hk)]
  intro path hpath
  simp only [sharedPaths, List.mem_cons, List.not_mem_nil, or_false] at hpath
  rcases hpath with rfl | rfl | rfl
  · exact hshared "quote" (by decide) (by decide) (by decide)
  · exact hshared "uefi_event_logs" (by decide) (by decide) (by decide)
  · exact hshared "td_attributes" (by decide) (by decide) (by decide)

variable {compare : Json → Json → Ordering} {rvps : String → Option Json}

theorem helper_eq {input input' : Json} (h : SameAt sharedPaths input input') :
    cpuPolicy.helper (policyContext compare rvps input') =
      cpuPolicy.helper (policyContext compare rvps input) := by
  have hsame : SameAt sharedPaths (policyContext compare rvps input).input input' := h
  exact Policy.helper_congr hsame (by decide)

/-- A rule of the TDX platform that asks for the shared parts alone decides alike. -/
theorem eval_rule_eq {claims claims' input input' : Json} {rule : Rule}
    (h : IsTeeInput "tdx" claims input) (h' : IsTeeInput "tdx" claims' input')
    (hsame : SameAt sharedPaths input input') (hguard : rule.guard = some "tdx")
    (htrue : truthy (teeMembers claims) = true) (htrue' : truthy (teeMembers claims') = true)
    (hreads : rule.withoutGuard.readsOnly sharedPaths = true) :
    rule.eval (policyContext compare rvps input')
        (cpuPolicy.helper (policyContext compare rvps input')) =
      rule.eval (policyContext compare rvps input)
        (cpuPolicy.helper (policyContext compare rvps input)) := by
  have hmember : (policyContext compare rvps input).input.get "tdx" = some (teeMembers claims) :=
    h.member
  have hmember' : (policyContext compare rvps input').input.get "tdx" = some (teeMembers claims') :=
    h'.member
  rw [Rule.eval_of_present hguard hmember htrue, Rule.eval_of_present hguard hmember' htrue',
    helper_eq hsame]
  have hctx : SameAt sharedPaths (policyContext compare rvps input).input input' := hsame
  exact Rule.eval_congr hctx hreads

/-- What the rules for executables and for the configuration say does not depend on the backend. -/
theorem eval_shared_eq {claims claims' input input' : Json} {head : String}
    (h : IsTeeInput "tdx" claims input) (h' : IsTeeInput "tdx" claims' input')
    (hsame : SameAt sharedPaths input input')
    (htrue : truthy (teeMembers claims) = true) (htrue' : truthy (teeMembers claims') = true)
    (hhead : head = "executables" ∨ head = "configuration") :
    cpuPolicy.eval (policyContext compare rvps input) head =
      cpuPolicy.eval (policyContext compare rvps input') head := by
  rcases hhead with rfl | rfl
  · have hrule : ((cpuPolicy.rulesOf "executables").filter fun rule => rule.guard == some "tdx") =
        [tdxExecutables] := rfl
    rw [h.eval_eq compare rvps (by decide) hrule rfl, h'.eval_eq compare rvps (by decide) hrule rfl,
      eval_rule_eq h h' hsame rfl htrue htrue' (by decide)]
  · have hrule : ((cpuPolicy.rulesOf "configuration").filter fun rule =>
        rule.guard == some "tdx") = [tdxConfiguration] := rfl
    rw [h.eval_eq compare rvps (by decide) hrule rfl, h'.eval_eq compare rvps (by decide) hrule rfl,
      eval_rule_eq h h' hsame rfl htrue htrue' (by decide)]

/-! ## Genuine hardware -/

/-- The header of a quote. -/
def headerOf : Quote → QuoteHeader
  | .V4 header _ => header
  | .V5 header _ _ _ => header

/-- A field of the quote is among the reference values. -/
def Referenced (compare : Json → Json → Ordering) (rvps : String → Option Json) (id : String)
    (b : Bytes) : Prop :=
  contains compare (.string (hexEncode b)) ((rvps id).getD .null) = true

/-- The quote is one of TDX, by a quoting enclave of Intel, and its module and firmware are among
the reference values. -/
structure Recognised (compare : Json → Json → Ordering) (rvps : String → Option Json)
    (quote : Quote) : Prop where
  teeType : hexEncode (headerOf quote).teeType = "81000000"
  vendorId : hexEncode (headerOf quote).vendorId = "939a7233f79c4ca9940a0db3957f0607"
  mrSeam : Referenced compare rvps "mr_seam" quote.body.mrSeam
  tcbSvn : Referenced compare rvps "tcb_svn" quote.body.tcbSvn
  mrTd : Referenced compare rvps "mr_td" quote.body.mrTd

theorem follow_headerClaims (version : Bytes) (header : QuoteHeader) :
    follow (.object (headerClaims version header)) ["tee_type"] =
        some (.string (hexEncode header.teeType)) ∧
      follow (.object (headerClaims version header)) ["vendor_id"] =
        some (.string (hexEncode header.vendorId)) := by
  simp [follow, headerClaims, Json.Map.ofList, Json.Map.extend_cons, Json.Map.get_insert, hexClaim]

/-- The members of the body in the claims, of one version or another. -/
theorem get_bodyMembers (body : ReportBody2) (more : List (String × Json)) {k : String}
    (hk : k ∈ ["mr_seam", "tcb_svn", "mr_td"]) (hmore : Json.Map.get more k = none) :
    Json.Map.get (Json.Map.ofList (bodyMembers body ++ more)) k =
      Json.Map.get (bodyMembers body) k := by
  have hfold : Json.Map.ofList (bodyMembers body ++ more) =
      Json.Map.extend (Json.Map.ofList (bodyMembers body)) more := by
    simp [Json.Map.ofList, Json.Map.extend]
  rw [hfold, Json.Map.get_extend_of_none _ _ hmore]
  simp only [List.mem_cons, List.not_mem_nil, or_false] at hk
  rcases hk with rfl | rfl | rfl <;>
    simp [Json.Map.ofList, bodyMembers, hexClaim, Json.Map.extend_cons, Json.Map.get_insert,
      Json.Map.get_cons]

/-- Where the claims of a quote have the fields of its header and of its body. -/
theorem get_quoteClaims (quote : Quote) :
    (∃ version, Json.Map.get (quoteClaims quote) "header" =
      some (.object (headerClaims version (headerOf quote)))) ∧
    ∃ body, Json.Map.get (quoteClaims quote) "body" = some (.object body) ∧
      ∀ k ∈ ["mr_seam", "tcb_svn", "mr_td"],
        Json.Map.get body k = Json.Map.get (bodyMembers quote.body) k := by
  have hbody : ∀ body k, k ∈ ["mr_seam", "tcb_svn", "mr_td"] →
      Json.Map.get (Json.Map.ofList (bodyMembers body)) k =
        Json.Map.get (bodyMembers body) k := by
    intro body k hk
    rw [← get_bodyMembers body [] hk rfl, List.append_nil]
  cases quote with
  | V4 header body =>
    refine ⟨⟨[4, 0], ?_⟩, Json.Map.ofList (bodyMembers body), ?_, hbody body⟩
    · simp [quoteClaims, headerOf, Json.Map.ofList, Json.Map.extend_cons, Json.Map.get_insert]
    · simp [quoteClaims, Json.Map.ofList, Json.Map.extend_cons]
  | V5 header type size body =>
    refine ⟨⟨[5, 0], ?_⟩, v5BodyClaims body, ?_, ?_⟩
    · simp [quoteClaims, headerOf, hexClaim, Json.Map.ofList, Json.Map.extend_cons,
        Json.Map.get_insert]
    · simp [quoteClaims, hexClaim, Json.Map.ofList, Json.Map.extend_cons]
    · cases body with
      | Tdx10 body => exact hbody body
      | Tdx15 body =>
        intro k hk
        apply get_bodyMembers body.toReportBody2 _ hk
        simp only [List.mem_cons, List.not_mem_nil, or_false] at hk
        rcases hk with rfl | rfl | rfl <;> simp [hexClaim, Json.Map.get_cons]

/-- What the policy reads of a quote and of what was found of it. -/
structure ReadsQuote (input : Json) (quote : Quote) (status : String) (expiration : Option String) :
    Prop where
  quote : follow input ["tdx", "quote"] = some (.object (quoteClaims quote))
  status : follow input ["tdx", "tcb_status"] = some (.string status)
  expiration : follow input ["tdx", "collateral_expiration_status"] = expiration.map .string

theorem ReadsQuote.follow_header {input : Json} {expiration : Option String}
    (h : ReadsQuote input quote status expiration) :
    follow input ["tdx", "quote", "header", "tee_type"] =
        some (.string (hexEncode (headerOf quote).teeType)) ∧
      follow input ["tdx", "quote", "header", "vendor_id"] =
        some (.string (hexEncode (headerOf quote).vendorId)) := by
  obtain ⟨⟨version, hheader⟩, -⟩ := get_quoteClaims quote
  obtain ⟨hteeType, hvendorId⟩ := follow_headerClaims version (headerOf quote)
  have hpath : ∀ k, follow input ["tdx", "quote", "header", k] =
      follow (.object (headerClaims version (headerOf quote))) [k] := by
    intro k
    rw [show ["tdx", "quote", "header", k] = ["tdx", "quote"] ++ ["header", k] from rfl,
      follow_append, h.quote, Option.bind_some, follow, Json.get_object, hheader, Option.bind_some]
  exact ⟨by rw [hpath, hteeType], by rw [hpath, hvendorId]⟩

theorem ReadsQuote.follow_body {input : Json} {expiration : Option String}
    (h : ReadsQuote input quote status expiration) :
    follow input ["tdx", "quote", "body", "mr_seam"] =
        some (.string (hexEncode quote.body.mrSeam)) ∧
      follow input ["tdx", "quote", "body", "tcb_svn"] =
        some (.string (hexEncode quote.body.tcbSvn)) ∧
      follow input ["tdx", "quote", "body", "mr_td"] =
        some (.string (hexEncode quote.body.mrTd)) := by
  obtain ⟨-, body, hbody, hmembers⟩ := get_quoteClaims quote
  have hpath : ∀ k ∈ ["mr_seam", "tcb_svn", "mr_td"], follow input ["tdx", "quote", "body", k] =
      follow (.object (bodyMembers quote.body)) [k] := by
    intro k hk
    rw [show ["tdx", "quote", "body", k] = ["tdx", "quote"] ++ ["body", k] from rfl,
      follow_append, h.quote, Option.bind_some, follow, Json.get_object, hbody, Option.bind_some,
      follow, Json.get_object, hmembers k hk]
    rfl
  refine ⟨?_, ?_, ?_⟩
  · rw [hpath _ (by decide)]
    rfl
  · rw [hpath _ (by decide)]
    rfl
  · rw [hpath _ (by decide)]
    rfl

section Hardware

variable {input : Json} {named : String → Bool} {vars : Json.Map}

/-- A text in the input is compared with another. -/
theorem eval_is (hcompare : ∀ s t, compare (.string s) (.string t) = .eq ↔ s = t)
    {path : List String} {v : Option String} {s : String}
    (h : follow input path = v.map .string) :
    Test.eval (policyContext compare rvps input) named vars
      (.eq (.input path) (.value (.string s))) = true ↔ v = some s := by
  have hinput : Term.eval (policyContext compare rvps input) vars (.input path) = v.map .string := h
  rw [Test.eval, compareTerms, hinput]
  cases v with
  | none => simp
  | some t =>
    rw [Option.map_some, Option.any_some, Term.eval, Option.any_some, beq_iff_eq, policyContext,
      hcompare, Option.some.injEq]

/-- A text in the input is looked for in reference values. -/
theorem eval_isIn {path : List String} {b : Bytes} {id : String}
    (h : follow input path = some (.string (hexEncode b))) :
    Test.eval (policyContext compare rvps input) named vars
      (.mem (.input path) (queryReferenceValue id)) = true ↔ Referenced compare rvps id b := by
  have hinput : Term.eval (policyContext compare rvps input) vars (.input path) =
      some (.string (hexEncode b)) := h
  rw [Test.eval, compareTerms, hinput, Option.any_some, queryReferenceValue, Term.eval,
    Option.any_some]
  exact Iff.rfl

/-- The rule for TDX hardware holds of a recognised quote that is up to date, where the expiration
status of the collateral is there and is 0. -/
theorem eval_tdxHardware (hcompare : ∀ s t, compare (.string s) (.string t) = .eq ↔ s = t)
    {expiration : Option String} (h : ReadsQuote input quote status expiration) :
    tdxHardware.withoutGuard.eval (policyContext compare rvps input) named =
        some (claimValue 2) ∧
        (Recognised compare rvps quote ∧ status = "UpToDate" ∧ expiration = some "0") ∨
      tdxHardware.withoutGuard.eval (policyContext compare rvps input) named = none ∧
        ¬ (Recognised compare rvps quote ∧ status = "UpToDate" ∧ expiration = some "0") := by
  obtain ⟨hteeType, hvendorId⟩ := h.follow_header
  obtain ⟨hmrSeam, htcbSvn, hmrTd⟩ := h.follow_body
  have hbody : holds (policyContext compare rvps input) named []
      [is ["tdx", "quote", "header", "tee_type"] (.string "81000000"),
       is ["tdx", "quote", "header", "vendor_id"] (.string "939a7233f79c4ca9940a0db3957f0607"),
       isIn ["tdx", "quote", "body", "mr_seam"] "mr_seam",
       isIn ["tdx", "quote", "body", "tcb_svn"] "tcb_svn",
       isIn ["tdx", "quote", "body", "mr_td"] "mr_td",
       is ["tdx", "tcb_status"] (.string "UpToDate"),
       is ["tdx", "collateral_expiration_status"] (.string "0")] = true ↔
      Recognised compare rvps quote ∧ status = "UpToDate" ∧ expiration = some "0" := by
    simp only [is, isIn, holds_test_cons, holds_nil, Bool.and_eq_true, and_true,
      eval_is (v := some _) hcompare hteeType, eval_is (v := some _) hcompare hvendorId,
      eval_isIn hmrSeam, eval_isIn htcbSvn, eval_isIn hmrTd,
      eval_is (v := some _) hcompare h.status, eval_is hcompare h.expiration, Option.some.injEq]
    constructor
    · rintro ⟨h₁, h₂, h₃, h₄, h₅, hstatus, hexpiration⟩
      exact ⟨⟨h₁, h₂, h₃, h₄, h₅⟩, hstatus, hexpiration⟩
    · rintro ⟨⟨h₁, h₂, h₃, h₄, h₅⟩, hstatus, hexpiration⟩
      exact ⟨h₁, h₂, h₃, h₄, h₅, hstatus, hexpiration⟩
  by_cases hcond : Recognised compare rvps quote ∧ status = "UpToDate" ∧ expiration = some "0"
  · refine .inl ⟨?_, hcond⟩
    exact if_pos (hbody.2 hcond)
  · refine .inr ⟨?_, hcond⟩
    exact if_neg fun htrue => hcond (hbody.1 htrue)

end Hardware

variable (rvps) in
/-- The trust claim for hardware, for the input of a quote. -/
theorem eval_hardware (hcompare : ∀ s t, compare (.string s) (.string t) = .eq ↔ s = t)
    {input : Json} {expiration : Option String} (hinput : IsTeeInput "tdx" claims input)
    (htrue : truthy (teeMembers claims) = true) (h : ReadsQuote input quote status expiration) :
    cpuPolicy.eval (policyContext compare rvps input) "hardware" = .ok (some (claimValue 2)) ∧
        (Recognised compare rvps quote ∧ status = "UpToDate" ∧ expiration = some "0") ∨
      cpuPolicy.eval (policyContext compare rvps input) "hardware" = .ok (some (claimValue 97)) ∧
        ¬ (Recognised compare rvps quote ∧ status = "UpToDate" ∧ expiration = some "0") := by
  have hrule : ((cpuPolicy.rulesOf "hardware").filter fun rule => rule.guard == some "tdx") =
      [tdxHardware] := rfl
  have hmember : (policyContext compare rvps input).input.get "tdx" = some (teeMembers claims) :=
    hinput.member
  have hguard : tdxHardware.guard = some "tdx" := rfl
  rw [hinput.eval_eq compare rvps (by decide) hrule rfl, Rule.eval_of_present hguard hmember htrue]
  rcases eval_tdxHardware hcompare h with ⟨heval, hcond⟩ | ⟨heval, hcond⟩
  · rw [heval]
    exact .inl ⟨rfl, hcond⟩
  · rw [heval]
    exact .inr ⟨rfl, hcond⟩

/-! ## The trust claims with two backends -/

/-- The quote in the input for the claims of a backend. -/
theorem readsQuote_of_claims {ccel : Option CcEventLog} {claims₀ : Json.Map}
    {custom : CustomClaims} {expiration : Option String} {input : Json}
    (hclaims : generateParsedClaim (E := b.env H P) quote ccel = .ok (.object claims₀))
    (hgiven : custom.Given) (hreports : Reports custom status expiration)
    (hinput : IsTeeInput "tdx" (.object (Json.Map.extend claims₀ custom.map)) input) :
    ReadsQuote input quote status expiration := by
  obtain ⟨tdAttributes, -, h⟩ := Outcome.bind_eq_ok.1 hclaims
  obtain ⟨logClaims, hlog, h⟩ := Outcome.bind_eq_ok.1 h
  cases h
  constructor
  · rw [follow_tdx hinput (by decide) (by decide),
      Json.Map.get_extend_of_none _ _ (hgiven.get_eq_none (by decide))]
    simp [Json.Map.get_insert]
  · rw [follow_tdx hinput (by decide) (by decide), hreports.status]
  · rw [follow_tdx hinput (by decide) (by decide), hreports.expiration]
    have hnone := get_eventLogClaims hlog
      (show "collateral_expiration_status" ≠ "uefi_event_logs" by decide)
    simp [Json.Map.get_insert, hnone]

/-- The claims of a quote and its event log do not depend on the backend. -/
theorem generateParsedClaim_eq {b₁ b₂ : Backend} {ccel : Option CcEventLog} :
    generateParsedClaim (E := b₁.env H P) quote ccel =
      generateParsedClaim (E := b₂.env H P) quote ccel := by
  cases ccel with
  | none => rfl
  | some ccel => rfl

/-- So they are the same for two backends that accept the evidence. -/
theorem members_eq_of_backends {b₁ b₂ : Backend} {el : Option String}
    {ccel₁ ccel₂ : Option CcEventLog} {members₁ members₂ : Json.Map}
    (hlog₁ : Native.checkEventlog (E := b₁.env H P) quote el = .ok ccel₁)
    (hlog₂ : Native.checkEventlog (E := b₂.env H P) quote el = .ok ccel₂)
    (hclaims₁ : generateParsedClaim (E := b₁.env H P) quote ccel₁ = .ok (.object members₁))
    (hclaims₂ : generateParsedClaim (E := b₂.env H P) quote ccel₂ = .ok (.object members₂)) :
    members₁ = members₂ := by
  have hlog : Outcome.ok ccel₁ = Outcome.ok ccel₂ := hlog₁.symm.trans hlog₂
  cases hlog
  have hclaims : generateParsedClaim (E := b₁.env H P) quote ccel₁ =
      generateParsedClaim (E := b₂.env H P) quote ccel₁ := generateParsedClaim_eq
  rw [hclaims, hclaims₂] at hclaims₁
  cases hclaims₁
  rfl

/-- Two inputs with the same parts for the other trust claims are told apart by the one for
hardware, or not at all. -/
theorem forall_eval_eq_iff {claims₁ claims₂ input₁ input₂ : Json}
    (hinput₁ : IsTeeInput "tdx" claims₁ input₁) (hinput₂ : IsTeeInput "tdx" claims₂ input₂)
    (hsame : SameAt sharedPaths input₁ input₂) (htrue₁ : truthy (teeMembers claims₁) = true)
    (htrue₂ : truthy (teeMembers claims₂) = true) :
    (∀ head ∈ evidenceClaims, cpuPolicy.eval (policyContext compare rvps input₁) head =
        cpuPolicy.eval (policyContext compare rvps input₂) head) ↔
      cpuPolicy.eval (policyContext compare rvps input₁) "hardware" =
        cpuPolicy.eval (policyContext compare rvps input₂) "hardware" := by
  constructor
  · intro h
    exact h "hardware" (by decide)
  · intro h head hhead
    simp only [evidenceClaims, List.mem_cons, List.not_mem_nil, or_false] at hhead
    rcases hhead with rfl | rfl | rfl
    · exact eval_shared_eq hinput₁ hinput₂ hsame htrue₁ htrue₂ (.inl rfl)
    · exact h
    · exact eval_shared_eq hinput₁ hinput₂ hsame htrue₁ htrue₂ (.inr rfl)

/-- The trust claims for hardware are equal where the rule holds of both inputs or of none. -/
theorem eval_hardware_eq_iff (hcompare : ∀ s t, compare (.string s) (.string t) = .eq ↔ s = t)
    {claims₁ claims₂ input₁ input₂ : Json} {expiration₁ expiration₂ : Option String}
    (hinput₁ : IsTeeInput "tdx" claims₁ input₁) (hinput₂ : IsTeeInput "tdx" claims₂ input₂)
    (htrue₁ : truthy (teeMembers claims₁) = true) (htrue₂ : truthy (teeMembers claims₂) = true)
    (h₁ : ReadsQuote input₁ quote status expiration₁)
    (h₂ : ReadsQuote input₂ quote status expiration₂) :
    cpuPolicy.eval (policyContext compare rvps input₁) "hardware" =
        cpuPolicy.eval (policyContext compare rvps input₂) "hardware" ↔
      (Recognised compare rvps quote → status = "UpToDate" →
        (expiration₁ = some "0" ↔ expiration₂ = some "0")) := by
  have hne : (Except.ok (some (claimValue 2)) : Except String (Option Json)) ≠
      .ok (some (claimValue 97)) := by
    intro h
    cases h
  rcases eval_hardware rvps hcompare hinput₁ htrue₁ h₁ with ⟨heval₁, hcond₁⟩ | ⟨heval₁, hcond₁⟩
  · rcases eval_hardware rvps hcompare hinput₂ htrue₂ h₂ with ⟨heval₂, hcond₂⟩ | ⟨heval₂, hcond₂⟩
    · simp [heval₁, heval₂, hcond₁.2.2, hcond₂.2.2]
    · have hexpiration₂ : expiration₂ ≠ some "0" := fun h => hcond₂ ⟨hcond₁.1, hcond₁.2.1, h⟩
      simp [heval₁, heval₂, hne, hcond₁, hexpiration₂]
  · rcases eval_hardware rvps hcompare hinput₂ htrue₂ h₂ with ⟨heval₂, hcond₂⟩ | ⟨heval₂, hcond₂⟩
    · have hexpiration₁ : expiration₁ ≠ some "0" := fun h => hcond₁ ⟨hcond₂.1, hcond₂.2.1, h⟩
      simp [heval₁, heval₂, hne.symm, hcond₂, hexpiration₁]
    · simp only [heval₁, heval₂, true_iff]
      intro hrecognised hstatus
      constructor
      · intro h
        exact absurd ⟨hrecognised, hstatus, h⟩ hcond₁
      · intro h
        exact absurd ⟨hrecognised, hstatus, h⟩ hcond₂

section

variable {b₁ b₂ : Backend} {claims₁ claims₂ input₁ input₂ : Json}

/-- **The backends agree** on executables and on the configuration, and they agree on the hardware
but for a recognised quote that is up to date, with collateral that is not expired, where one of
them is the DCAP library and the other is not. -/
theorem backends_agree_iff (hcompare : ∀ s t, compare (.string s) (.string t) = .eq ↔ s = t)
    (hev : Native.TdxEvidence.fromValue (.object m) = .ok ev)
    (hdecode : Base64.decode ev.quote = some quoteBin)
    (hquote : parseTdxQuote quoteBin = .ok quote)
    (hread₁ : b₁.TextsRead H P serde m rd id) (hread₂ : b₂.TextsRead H P serde m rd id)
    (h₁ : b₁.Evaluates H P serde m rd id claims₁) (h₂ : b₂.Evaluates H P serde m rd id claims₂)
    (hfinds₁ : b₁.Finds quoteBin status expired) (hfinds₂ : b₂.Finds quoteBin status expired)
    (hinput₁ : IsTeeInput "tdx" claims₁ input₁) (hinput₂ : IsTeeInput "tdx" claims₂ input₂) :
    (∀ head ∈ evidenceClaims, cpuPolicy.eval (policyContext compare rvps input₁) head =
        cpuPolicy.eval (policyContext compare rvps input₂) head) ↔
      ¬ (b₁.isIntelDcap ≠ b₂.isIntelDcap ∧ status = "UpToDate" ∧ expired = false ∧
        Recognised compare rvps quote) := by
  obtain ⟨custom₁, ccel₁, members₁, hverify₁, hlog₁, hparsed₁, rfl⟩ :=
    exists_claims_of_evaluates hread₁ h₁ hev hdecode hquote
  obtain ⟨custom₂, ccel₂, members₂, hverify₂, hlog₂, hparsed₂, rfl⟩ :=
    exists_claims_of_evaluates hread₂ h₂ hev hdecode hquote
  obtain ⟨expiration₁, hreports₁, hzero₁⟩ := reports_of_finds hverify₁ hfinds₁
  obtain ⟨expiration₂, hreports₂, hzero₂⟩ := reports_of_finds hverify₂ hfinds₂
  have hgiven₁ := given_of_backend hverify₁
  have hgiven₂ := given_of_backend hverify₂
  have hquote₁ := readsQuote_of_claims hparsed₁ hgiven₁ hreports₁ hinput₁
  have hquote₂ := readsQuote_of_claims hparsed₂ hgiven₂ hreports₂ hinput₂
  obtain rfl : members₁ = members₂ := members_eq_of_backends hlog₁ hlog₂ hparsed₁ hparsed₂
  have hsame := sameAt_sharedPaths hgiven₁ hgiven₂ hinput₁ hinput₂
  rw [forall_eval_eq_iff hinput₁ hinput₂ hsame rfl rfl,
    eval_hardware_eq_iff hcompare hinput₁ hinput₂ rfl rfl hquote₁ hquote₂, hzero₁, hzero₂]
  constructor
  · rintro h ⟨hne, hstatus, hexpired, hrecognised⟩
    have hiff := h hrecognised hstatus
    simp only [hexpired, and_true] at hiff
    exact hne (Bool.eq_iff_iff.2 hiff)
  · intro h hrecognised hstatus
    by_cases hsameBackend : b₁.isIntelDcap = b₂.isIntelDcap
    · rw [hsameBackend]
    · have hexpired : expired ≠ false :=
        fun hexpired => h ⟨hsameBackend, hstatus, hexpired, hrecognised⟩
      simp [hexpired]

end

/-! ## A quote that is genuine with one backend alone -/

/-- A quote of TDX by a quoting enclave of Intel, with zeros in its other fields. -/
def genuineQuoteBin : Bytes :=
  [4, 0, 2, 0, 0x81, 0, 0, 0, 0, 0, 0, 0, 0x93, 0x9a, 0x72, 0x33, 0xf7, 0x9c, 0x4c, 0xa9, 0x94, 0x0a,
    0x0d, 0xb3, 0x95, 0x7f, 0x06, 0x07] ++ zeros 604

def genuineQuote : Quote :=
  .V4 ⟨[4, 0], [2, 0], [0x81, 0, 0, 0], zeros 4, [0x93, 0x9a, 0x72, 0x33, 0xf7, 0x9c, 0x4c, 0xa9, 0x94,
    0x0a, 0x0d, 0xb3, 0x95, 0x7f, 0x06, 0x07], zeros 20⟩
    ⟨zeros 16, zeros 48, zeros 48, zeros 8, zeros 8, zeros 8, zeros 48, zeros 48, zeros 48, zeros 48,
      zeros 48, zeros 48, zeros 48, zeros 48, zeros 64⟩

set_option maxRecDepth 4000 in
theorem parseTdxQuote_genuineQuoteBin : parseTdxQuote genuineQuoteBin = .ok genuineQuote := rfl

def genuineEvidence : Json.Map := [("quote", .string (Base64.encode genuineQuoteBin))]

theorem fromValue_genuineEvidence : Native.TdxEvidence.fromValue (.object genuineEvidence) =
    .ok ⟨none, Base64.encode genuineQuoteBin⟩ := rfl

theorem encode_genuineQuoteBin_ne : Base64.encode genuineQuoteBin ≠ "" := by
  intro hempty
  have hdecode := Base64.decode_encode genuineQuoteBin
  rw [hempty] at hdecode
  simp [Base64.decode, Base64.decodeChars, genuineQuoteBin] at hdecode

/-- The fields of the quote are the reference values. -/
def genuineRvps (id : String) : Option Json :=
  if id = "tcb_svn" then some (.array [.string (hexEncode (zeros 16))])
  else if id = "mr_seam" ∨ id = "mr_td" then some (.array [.string (hexEncode (zeros 48))])
  else none

theorem compareTexts_eq (s t : String) : compareTexts (.string s) (.string t) = .eq ↔ s = t := by
  by_cases h : s = t
  · simp [compareTexts, h]
  · simp [compareTexts, h]

theorem referenced_genuineRvps {id : String} {b : Bytes}
    (h : genuineRvps id = some (.array [.string (hexEncode b)])) :
    Referenced compareTexts genuineRvps id b := by
  rw [Referenced, h, Option.getD_some, contains, elements, List.any_cons, List.any_nil,
    (compareTexts_eq _ _).2 rfl]
  rfl

theorem recognised_genuineQuote : Recognised compareTexts genuineRvps genuineQuote where
  teeType := rfl
  vendorId := rfl
  mrSeam := referenced_genuineRvps rfl
  tcbSvn := referenced_genuineRvps rfl
  mrTd := referenced_genuineRvps rfl

/-- A DCAP library to which every quote is up to date. -/
def intelExample : Backend := .intelDcap {
  supplementalDataSize := fun _ => .ok 0
  Collateral := Unit
  getCollateral := fun _ => .ok ()
  verifyQuote := fun _ _ _ => .ok (0, .accepted .ok, ⟨"", "", "", "", 0, 0, [], 0, 0, 0, 0, [], ""⟩)
  sizeOfSupplementalData := 0 }

/-- A `dcap-qvl` to which every quote is up to date. -/
def qvlExample : Backend := .nativeDcapQvl {
  getCollateralCached := fun _ => .ok ⟨"{}", "{}"⟩
  now := 0
  verify := fun _ _ _ => .ok ⟨"UpToDate", [], zeros 16⟩
  parseNextUpdateSecs := fun _ => none }

theorem finds_intelExample : intelExample.Finds genuineQuoteBin "UpToDate" false :=
  ⟨0, 0, .ok, _, rfl, rfl, rfl, rfl⟩

theorem finds_qvlExample : qvlExample.Finds genuineQuoteBin "UpToDate" false :=
  ⟨⟨"{}", "{}"⟩, _, rfl, rfl, rfl, rfl⟩

/-- The evidence is accepted with both backends, with the claims of the quote. -/
theorem exists_members_genuineQuote : ∃ members : Json.Map, ∀ (b : Backend) (custom : CustomClaims),
    b.quoteVerification genuineQuoteBin = .ok custom →
      generateParsedClaim (E := b.env constantHashes blankParsers) genuineQuote none =
        .ok (.object members) ∧
      Native.evaluate (b.env constantHashes blankParsers) (.object genuineEvidence) .notProvided
        .notProvided = .ok [(.object (Json.Map.extend members custom.map), "cpu")] := by
  refine ⟨_, fun b custom h => ⟨rfl, ?_⟩⟩
  refine Native.evaluate_eq_ok.2 ⟨_, _, fromValue_genuineEvidence, ?_, rfl⟩
  refine Native.verifyEvidence_eq_ok.2 ⟨genuineQuoteBin, custom, genuineQuote, none, _, ?_, rfl⟩
  exact {
    quote_ne := encode_genuineQuoteBin_ne
    decode := Base64.decode_encode genuineQuoteBin
    verification := h
    parse := parseTdxQuote_genuineQuoteBin
    reportData := rfl
    initData := rfl
    eventlog := rfl
    claims := rfl }

theorem exists_custom_examples :
    (∃ custom, intelExample.quoteVerification genuineQuoteBin = .ok custom) ∧
      ∃ custom, qvlExample.quoteVerification genuineQuoteBin = .ok custom :=
  ⟨⟨_, rfl⟩, ⟨_, rfl⟩⟩

/-- The theorem at a genuine quote, where the DCAP library and `dcap-qvl` do not agree. -/
theorem backends_agree_iff_example : ∃ claims₁ claims₂ : Json,
    ¬ ∀ head ∈ evidenceClaims,
      cpuPolicy.eval (policyContext compareTexts genuineRvps
          (.object [("tdx", teeMembers claims₁)])) head =
        cpuPolicy.eval (policyContext compareTexts genuineRvps
          (.object [("tdx", teeMembers claims₂)])) head := by
  obtain ⟨members, hmembers⟩ := exists_members_genuineQuote
  obtain ⟨⟨custom₁, hcustom₁⟩, ⟨custom₂, hcustom₂⟩⟩ := exists_custom_examples
  have hintel : intelExample.Evaluates constantHashes blankParsers zeroSerde genuineEvidence none
      none (.object (Json.Map.extend members custom₁.map)) := (hmembers _ _ hcustom₁).2
  have hqvl : qvlExample.Evaluates constantHashes blankParsers zeroSerde genuineEvidence none
      none (.object (Json.Map.extend members custom₂.map)) := (hmembers _ _ hcustom₂).2
  have hreadIntel : intelExample.TextsRead constantHashes blankParsers zeroSerde genuineEvidence
      none none := trivial
  have hreadQvl : qvlExample.TextsRead constantHashes blankParsers zeroSerde genuineEvidence
      none none := trivial
  refine ⟨.object (Json.Map.extend members custom₁.map),
    .object (Json.Map.extend members custom₂.map), ?_⟩
  rw [backends_agree_iff compareTexts_eq fromValue_genuineEvidence
    (Base64.decode_encode genuineQuoteBin) parseTdxQuote_genuineQuoteBin hreadIntel hreadQvl
    hintel hqvl finds_intelExample finds_qvlExample (isTeeInput_object _ _)
    (isTeeInput_object _ _), not_not]
  exact ⟨by decide, rfl, rfl, recognised_genuineQuote⟩

/-- Both backends find a genuine quote up to date, with collateral that is not expired. The policy
affirms the hardware on the claims of the DCAP library, and does not recognise it on those of
`dcap-qvl`. -/
theorem qvl_hardware_unrecognised : ∃ claims₁ claims₂ : Json,
    intelExample.Evaluates constantHashes blankParsers zeroSerde genuineEvidence none none
        claims₁ ∧
      qvlExample.Evaluates constantHashes blankParsers zeroSerde genuineEvidence none none
        claims₂ ∧
      intelExample.Finds genuineQuoteBin "UpToDate" false ∧
      qvlExample.Finds genuineQuoteBin "UpToDate" false ∧
      cpuPolicy.eval (policyContext compareTexts genuineRvps
        (.object [("tdx", teeMembers claims₁)])) "hardware" = .ok (some (claimValue 2)) ∧
      cpuPolicy.eval (policyContext compareTexts genuineRvps
        (.object [("tdx", teeMembers claims₂)])) "hardware" = .ok (some (claimValue 97)) := by
  obtain ⟨members, hmembers⟩ := exists_members_genuineQuote
  obtain ⟨⟨custom₁, hcustom₁⟩, ⟨custom₂, hcustom₂⟩⟩ := exists_custom_examples
  obtain ⟨expiration₁, hreports₁, hzero₁⟩ := reports_of_finds hcustom₁ finds_intelExample
  obtain ⟨expiration₂, hreports₂, hzero₂⟩ := reports_of_finds hcustom₂ finds_qvlExample
  obtain ⟨hparsed₁, hintel⟩ := hmembers _ _ hcustom₁
  obtain ⟨hparsed₂, hqvl⟩ := hmembers _ _ hcustom₂
  refine ⟨_, _, hintel, hqvl, finds_intelExample, finds_qvlExample, ?_, ?_⟩
  · have hinput := isTeeInput_object "tdx" (.object (Json.Map.extend members custom₁.map))
    have hread := readsQuote_of_claims hparsed₁ (given_of_backend hcustom₁) hreports₁ hinput
    have hzero : expiration₁ = some "0" := hzero₁.2 ⟨rfl, rfl⟩
    rcases eval_hardware genuineRvps compareTexts_eq hinput rfl hread with ⟨heval, -⟩ | ⟨-, hcond⟩
    · exact heval
    · exact absurd ⟨recognised_genuineQuote, rfl, hzero⟩ hcond
  · have hinput := isTeeInput_object "tdx" (.object (Json.Map.extend members custom₂.map))
    have hread := readsQuote_of_claims hparsed₂ (given_of_backend hcustom₂) hreports₂ hinput
    rcases eval_hardware genuineRvps compareTexts_eq hinput rfl hread with ⟨-, hcond⟩ | ⟨heval, -⟩
    · have hintelDcap := (hzero₂.1 hcond.2.2).1
      cases hintelDcap
    · exact heval

end Trustmee.Policy
