import Trustmee.Policy.Affirmed

/-!
# What TDX evidence the default policy affirms

All trust claims of a TDX quote are affirmed where it is recognised and up to date, its registers
for the kernel and its features are among the reference values and the TD is not one for debugging
(`TdxTrusted`), and where the DCAP library of Intel verified it with collateral that is not expired
(`tdx_affirmed_iff`). So no evidence that `dcap-qvl` verified is affirmed.
-/

namespace Trustmee.Policy

open Broker Rego Tdx Eventlog

/-- A recognised quote with the kernel and the features among the reference values, of a TD that is
not for debugging. -/
structure TdxTrusted (compare : Json → Json → Ordering) (rvps : String → Option Json)
    (quote : Quote) : Prop where
  recognised : Recognised compare rvps quote
  rtmr1 : Referenced compare rvps "rtmr_1" quote.body.rtmr1
  rtmr2 : Referenced compare rvps "rtmr_2" quote.body.rtmr2
  xfam : Referenced compare rvps "xfam" quote.body.xfam
  debug : (fromLeBytes quote.tdAttributes).testBit 0 = false

theorem affirmingRule_tdxExecutables : AffirmingRule "tdx" "executables" tdxExecutables 33 :=
  ⟨rfl, rfl, rfl, by decide, by decide⟩

theorem affirmingRule_tdxHardware : AffirmingRule "tdx" "hardware" tdxHardware 97 :=
  ⟨rfl, rfl, rfl, by decide, by decide⟩

theorem affirmingRule_tdxConfiguration :
    AffirmingRule "tdx" "configuration" tdxConfiguration 36 :=
  ⟨rfl, rfl, rfl, by decide, by decide⟩

variable {compare : Json → Json → Ordering} {rvps : String → Option Json} {H : Hashes} {P : Parsers}
  {b : Backend} {quoteBin : Bytes} {quote : Quote} {custom : CustomClaims} {status : String}
  {expired : Bool} {expiration : Option String} {claims input : Json}

/-! ## What the policy reads of a quote -/

/-- All fields of the body are in the claims. -/
theorem exists_body (quote : Quote) : ∃ body,
    Json.Map.get (quoteClaims quote) "body" = some (.object body) ∧
      ∀ p ∈ bodyMembers quote.body, Json.Map.get body p.1 = some p.2 := by
  have hnames : ∀ body, List.map Prod.fst (bodyMembers body) =
      ["tcb_svn", "mr_seam", "mrsigner_seam", "seam_attributes", "td_attributes", "xfam", "mr_td",
        "mr_config_id", "mr_owner", "mr_owner_config", "rtmr_0", "rtmr_1", "rtmr_2", "rtmr_3",
        "report_data"] := fun _ => rfl
  have hbody : ∀ body, ∀ p ∈ bodyMembers body,
      Json.Map.get (Json.Map.ofList (bodyMembers body)) p.1 = some p.2 := by
    intro body p hp
    refine (Json.Map.get_extend_eq_some ?_).2 (.inl hp)
    rw [hnames]
    decide
  cases quote with
  | V4 header body =>
    refine ⟨Json.Map.ofList (bodyMembers body), ?_, hbody body⟩
    simp [quoteClaims, Json.Map.ofList, Json.Map.extend_cons]
  | V5 header type size body =>
    refine ⟨v5BodyClaims body, ?_, ?_⟩
    · simp [quoteClaims, hexClaim, Json.Map.ofList, Json.Map.extend_cons]
    · cases body with
      | Tdx10 body => exact hbody body
      | Tdx15 body =>
        intro p hp
        refine (Json.Map.get_extend_eq_some ?_).2 (.inl (List.mem_append_left _ hp))
        rw [List.map_append, hnames]
        simp only [List.map_cons, List.map_nil, hexClaim]
        decide

/-- The registers for the kernel and the features. -/
theorem ReadsQuote.follow_measured (h : ReadsQuote input quote status expiration) :
    follow input ["tdx", "quote", "body", "rtmr_1"] =
        some (.string (hexEncode quote.body.rtmr1)) ∧
      follow input ["tdx", "quote", "body", "rtmr_2"] =
        some (.string (hexEncode quote.body.rtmr2)) ∧
      follow input ["tdx", "quote", "body", "xfam"] =
        some (.string (hexEncode quote.body.xfam)) := by
  obtain ⟨body, hbody, hmembers⟩ := exists_body quote
  have hpath : ∀ k v, hexClaim k v ∈ bodyMembers quote.body →
      follow input ["tdx", "quote", "body", k] = some (.string (hexEncode v)) := by
    intro k v hk
    rw [show ["tdx", "quote", "body", k] = ["tdx", "quote"] ++ ["body", k] from rfl,
      follow_append, h.quote, Option.bind_some, follow, Json.get_object, hbody, Option.bind_some,
      follow, Json.get_object]
    have hmember : Json.Map.get body k = some (.string (hexEncode v)) := hmembers _ hk
    rw [hmember]
    rfl
  exact ⟨hpath _ _ (by simp [bodyMembers]), hpath _ _ (by simp [bodyMembers]),
    hpath _ _ (by simp [bodyMembers])⟩

/-- The attribute for debugging is in the claims. -/
theorem follow_debug {ccel : Option CcEventLog} {claims₀ : Json.Map}
    (hclaims : generateParsedClaim (E := b.env H P) quote ccel = .ok (.object claims₀))
    (hgiven : custom.Given)
    (hinput : IsTeeInput "tdx" (.object (Json.Map.extend claims₀ custom.map)) input) :
    follow input ["tdx", "td_attributes", "debug"] =
      some (.bool ((fromLeBytes quote.tdAttributes).testBit 0)) := by
  obtain ⟨tdAttributes, hattributes, h⟩ := Outcome.bind_eq_ok.1 hclaims
  obtain ⟨logClaims, -, h⟩ := Outcome.bind_eq_ok.1 h
  cases h
  have hmember : follow input ["tdx", "td_attributes"] = some (.object tdAttributes) := by
    rw [follow_tdx hinput (by decide) (by decide),
      Json.Map.get_extend_of_none _ _ (hgiven.get_eq_none (by decide))]
    simp [Json.Map.get_insert]
  rw [show ["tdx", "td_attributes", "debug"] = ["tdx", "td_attributes"] ++ ["debug"] from rfl,
    follow_append, hmember, Option.bind_some, follow, Json.get_object]
  unfold parseTdAttributes at hattributes
  split_ifs at hattributes
  · cases hattributes
    simp [tdAttributesFlags, Json.Map.ofList, Json.Map.extend_cons, Json.Map.get_insert, follow]
  · exact absurd hattributes Outcome.bail_ne_ok

/-- A backend that accepts a quote finds something out of it. -/
theorem exists_finds (h : b.quoteVerification quoteBin = .ok custom) :
    ∃ status expired, b.Finds quoteBin status expired := by
  have hqvl : ∀ Q : DcapQvl, Q.ecdsaQuoteVerification quoteBin = .ok custom →
      ∃ status expired collateral report, Q.getCollateralCached quoteBin = .ok collateral ∧
        Q.verify quoteBin collateral Q.now = .ok report ∧
        status = report.status ∧ expired = Q.collateralExpired collateral := by
    intro Q hverify
    simp only [DcapQvl.ecdsaQuoteVerification, Outcome.bind_eq_ok, Outcome.context_eq_ok,
      Outcome.ofExcept_eq_ok] at hverify
    obtain ⟨collateral, hcollateral, report, hreport, -⟩ := hverify
    exact ⟨_, _, collateral, report, hcollateral, hreport, rfl, rfl⟩
  cases b with
  | intelDcap L =>
    simp only [Backend.quoteVerification, DcapLibrary.ecdsaQuoteVerification, Outcome.bind_eq_ok,
      Outcome.mapErr_eq_ok, Outcome.ofExcept_eq_ok] at h
    obtain ⟨suppSize, hsize, ⟨expirationStatus, result, supp⟩, hquote, h⟩ := h
    cases result with
    | accepted result =>
      exact ⟨_, _, suppSize, expirationStatus, result, supp, hsize, hquote, rfl, rfl⟩
    | terminal name code => exact absurd h Outcome.bail_ne_ok
  | nativeDcapQvl Q => exact hqvl Q h
  | wasmDcapQvl Q => exact hqvl Q h

/-! ## The quotes that are affirmed -/

/-- **The quotes that the policy affirms.** -/
theorem affirmsAll_tdx_iff (htext : ∀ s t, compare (.string s) (.string t) = .eq ↔ s = t)
    (hflag : ∀ b c, compare (.bool b) (.bool c) = .eq ↔ b = c)
    (hinput : IsTeeInput "tdx" claims input) (htrue : truthy (teeMembers claims) = true)
    (hread : ReadsQuote input quote status expiration)
    (hdebug : follow input ["tdx", "td_attributes", "debug"] =
      some (.bool ((fromLeBytes quote.tdAttributes).testBit 0))) :
    AffirmsAll (policyContext compare rvps input) ↔
      TdxTrusted compare rvps quote ∧ status = "UpToDate" ∧ expiration = some "0" := by
  obtain ⟨hteeType, hvendorId⟩ := hread.follow_header
  obtain ⟨hmrSeam, htcbSvn, hmrTd⟩ := hread.follow_body
  obtain ⟨hrtmr1, hrtmr2, hxfam⟩ := hread.follow_measured
  simp only [AffirmsAll, evidenceClaims, List.forall_mem_cons, List.not_mem_nil, false_implies,
    implies_true, and_true,
    affirmingRule_tdxExecutables.affirms_iff hinput htrue (by decide),
    affirmingRule_tdxHardware.affirms_iff hinput htrue (by decide),
    affirmingRule_tdxConfiguration.affirms_iff hinput htrue (by decide)]
  simp only [Rule.withoutGuard, tdxExecutables, tdxHardware, tdxConfiguration, executables, hardware,
    configuration, List.map_cons, List.map_nil, List.tail_cons, List.exists_mem_cons_iff,
    List.not_mem_nil, false_and, exists_false, or_false, isIn, is, holds_test_cons, holds_nil,
    Bool.and_true, Bool.and_eq_true, eval_is (v := some _) htext hteeType,
    eval_is (v := some _) htext hvendorId, eval_isIn hmrSeam, eval_isIn htcbSvn, eval_isIn hmrTd,
    eval_is (v := some _) htext hread.status, eval_is htext hread.expiration, Option.some.injEq,
    eval_isIn hrtmr1, eval_isIn hrtmr2, eval_isIn hxfam, eval_off hflag hdebug]
  constructor
  · rintro ⟨hexecutables, ⟨hteeType, hvendorId, hmrSeam, htcbSvn, hmrTd, hstatus, hexpiration⟩,
      hdebug, hxfam⟩
    -- The first branch asks for what the second one does, and for events of the kernel.
    obtain ⟨hrtmr1, hrtmr2⟩ : Referenced compare rvps "rtmr_1" quote.body.rtmr1 ∧
        Referenced compare rvps "rtmr_2" quote.body.rtmr2 := by
      rcases hexecutables with ⟨hrtmr1, hrtmr2, -⟩ | h
      · exact ⟨hrtmr1, hrtmr2⟩
      · exact h
    exact ⟨⟨⟨hteeType, hvendorId, hmrSeam, htcbSvn, hmrTd⟩, hrtmr1, hrtmr2, hxfam, hdebug⟩, hstatus,
      hexpiration⟩
  · rintro ⟨⟨⟨hteeType, hvendorId, hmrSeam, htcbSvn, hmrTd⟩, hrtmr1, hrtmr2, hxfam, hdebug⟩, hstatus,
      hexpiration⟩
    exact ⟨.inr ⟨hrtmr1, hrtmr2⟩, ⟨hteeType, hvendorId, hmrSeam, htcbSvn, hmrTd, hstatus,
      hexpiration⟩, hdebug, hxfam⟩

section Evidence

variable {serde : SerdeJson} {m : Json.Map} {rd id : Option Bytes} {B : Broker.Env}
  {value : B.crate.RawValue → Json} {initDataClaims runtimeDataClaims : Json} {tee : Tee}
  {tcbClaims : Table String B.crate.RawValue}

/-- **The TDX evidence that is affirmed.** Evidence that a verifier accepts, with one backend or
another, passes the checks of the native verifier, and the policy affirms all its trust claims
exactly when the DCAP library verified its quote, with collateral that is not expired, and this is
up to date and to be trusted. -/
theorem tdx_affirmed_iff (htext : ∀ s t, compare (.string s) (.string t) = .eq ↔ s = t)
    (hflag : ∀ b c, compare (.bool b) (.bool c) = .eq ↔ b = c)
    (hread : b.TextsRead H P serde m rd id) (hverified : b.Evaluates H P serde m rd id claims)
    (h : transformClaims B claims initDataClaims runtimeDataClaims tee = .ok tcbClaims)
    (hinput : IsInput value tcbClaims input) (hname : B.toVariantName tee = .ok "tdx")
    (hvalue : ∀ raw, B.crate.fromStr (teeMembers claims).print = .ok raw →
      value raw = teeMembers claims) :
    ∃ ev quoteBin custom quote ccel members status expired,
      Native.TdxEvidence.fromValue (.object m) = .ok ev ∧
      Native.Accepts (b.env H P) (.ofOption rd) (.ofOption id) ev quoteBin custom quote ccel
        members ∧
      b.Finds quoteBin status expired ∧
      (AffirmsAll (policyContext compare rvps input) ↔ TdxTrusted compare rvps quote ∧
        status = "UpToDate" ∧ expired = false ∧ b.isIntelDcap = true) := by
  obtain ⟨ev, v, hev, hv, hclaims⟩ := Native.evaluate_eq_ok.1 (native_of_evaluates hread hverified)
  obtain ⟨quoteBin, custom, quote, ccel, members, haccepts, rfl⟩ :=
    Native.verifyEvidence_eq_ok.1 hv
  obtain rfl : claims = .object (Json.Map.extend members custom.map) := by simpa using hclaims
  have hverification : b.quoteVerification quoteBin = .ok custom := haccepts.verification
  obtain ⟨status, expired, hfinds⟩ := exists_finds hverification
  obtain ⟨expiration, hreports, hzero⟩ := reports_of_finds hverification hfinds
  have hgiven := given_of_backend hverification
  have hteeInput := isTeeInput_of_transformClaims h hinput hname (by decide) hvalue
  refine ⟨ev, quoteBin, custom, quote, ccel, members, status, expired, hev, haccepts, hfinds, ?_⟩
  rw [affirmsAll_tdx_iff htext hflag hteeInput rfl
    (readsQuote_of_claims haccepts.claims hgiven hreports hteeInput)
    (follow_debug haccepts.claims hgiven hteeInput), hzero]
  constructor
  · rintro ⟨htrusted, hstatus, hintel, hexpired⟩
    exact ⟨htrusted, hstatus, hexpired, hintel⟩
  · rintro ⟨htrusted, hstatus, hexpired, hintel⟩
    exact ⟨htrusted, hstatus, hintel, hexpired⟩

end Evidence

/-! ## A quote that is affirmed -/

/-- The claims have init data and report data. -/
theorem exists_bound_claims {ccel : Option CcEventLog} {members : Json.Map}
    (hclaims : generateParsedClaim (E := b.env H P) quote ccel = .ok (.object members))
    (hgiven : custom.Given) :
    (∃ text, Json.Map.get (Json.Map.extend members custom.map) "init_data" =
        some (.string text)) ∧
      ∃ text, Json.Map.get (Json.Map.extend members custom.map) "report_data" =
        some (.string text) := by
  obtain ⟨tdAttributes, -, h⟩ := Outcome.bind_eq_ok.1 hclaims
  obtain ⟨logClaims, -, h⟩ := Outcome.bind_eq_ok.1 h
  cases h
  constructor
  · rw [Json.Map.get_extend_of_none _ _ (hgiven.get_eq_none (by decide))]
    exact ⟨_, Json.Map.get_insert_self _ _ _⟩
  · rw [Json.Map.get_extend_of_none _ _ (hgiven.get_eq_none (by decide))]
    exact ⟨hexEncode quote.reportData, by simp [Json.Map.get_insert]⟩

/-- Fields of zeros are the reference values. -/
def zeroRvps (_ : String) : Option Json :=
  some (.array [.string (hexEncode (zeros 8)), .string (hexEncode (zeros 16)),
    .string (hexEncode (zeros 48))])

theorem referenced_zeroRvps {id : String} {n : ℕ} (h : n = 8 ∨ n = 16 ∨ n = 48) :
    Referenced compareScalars zeroRvps id (zeros n) := by
  have hself : ∀ s, compareScalars (.string s) (.string s) = .eq := fun s => if_pos rfl
  rw [Referenced, zeroRvps, Option.getD_some, contains, elements]
  rcases h with rfl | rfl | rfl <;> simp [hself]

theorem compareScalars_string (s t : String) :
    compareScalars (.string s) (.string t) = .eq ↔ s = t := by
  by_cases h : s = t
  · simp [compareScalars, h]
  · simp [compareScalars, h]

theorem tdxTrusted_genuineQuote : TdxTrusted compareScalars zeroRvps genuineQuote where
  recognised := {
    teeType := rfl
    vendorId := rfl
    mrSeam := referenced_zeroRvps (.inr (.inr rfl))
    tcbSvn := referenced_zeroRvps (.inr (.inl rfl))
    mrTd := referenced_zeroRvps (.inr (.inr rfl)) }
  rtmr1 := referenced_zeroRvps (.inr (.inr rfl))
  rtmr2 := referenced_zeroRvps (.inr (.inr rfl))
  xfam := referenced_zeroRvps (.inl rfl)
  debug := rfl

/-- A genuine quote is affirmed with the DCAP library. -/
theorem tdx_affirmed_iff_example :
    ∃ input, AffirmsAll (policyContext compareScalars zeroRvps input) := by
  obtain ⟨members, hmembers⟩ := exists_members_genuineQuote
  obtain ⟨⟨custom, hcustom⟩, -⟩ := exists_custom_examples
  obtain ⟨hparsed, hevaluate⟩ := hmembers _ _ hcustom
  obtain ⟨⟨text, hinit⟩, text', hreport⟩ := exists_bound_claims hparsed (given_of_backend hcustom)
  obtain ⟨tcbClaims, input, h, hinput⟩ :=
    exists_input "tdx" .Tdx (.object (Json.Map.extend members custom.map)) hinit hreport
  have hread : intelExample.TextsRead constantHashes blankParsers zeroSerde genuineEvidence none
      none := trivial
  have hverified : intelExample.Evaluates constantHashes blankParsers zeroSerde genuineEvidence none
      none (.object (Json.Map.extend members custom.map)) := hevaluate
  obtain ⟨ev, quoteBin, custom', quote, ccel, members', status, expired, hev, haccepts, hfinds,
    hiff⟩ := tdx_affirmed_iff compareScalars_string compareScalars_bool hread hverified h hinput rfl
      fun raw hraw => (Except.ok.inj hraw).symm
  obtain rfl : ev = ⟨none, Base64.encode genuineQuoteBin⟩ :=
    Except.ok.inj (hev.symm.trans fromValue_genuineEvidence)
  obtain rfl : quoteBin = genuineQuoteBin :=
    Option.some.inj (haccepts.decode.symm.trans (Base64.decode_encode genuineQuoteBin))
  obtain rfl : quote = genuineQuote :=
    Outcome.ok.inj (haccepts.parse.symm.trans parseTdxQuote_genuineQuoteBin)
  obtain ⟨suppSize, expirationStatus, result, supp, -, hquote, rfl, rfl⟩ := hfinds
  cases hquote
  exact ⟨input, hiff.2 ⟨tdxTrusted_genuineQuote, rfl, rfl, rfl⟩⟩

end Trustmee.Policy
