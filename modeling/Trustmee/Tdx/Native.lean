import Trustmee.Tdx.Claims
import Trustmee.Verifier.Interface

/-!
# The native TDX verifier

`Tdx::evaluate` of the `verifier` crate. The quote's signature is checked first, then the report
data and the init data hash, padded or truncated to the length of the quote's fields, are compared
with the quote, and an event log that is there is replayed against the quote's registers.
-/

namespace Trustmee.Tdx.Native

/-- `TdxEvidence`. -/
structure TdxEvidence where
  ccEventlog : Option String
  quote : String

/-- The derived `Deserialize` of `TdxEvidence`. -/
def TdxEvidence.fromValue : Json → Except String TdxEvidence
  | .object m => do
    let ccEventlog ← Deserialize.optional Deserialize.string m "cc_eventlog"
    let quote ← Deserialize.required Deserialize.string m "quote"
    return ⟨ccEventlog, quote⟩
  | .array [ccEventlog, quote] => do
    let ccEventlog ← Deserialize.option Deserialize.string ccEventlog
    let quote ← Deserialize.string quote
    return ⟨ccEventlog, quote⟩
  | .array l => .error ("invalid length " ++ toString l.length ++
      ", expected struct TdxEvidence with 2 elements")
  | v => .error ("invalid type: " ++ Deserialize.unexpected v ++ ", expected struct TdxEvidence")

variable {E : Env}

/-- The binding of the report data. -/
def checkReportData (quote : Quote) : ReportData → Outcome Unit
  | .value expected =>
    .ensure (regularizeData expected 64 == quote.reportData)
      "REPORT_DATA is different from that in TDX Quote"
  | .notProvided => .ok ()

/-- The binding of the init data. -/
def checkInitData (quote : Quote) : InitDataHash → Outcome Unit
  | .value expected =>
    .ensure (regularizeData expected 48 == quote.mrConfigId)
      "MRCONFIGID is different from that in TDX Quote"
  | .notProvided => .ok ()

/-- The integrity of the event log. -/
def checkEventlog (quote : Quote) (ccEventlog : Option String) : Outcome (Option E.EventLog) :=
  match ccEventlog with
  | some el =>
    if el ≠ "" then do
      let ccelData ← decodeBase64 el
      let ccel ← (E.parseEventLog ccelData).mapErr
        fun e => ["Parse CC Eventlog failed: " ++ e.debug]
      Outcome.ofExcept (E.replayAndMatch ccel (compareObj quote))
      return some ccel
    else return none
  | none => return none

/-- `extend_using_custom_claims`. -/
def extendUsingCustomClaims (claim : Json) (custom : CustomClaims) : Outcome Json :=
  match claim with
  | .object map => .ok (.object (Json.Map.extend map custom.map))
  | _ => .bail "failed to extend the claim, not an object"

/-- `verify_evidence`. -/
def verifyEvidence (E : Env) (expectedReportData : ReportData)
    (expectedInitDataHash : InitDataHash) (evidence : TdxEvidence) : Outcome Json := do
  Outcome.ensure (evidence.quote ≠ "") "TDX Quote is empty."
  let quoteBin ← decodeBase64 evidence.quote
  let customClaims ← E.quoteVerification quoteBin
  let quote ← parseTdxQuote quoteBin
  checkReportData quote expectedReportData
  checkInitData quote expectedInitDataHash
  let ccel ← checkEventlog (E := E) quote evidence.ccEventlog
  let claim ← generateParsedClaim quote ccel
  extendUsingCustomClaims claim customClaims

/-- `Tdx::evaluate`. -/
def evaluate (E : Env) (evidence : Json) (expectedReportData : ReportData)
    (expectedInitDataHash : InitDataHash) : Outcome Claims := do
  let tdxEvidence ← (Outcome.ofExcept (TdxEvidence.fromValue evidence)).context
    "Deserialize TDX Evidence failed."
  let claims ← (verifyEvidence E expectedReportData expectedInitDataHash tdxEvidence).mapErr
    fun e => ["TDX Verifier: " ++ e.debug]
  return [(claims, "cpu")]

/-! ## What is accepted -/

/-- The steps of an accepted verification. -/
structure Accepts (E : Env) (expectedReportData : ReportData) (expectedInitDataHash : InitDataHash)
    (evidence : TdxEvidence) (quoteBin : Bytes) (customClaims : CustomClaims) (quote : Quote)
    (ccel : Option E.EventLog) (claims : Json.Map) : Prop where
  quote_ne : evidence.quote ≠ ""
  decode : Base64.decode evidence.quote = some quoteBin
  verification : E.quoteVerification quoteBin = .ok customClaims
  parse : parseTdxQuote quoteBin = .ok quote
  reportData : checkReportData quote expectedReportData = .ok ()
  initData : checkInitData quote expectedInitDataHash = .ok ()
  eventlog : checkEventlog quote evidence.ccEventlog = .ok ccel
  claims : generateParsedClaim quote ccel = .ok (.object claims)

theorem extendUsingCustomClaims_eq_ok {claim v : Json} {custom : CustomClaims} :
    extendUsingCustomClaims claim custom = .ok v ↔
      ∃ claims, claim = .object claims ∧ v = .object (Json.Map.extend claims custom.map) := by
  unfold extendUsingCustomClaims
  split
  · next map =>
    constructor
    · intro h
      cases h
      exact ⟨map, rfl, rfl⟩
    · rintro ⟨claims, hclaims, rfl⟩
      cases hclaims
      rfl
  · next hobj =>
    simp only [Outcome.bail_ne_ok, false_iff]
    rintro ⟨claims, rfl, -⟩
    exact hobj claims rfl

theorem verifyEvidence_eq_ok {expectedReportData : ReportData}
    {expectedInitDataHash : InitDataHash} {evidence : TdxEvidence} {v : Json} :
    verifyEvidence E expectedReportData expectedInitDataHash evidence = .ok v ↔
      ∃ quoteBin custom quote ccel claims, Accepts E expectedReportData expectedInitDataHash
        evidence quoteBin custom quote ccel claims ∧
        v = .object (Json.Map.extend claims custom.map) := by
  simp only [verifyEvidence, Outcome.bind_eq_ok, Outcome.ensure_eq_ok, decodeBase64_eq_ok,
    extendUsingCustomClaims_eq_ok, decide_eq_true_eq]
  constructor
  · rintro ⟨-, h₁, quoteBin, h₂, custom, h₃, quote, h₄, _, h₅, _, h₆, ccel, h₇, -, h₈, claims, rfl,
      rfl⟩
    exact ⟨quoteBin, custom, quote, ccel, claims, ⟨h₁, h₂, h₃, h₄, h₅, h₆, h₇, h₈⟩, rfl⟩
  · rintro ⟨quoteBin, custom, quote, ccel, claims, h, rfl⟩
    exact ⟨(), h.quote_ne, quoteBin, h.decode, custom, h.verification, quote, h.parse, (),
      h.reportData, (), h.initData, ccel, h.eventlog, _, h.claims, claims, rfl, rfl⟩

theorem evaluate_eq_ok {evidence : Json} {expectedReportData : ReportData}
    {expectedInitDataHash : InitDataHash} {result : Claims} :
    evaluate E evidence expectedReportData expectedInitDataHash = .ok result ↔
      ∃ ev v, TdxEvidence.fromValue evidence = .ok ev ∧
        verifyEvidence E expectedReportData expectedInitDataHash ev = .ok v ∧
        result = [(v, "cpu")] := by
  simp only [evaluate, Outcome.bind_eq_ok, Outcome.context_eq_ok, Outcome.ofExcept_eq_ok,
    Outcome.mapErr_eq_ok, Outcome.pure_eq, Outcome.ok.injEq]
  constructor
  · rintro ⟨ev, hev, v, hv, rfl⟩
    exact ⟨ev, v, hev, hv, rfl⟩
  · rintro ⟨ev, v, hev, hv, rfl⟩
    exact ⟨ev, hev, v, hv, rfl⟩

/-! ## What the claims mean -/

/-- The quote of the evidence. -/
def QuoteOf (evidence : Json) (quote : Quote) : Prop :=
  ∃ ev quoteBin, TdxEvidence.fromValue evidence = .ok ev ∧ Base64.decode ev.quote = some quoteBin ∧
    parseTdxQuote quoteBin = .ok quote

/-- The report data of the quote is the expected one, brought to its length. -/
def ReportDataBound (evidence : Json) (expected : Bytes) : Prop :=
  ∃ quote, QuoteOf evidence quote ∧ regularizeData expected 64 = quote.reportData

/-- The `MRCONFIGID` of the quote is the expected hash, brought to its length. -/
def InitDataBound (evidence : Json) (expected : Bytes) : Prop :=
  ∃ quote, QuoteOf evidence quote ∧ regularizeData expected 48 = quote.mrConfigId

/-- What was checked on accepted evidence. -/
theorem evaluate_checks {evidence : Json} {reportData : ReportData} {initDataHash : InitDataHash}
    {claims : Claims} (h : evaluate E evidence reportData initDataHash = .ok claims) :
    ∃ quote, QuoteOf evidence quote ∧ checkReportData quote reportData = .ok () ∧
      checkInitData quote initDataHash = .ok () := by
  obtain ⟨ev, v, hev, hv, -⟩ := evaluate_eq_ok.1 h
  obtain ⟨quoteBin, custom, quote, ccel, claims, haccepts, -⟩ := verifyEvidence_eq_ok.1 hv
  exact ⟨quote, ⟨ev, quoteBin, hev, haccepts.decode, haccepts.parse⟩, haccepts.reportData,
    haccepts.initData⟩

/-- The TDX verifier compares the report data. -/
theorem evaluate_bindsReportData : BindsReportData (evaluate E) ReportDataBound := by
  intro evidence expected initDataHash claims h _
  obtain ⟨quote, hquote, hcheck, -⟩ := evaluate_checks h
  exact ⟨quote, hquote, by simpa [checkReportData] using hcheck⟩

/-- The TDX verifier compares the init data hash. -/
theorem evaluate_bindsInitData : BindsInitData (evaluate E) InitDataBound := by
  intro evidence reportData expected claims h _
  obtain ⟨quote, hquote, -, hcheck⟩ := evaluate_checks h
  exact ⟨quote, hquote, by simpa [checkInitData] using hcheck⟩

/-- One piece of claims comes from accepted evidence. -/
theorem evaluate_givesOne : GivesOne (evaluate E) "cpu" := by
  intro evidence reportData initDataHash
  exact .bind fun _ _ => .bind fun _ _ => .ok ⟨_, rfl⟩

end Trustmee.Tdx.Native
