import Trustmee.Tdx.Claims
import Trustmee.Verifier.Interface

/-!
# The TDX verifier component

`tdx-verifier-component`. It takes the bytes of the evidence: the text of an object, or the quote
itself. It decodes the quote and the event log before it checks anything, and it refuses expected
data that is longer than the quote's field, where the native verifier truncates it. The parser of
quotes and their claims are compiled from the native verifier's files.
-/

namespace Trustmee.Tdx.Component

/-- `TdxEvidenceJson`. -/
structure TdxEvidenceJson where
  ccEventlog : Option String
  quote : String

/-- The derived `Deserialize` of `TdxEvidenceJson`, on the objects it is used on. -/
def TdxEvidenceJson.fromValue : Json → Except String TdxEvidenceJson
  | .object m => do
    let ccEventlog ← Deserialize.optional Deserialize.string m "cc_eventlog"
    let quote ← Deserialize.required Deserialize.string m "quote"
    return ⟨ccEventlog, quote⟩
  | v => .error ("invalid type: " ++ Deserialize.unexpected v ++
      ", expected struct TdxEvidenceJson")

/-- The component's own `regularize_data`. -/
def regularizeData (expected : Bytes) (expectedLen : ℕ) (field : String) : Outcome Bytes :=
  if expected.length > expectedLen then
    .bail (field ++ " length (" ++ toString expected.length ++ ") exceeds expected length (" ++
      toString expectedLen ++ ")")
  else if expected.length = expectedLen then .ok expected
  else .ok (expected ++ List.replicate (expectedLen - expected.length) 0)

/-- The event log of the evidence. -/
def decodeEventlog (ccEventlog : Option String) : Outcome (Option Bytes) :=
  match ccEventlog with
  | some el =>
    if el ≠ "" then do
      let ccel ← (decodeBase64 el).context "decode base64 CCEL"
      return some ccel
    else return none
  | none => return none

/-- `parse_evidence`, on a text that starts with a brace. -/
def parseEvidenceJson (serde : SerdeJson) (s : String) : Outcome (Bytes × Option Bytes) := do
  let ev ← (Outcome.ofExcept (serde.fromStr TdxEvidenceJson.fromValue s)).context
    "parse evidence JSON"
  Outcome.ensure (ev.quote ≠ "") "TDX Quote is empty"
  let quoteBin ← (decodeBase64 ev.quote).context "decode base64 quote"
  let ccel ← decodeEventlog ev.ccEventlog
  return (quoteBin, ccel)

/-- `parse_evidence`. -/
def parseEvidence (serde : SerdeJson) (evidence : Bytes) : Outcome (Bytes × Option Bytes) :=
  match fromUtf8 evidence with
  | some s => if startsWithBrace s then parseEvidenceJson serde s else return (evidence, none)
  | none => return (evidence, none)

variable {E : Env}

/-- The binding of the report data. -/
def checkReportData (quote : Quote) : Option Bytes → Outcome Unit
  | some expected => do
    let expected ← regularizeData expected 64 "REPORT_DATA"
    Outcome.ensure (expected == quote.reportData) "REPORT_DATA is different from that in TDX Quote"
  | none => .ok ()

/-- The binding of the init data. -/
def checkInitData (quote : Quote) : Option Bytes → Outcome Unit
  | some expected => do
    let expected ← regularizeData expected 48 "MRCONFIGID"
    Outcome.ensure (expected == quote.mrConfigId) "MRCONFIGID is different from that in TDX Quote"
  | none => .ok ()

/-- The integrity of the event log. -/
def checkEventlog (quote : Quote) (ccelBin : Option Bytes) : Outcome (Option E.EventLog) :=
  match ccelBin with
  | some bin =>
    if bin ≠ [] then do
      let ccel ← (E.parseEventLog bin).mapErr
        fun e => ["Parse CCEL failed: " ++ e.debug]
      Outcome.ofExcept (E.replayAndMatch ccel (compareObj quote))
      return some ccel
    else return none
  | none => return none

/-- The claims of the quote with the custom claims. -/
def extendClaim (claim : Json) (custom : CustomClaims) : Outcome Json.Map :=
  match claim with
  | .object claimMap => .ok (Json.Map.extend claimMap custom.map)
  | _ => .bail "claim is not a JSON object"

/-- `evaluate_impl`, up to the text of the claims. -/
def evaluateImpl (E : Env) (serde : SerdeJson) (evidence : Bytes)
    (expectedReportData expectedInitDataHash : Option Bytes) : Outcome Json.Map := do
  let (quoteBin, ccelBin) ← parseEvidence serde evidence
  Outcome.ensure (quoteBin ≠ []) "TDX Quote is empty"
  let customClaims ← E.quoteVerification quoteBin
  let quote ← (parseTdxQuote quoteBin).context "parse TDX quote"
  checkReportData quote expectedReportData
  checkInitData quote expectedInitDataHash
  let ccel ← checkEventlog (E := E) quote ccelBin
  let claim ← (generateParsedClaim quote ccel).context "generate parsed claim"
  extendClaim claim customClaims

/-- `Verifier::evaluate`. -/
def evaluate (E : Env) (serde : SerdeJson) : WasmVerifier :=
  fun evidence expectedReportData expectedInitDataHash =>
    answerText (evaluateImpl E serde evidence expectedReportData.toOption
      expectedInitDataHash.toOption)

/-! ## What is accepted -/

theorem parseEvidence_object (serde : SerdeJson) (m : Json.Map) :
    parseEvidence serde (toUtf8 (Json.object m).print) =
      parseEvidenceJson serde (Json.object m).print := by
  rw [parseEvidence, fromUtf8_toUtf8]
  simp only [Json.startsWithBrace_print, if_true]

/-- The steps of an accepted verification. -/
structure Accepts (E : Env) (expectedReportData expectedInitDataHash : Option Bytes)
    (evidence : TdxEvidenceJson) (quoteBin : Bytes) (customClaims : CustomClaims) (quote : Quote)
    (ccelBin : Option Bytes) (ccel : Option E.EventLog) (claims : Json.Map) : Prop where
  quote_ne : evidence.quote ≠ ""
  decode : Base64.decode evidence.quote = some quoteBin
  decodeEventlog : decodeEventlog evidence.ccEventlog = .ok ccelBin
  quoteBin_ne : quoteBin ≠ []
  verification : E.quoteVerification quoteBin = .ok customClaims
  parse : parseTdxQuote quoteBin = .ok quote
  reportData : checkReportData quote expectedReportData = .ok ()
  initData : checkInitData quote expectedInitDataHash = .ok ()
  eventlog : checkEventlog quote ccelBin = .ok ccel
  claims : generateParsedClaim quote ccel = .ok (.object claims)

theorem extendClaim_eq_ok {claim : Json} {custom : CustomClaims} {claims' : Json.Map} :
    extendClaim claim custom = .ok claims' ↔
      ∃ claims, claim = .object claims ∧ claims' = Json.Map.extend claims custom.map := by
  unfold extendClaim
  split
  · next map =>
    constructor
    · intro h
      cases h
      exact ⟨map, rfl, rfl⟩
    · rintro ⟨claims, hclaims, rfl⟩
      cases hclaims
      rfl
  · next hobj =>
    simp only [Outcome.bail_ne_ok, false_iff]
    rintro ⟨claims, rfl, -⟩
    exact hobj claims rfl

/-- On the text of an object. -/
theorem evaluateImpl_eq_ok {serde : SerdeJson} {m : Json.Map}
    {expectedReportData expectedInitDataHash : Option Bytes} {claims' : Json.Map} :
    evaluateImpl E serde (toUtf8 (Json.object m).print) expectedReportData expectedInitDataHash =
      .ok claims' ↔
      ∃ ev quoteBin custom quote ccelBin ccel claims,
        serde.fromStr TdxEvidenceJson.fromValue (Json.object m).print = .ok ev ∧
        Accepts E expectedReportData expectedInitDataHash ev quoteBin custom quote ccelBin ccel
          claims ∧
        claims' = Json.Map.extend claims custom.map := by
  simp only [evaluateImpl, parseEvidence_object, parseEvidenceJson, Outcome.bind_eq_ok,
    Outcome.context_eq_ok, Outcome.ofExcept_eq_ok, Outcome.ensure_eq_ok, decodeBase64_eq_ok,
    extendClaim_eq_ok, decide_eq_true_eq, Outcome.pure_eq, Outcome.ok.injEq]
  constructor
  · rintro ⟨-, ⟨ev, h₀, -, h₁, quoteBin, h₂, ccelBin, h₃, rfl⟩, -, h₄, custom, h₅, quote, h₆, _, h₇,
      _, h₈, ccel, h₉, -, h₁₀, claims, rfl, rfl⟩
    exact ⟨ev, quoteBin, custom, quote, ccelBin, ccel, claims, h₀,
      ⟨h₁, h₂, h₃, h₄, h₅, h₆, h₇, h₈, h₉, h₁₀⟩, rfl⟩
  · rintro ⟨ev, quoteBin, custom, quote, ccelBin, ccel, claims, h₀, h, rfl⟩
    exact ⟨_, ⟨ev, h₀, (), h.quote_ne, quoteBin, h.decode, ccelBin, h.decodeEventlog, rfl⟩, (),
      h.quoteBin_ne, custom, h.verification, quote, h.parse, (), h.reportData, (), h.initData, ccel,
      h.eventlog, _, h.claims, claims, rfl, rfl⟩

end Trustmee.Tdx.Component
