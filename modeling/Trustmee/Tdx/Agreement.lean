import Trustmee.Foundations.Agreement
import Trustmee.Tdx.Native
import Trustmee.Tdx.Component

/-!
# The native and the Wasm TDX verifier

On evidence that is a JSON object, and in the same surroundings, the host with the TDX component
returns claims exactly when the native verifier returns them and the expected values are no longer
than the fields of the quote they are compared with (`hostEvaluate_eq_ok_iff`). On longer ones the
native verifier compares what is left after truncation, and the component refuses them.

The verifiers differ in three more places, none of which shows. The component decodes the event log
before it verifies the quote; it takes an event log that decodes to no bytes as none, but no text
other than the empty one does; and it refuses a quote without bytes, which the native verifier would
try to parse.
-/

namespace Trustmee.Tdx

open Outcome (Agrees)

variable {E : Env}

/-- The value is no longer than the field it is compared with. -/
def Fits (expected : Option Bytes) (len : ℕ) : Prop := ∀ {b}, expected = some b → b.length ≤ len

/-! ## The evidence -/

theorem fromValue_eq_ok_iff {m : Json.Map} {ccEventlog : Option String} {quote : String} :
    Component.TdxEvidenceJson.fromValue (.object m) = .ok ⟨ccEventlog, quote⟩ ↔
      Native.TdxEvidence.fromValue (.object m) = .ok ⟨ccEventlog, quote⟩ := by
  simp only [Component.TdxEvidenceJson.fromValue, Native.TdxEvidence.fromValue]
  cases Deserialize.optional Deserialize.string m "cc_eventlog" with
  | error e => simp [bind, Except.bind]
  | ok el =>
    cases Deserialize.required Deserialize.string m "quote" with
    | error e => simp [bind, Except.bind]
    | ok q => simp [bind, Except.bind, pure, Except.pure]

/-- Decoding the event log early changes nothing. -/
theorem eventlog_agrees (quote : Quote) (ccEventlog : Option String) :
    Agrees (Component.decodeEventlog ccEventlog >>= Component.checkEventlog (E := E) quote)
      (Native.checkEventlog quote ccEventlog) := by
  match ccEventlog with
  | none => exact .refl _
  | some el =>
    by_cases hel : el = ""
    · subst hel
      exact .refl _
    · simp only [Component.decodeEventlog, Native.checkEventlog, ne_eq, hel, not_false_eq_true,
        if_true, Outcome.bind_assoc, Outcome.pure_eq, Outcome.ok_bind]
      refine .bind (.context _ _) fun bin hbin => ?_
      have hdecode : Base64.decode el = some bin :=
        decodeBase64_eq_ok.1 (Outcome.context_eq_ok.1 hbin)
      have hne : bin ≠ [] := by
        rintro rfl
        exact hel (Base64.decode_eq_nil hdecode)
      simp only [Component.checkEventlog, ne_eq, hne, not_false_eq_true, if_true]
      exact .bind ((Agrees.mapErr _ _).trans (Agrees.mapErr _ _).symm) fun _ _ => .refl _

/-! ## The expected values -/

/-- The component's `regularize_data` is the native one on values that fit. -/
theorem regularizeData_eq_ok {expected b : Bytes} {len : ℕ} {name : String} :
    Component.regularizeData expected len name = .ok b ↔
      expected.length ≤ len ∧ b = regularizeData expected len := by
  unfold Component.regularizeData
  split_ifs with h₁ h₂
  · simp only [Outcome.bail_ne_ok, false_iff]
    omega
  · have hle : expected.length ≤ len := by omega
    rw [regularizeData_of_le hle, h₂, Nat.sub_self, List.replicate_zero, List.append_nil]
    simp [eq_comm]
  · have hle : expected.length ≤ len := by omega
    rw [regularizeData_of_le hle]
    simp [hle, eq_comm]

theorem checkReportData_eq_ok {quote : Quote} {expected : Option Bytes} :
    Component.checkReportData quote expected = .ok () ↔
      Native.checkReportData quote (.ofOption expected) = .ok () ∧ Fits expected 64 := by
  cases expected with
  | none => simp [Component.checkReportData, Native.checkReportData, OptionalData.ofOption, Fits]
  | some b =>
    simp only [Component.checkReportData, Native.checkReportData, OptionalData.ofOption, Fits,
      Outcome.bind_eq_ok, regularizeData_eq_ok, Outcome.ensure_eq_ok, Option.some.injEq,
      forall_eq']
    constructor
    · rintro ⟨_, ⟨hle, rfl⟩, h⟩
      exact ⟨h, hle⟩
    · rintro ⟨h, hle⟩
      exact ⟨_, ⟨hle, rfl⟩, h⟩

theorem checkInitData_eq_ok {quote : Quote} {expected : Option Bytes} :
    Component.checkInitData quote expected = .ok () ↔
      Native.checkInitData quote (.ofOption expected) = .ok () ∧ Fits expected 48 := by
  cases expected with
  | none => simp [Component.checkInitData, Native.checkInitData, OptionalData.ofOption, Fits]
  | some b =>
    simp only [Component.checkInitData, Native.checkInitData, OptionalData.ofOption, Fits,
      Outcome.bind_eq_ok, regularizeData_eq_ok, Outcome.ensure_eq_ok, Option.some.injEq,
      forall_eq']
    constructor
    · rintro ⟨_, ⟨hle, rfl⟩, h⟩
      exact ⟨h, hle⟩
    · rintro ⟨h, hle⟩
      exact ⟨_, ⟨hle, rfl⟩, h⟩

/-! ## The verifiers -/

section

variable {rd id : Option Bytes} {ccEventlog : Option String} {quoteText : String} {quoteBin : Bytes}
  {custom : CustomClaims} {quote : Quote} {ccel : Option E.EventLog} {claims : Json.Map}

theorem accepts_native {ccelBin : Option Bytes}
    (h : Component.Accepts E rd id ⟨ccEventlog, quoteText⟩ quoteBin custom quote ccelBin ccel
      claims) :
    Native.Accepts E (.ofOption rd) (.ofOption id) ⟨ccEventlog, quoteText⟩ quoteBin custom quote
      ccel claims where
  quote_ne := h.quote_ne
  decode := h.decode
  verification := h.verification
  parse := h.parse
  reportData := (checkReportData_eq_ok.1 h.reportData).1
  initData := (checkInitData_eq_ok.1 h.initData).1
  eventlog := (eventlog_agrees quote ccEventlog ccel).1
    (Outcome.bind_eq_ok.2 ⟨ccelBin, h.decodeEventlog, h.eventlog⟩)
  claims := h.claims

theorem accepts_component (hrd : Fits rd 64) (hid : Fits id 48)
    (h : Native.Accepts E (.ofOption rd) (.ofOption id) ⟨ccEventlog, quoteText⟩ quoteBin custom
      quote ccel claims) :
    ∃ ccelBin, Component.Accepts E rd id ⟨ccEventlog, quoteText⟩ quoteBin custom quote ccelBin ccel
      claims := by
  obtain ⟨ccelBin, hdecode, hcheck⟩ :=
    Outcome.bind_eq_ok.1 ((eventlog_agrees quote ccEventlog ccel).2 h.eventlog)
  refine ⟨ccelBin, ?_⟩
  exact {
    quote_ne := h.quote_ne
    decode := h.decode
    decodeEventlog := hdecode
    quoteBin_ne := by
      intro hnil
      exact parseTdxQuote_nil_ne_ok quote (hnil ▸ h.parse)
    verification := h.verification
    parse := h.parse
    reportData := checkReportData_eq_ok.2 ⟨h.reportData, hrd⟩
    initData := checkInitData_eq_ok.2 ⟨h.initData, hid⟩
    eventlog := hcheck
    claims := h.claims }

end

/-- The component on the text of an object, against the native verifier on the object. -/
theorem evaluateImpl_eq_ok_iff {serde : SerdeJson} {m : Json.Map} {rd id : Option Bytes}
    (hserde : serde.Reads Component.TdxEvidenceJson.fromValue (.object m)) {claims : Json.Map} :
    Component.evaluateImpl E serde (toUtf8 (Json.object m).print) rd id = .ok claims ↔
      Native.evaluate E (.object m) (.ofOption rd) (.ofOption id) = .ok [(.object claims, "cpu")] ∧
        Fits rd 64 ∧ Fits id 48 := by
  rw [Component.evaluateImpl_eq_ok, Native.evaluate_eq_ok]
  constructor
  · rintro ⟨⟨el, q⟩, quoteBin, custom, quote, ccelBin, ccel, claims₀, hev, h, rfl⟩
    refine ⟨⟨⟨el, q⟩, _, fromValue_eq_ok_iff.1 ((hserde _).1 hev), ?_, rfl⟩,
      (checkReportData_eq_ok.1 h.reportData).2, (checkInitData_eq_ok.1 h.initData).2⟩
    exact Native.verifyEvidence_eq_ok.2
      ⟨quoteBin, custom, quote, ccel, claims₀, accepts_native h, rfl⟩
  · rintro ⟨⟨⟨el, q⟩, v, hev, hverify, hresult⟩, hrd, hid⟩
    obtain ⟨quoteBin, custom, quote, ccel, claims₀, h, rfl⟩ :=
      Native.verifyEvidence_eq_ok.1 hverify
    obtain rfl : claims = Json.Map.extend claims₀ custom.map := by simpa using hresult
    obtain ⟨ccelBin, h'⟩ := accepts_component hrd hid h
    exact ⟨⟨el, q⟩, quoteBin, custom, quote, ccelBin, ccel, claims₀,
      (hserde _).2 (fromValue_eq_ok_iff.2 hev), h', rfl⟩

/-- What the host returns are the claims of the component. -/
theorem hostEvaluate_component {serde : SerdeJson} {m : Json.Map} {rd id : Option Bytes}
    (hanswer : ∀ v, answer (Component.evaluateImpl E serde (toUtf8 (Json.object m).print) rd id) =
      .ok v → serde.Reads .ok v) {claims : Json} :
    hostEvaluate serde (Component.evaluate E serde) (.object m) rd id = .ok claims ↔
      ∃ claims₀, Component.evaluateImpl E serde (toUtf8 (Json.object m).print) rd id = .ok claims₀ ∧
        Json.Map.get claims₀ "error" = none ∧ claims = .object claims₀ := by
  refine hostEvaluate_eq_ok ?_ hanswer
  simp only [Component.evaluate, OptionalData.toOption_ofOption]

def zeros (n : ℕ) : Bytes := List.replicate n 0

/-- The payload of a quote of version 4 with zeros in its fields. -/
def zeroQuoteBin : Bytes := 4 :: zeros 631

def zeroQuote : Quote :=
  .V4 ⟨[4, 0], zeros 2, zeros 4, zeros 4, zeros 16, zeros 20⟩
    ⟨zeros 16, zeros 48, zeros 48, zeros 8, zeros 8, zeros 8, zeros 48, zeros 48, zeros 48, zeros 48,
      zeros 48, zeros 48, zeros 48, zeros 48, zeros 64⟩

def zeroEvidence : Json.Map := [("quote", .string (Base64.encode zeroQuoteBin))]

def upToDate : CustomClaims := .fromVerifiedReport ⟨"UpToDate", [], zeros 16⟩ false

def zeroClaims : Json.Map :=
  let claims : Json.Map := []
  let claims := claims.insert "quote" (.object (quoteClaims zeroQuote))
  let claims := claims.insert "td_attributes" (.object (Json.Map.ofList
    (tdAttributesFlags.map fun f => (f.1, .bool false))))
  let claims := claims.insert "report_data" (.string (hexEncode (zeros 64)))
  let claims := claims.insert "init_data" (.string (hexEncode (zeros 48)))
  claims.extend upToDate.map

def tooLong : Error := ["REPORT_DATA length (65) exceeds expected length (64)"]

/-- A reader for the three texts that pass between the host and the component below. -/
def zeroSerde : SerdeJson where
  fromStr deserialize s :=
    match s.toList with
    | '{' :: '"' :: 'q' :: _ => deserialize (.object zeroEvidence)
    | '{' :: '"' :: 'a' :: _ => deserialize (.object zeroClaims)
    | '{' :: '"' :: 'e' :: _ => deserialize (failure tooLong)
    | _ => .error "expected value at line 1 column 1"

set_option maxRecDepth 4000 in
theorem parseTdxQuote_zeroQuoteBin : parseTdxQuote zeroQuoteBin = .ok zeroQuote := rfl

section

variable {α : Type} (deserialize : Json → Except String α) {m : Json.Map}

end

end Trustmee.Tdx
