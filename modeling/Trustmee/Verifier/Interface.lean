import Trustmee.Foundations.Deserialize
import Trustmee.Foundations.JsonText
import Trustmee.Foundations.Outcome
import Mathlib.Tactic.SplitIfs

/-!
# Verifiers

A verifier takes evidence, the report data and the init data hash it should be bound to, and returns
claims. A native verifier is a function of the `verifier` crate. A Wasm verifier is a component: the
host passes it the bytes of the evidence's text, and it answers with a text, which says in a member
`error` that the verification failed; a trap of the component is an error of the call.
-/

namespace Trustmee

/-- `ReportData` and `InitDataHash` of the `verifier` crate, and `optional-data` of the component
interface: a value, or that none was provided. -/
inductive OptionalData
  | value (b : Bytes)
  | notProvided

abbrev ReportData := OptionalData

abbrev InitDataHash := OptionalData

/-- The claims of a verifier, each with the class of its TEE. -/
abbrev Claims := List (Json × String)

/-- `regularize_data` of the `verifier` crate: pad or truncate to the length. -/
def regularizeData (data : Bytes) (len : ℕ) : Bytes :=
  match compare data.length len with
  | .lt => data ++ List.replicate (len - data.length) 0
  | .eq => data
  | .gt => data.take len

theorem regularizeData_of_le {data : Bytes} {len : ℕ} (h : data.length ≤ len) :
    regularizeData data len = data ++ List.replicate (len - data.length) 0 := by
  unfold regularizeData
  split
  · rfl
  · next heq =>
    have hlen : data.length = len := Nat.compare_eq_eq.1 heq
    rw [hlen, Nat.sub_self, List.replicate_zero, List.append_nil]
  · next heq =>
    have hlt : len < data.length := Nat.compare_eq_gt.1 heq
    omega

/-! ## Native verifiers -/

/-- `Verifier::evaluate`. -/
abbrev NativeVerifier := Json → ReportData → InitDataHash → Outcome Claims

/-- One of the claims is an object with the member. -/
def Emits (claims : Claims) (name : String) : Prop := ∃ c ∈ claims, (c.1.get name).isSome = true

/-- A report data claim means that the expected report data was compared with the evidence: `Bound`
says that the evidence's field is the expected one. -/
def BindsReportData (verifier : NativeVerifier) (Bound : Json → Bytes → Prop) : Prop :=
  ∀ evidence expected initDataHash claims,
    verifier evidence (.value expected) initDataHash = .ok claims →
      Emits claims "report_data" → Bound evidence expected

/-- An init data claim means that the expected init data hash was compared with the evidence. -/
def BindsInitData (verifier : NativeVerifier) (Bound : Json → Bytes → Prop) : Prop :=
  ∀ evidence reportData expected claims,
    verifier evidence reportData (.value expected) = .ok claims →
      Emits claims "init_data" → Bound evidence expected

/-- Accepted evidence gives one piece of claims, of the class. -/
def GivesOne (verifier : NativeVerifier) (teeClass : String) : Prop :=
  ∀ evidence reportData initDataHash, (verifier evidence reportData initDataHash).Ensures
    fun claims => ∃ v, claims = [(v, teeClass)]

theorem GivesOne.classes {verifier : NativeVerifier} {teeClass : String}
    (hone : GivesOne verifier teeClass) {evidence : Json} {reportData : ReportData}
    {initDataHash : InitDataHash} {claims : Claims}
    (h : verifier evidence reportData initDataHash = .ok claims) :
    claims.map Prod.snd = List.replicate 1 teeClass := by
  obtain ⟨v, rfl⟩ := hone _ _ _ _ h
  rfl

theorem emits_singleton {v : Json} {cls name : String} :
    Emits [(v, cls)] name ↔ (v.get name).isSome = true := by
  simp [Emits]

theorem not_emits_singleton {v : Json} {cls name : String} (h : v.get name = none) :
    ¬ Emits [(v, cls)] name := by
  rw [emits_singleton, h]
  exact Bool.false_ne_true

/-! ## Wasm verifiers -/

/-- `evaluate` of the component interface. -/
abbrev WasmVerifier := Bytes → OptionalData → OptionalData → Outcome String

/-- The argument of the component. -/
def OptionalData.ofOption : Option Bytes → OptionalData
  | some v => .value v
  | none => .notProvided

/-- What the component makes of its argument. -/
def OptionalData.toOption : OptionalData → Option Bytes
  | .value v => some v
  | .notProvided => none

@[simp] theorem OptionalData.toOption_ofOption (o : Option Bytes) : (ofOption o).toOption = o := by
  cases o <;> rfl

/-- How a component reports an error. -/
def failure (e : Error) : Json :=
  .object (Json.Map.ofList
    [("status", .string "failed"), ("error", .string (String.intercalate ": " e))])

/-- What a component answers, given the claims that its `evaluate_impl` returns. -/
def answer (result : Outcome Json.Map) : Outcome Json :=
  match result with
  | .ok claims => .ok (.object claims)
  | .err e => .ok (failure e)
  | .panic m => .panic m

/-- The text of an answer. -/
def answerText (result : Outcome Json.Map) : Outcome String := do
  let value ← answer result
  return value.print

/-- The host's call of `evaluate`: a trap is an error. -/
def callEvaluate (verifier : WasmVerifier) (evidence : Bytes) (reportData initData : OptionalData) :
    Outcome String :=
  match verifier evidence reportData initData with
  | .ok out => .ok out
  | .err e => .err e
  | .panic m => .err ["wasm trap: " ++ m]

/-- `WasmVerifierHost::evaluate`, with the component instantiated. -/
def hostEvaluate (serde : SerdeJson) (verifier : WasmVerifier) (evidence : Json)
    (expectedReportData expectedInitDataHash : Option Bytes) : Outcome Json := do
  let evidenceBytes := toUtf8 evidence.print
  let out ← callEvaluate verifier evidenceBytes (.ofOption expectedReportData)
    (.ofOption expectedInitDataHash)
  let value ← (Outcome.ofExcept (serde.fromStr .ok out)).context
    "component returned non-JSON string"
  if (value.get "error").isSome then
    .bail ("wasm verifier reported failure: " ++ value.print)
  else return value

theorem callEvaluate_eq_ok {verifier : WasmVerifier} {evidence : Bytes}
    {reportData initData : OptionalData} {out : String} :
    callEvaluate verifier evidence reportData initData = .ok out ↔
      verifier evidence reportData initData = .ok out := by
  unfold callEvaluate
  cases verifier evidence reportData initData <;> simp

theorem get_error_failure (e : Error) : ((failure e).get "error").isSome = true := by
  simp [failure, Json.Map.ofList, Json.Map.extend]

/-- **The host returns the claims of a component that answers in the text of a value**, when this
text reads back and no claim is called `error`. -/
theorem hostEvaluate_eq_ok {serde : SerdeJson} {verifier : WasmVerifier} {evidence : Json}
    {expectedReportData expectedInitDataHash : Option Bytes} {result : Outcome Json.Map}
    (hverifier : verifier (toUtf8 evidence.print) (.ofOption expectedReportData)
      (.ofOption expectedInitDataHash) = answerText result)
    (hreads : ∀ v, answer result = .ok v → serde.Reads .ok v) {value : Json} :
    hostEvaluate serde verifier evidence expectedReportData expectedInitDataHash = .ok value ↔
      ∃ claims, result = .ok claims ∧ Json.Map.get claims "error" = none ∧
        value = .object claims := by
  simp only [hostEvaluate, Outcome.bind_eq_ok, callEvaluate_eq_ok, hverifier, answerText,
    Outcome.context_eq_ok, Outcome.ofExcept_eq_ok]
  constructor
  · rintro ⟨out, ⟨v, hv, hout⟩, value', hread, hvalue⟩
    cases hout
    obtain rfl : v = value' := by simpa using (hreads v hv value').1 hread
    split_ifs at hvalue with herror
    · simp at hvalue
    · cases hvalue
      cases result with
      | ok claims =>
        cases hv
        exact ⟨claims, rfl, by simpa using herror, rfl⟩
      | err e =>
        cases hv
        exact absurd (get_error_failure e) herror
      | panic m => cases hv
  · rintro ⟨claims, rfl, herror, rfl⟩
    refine ⟨_, ⟨_, rfl, rfl⟩, _, (hreads _ rfl _).2 rfl, ?_⟩
    simp [herror]

end Trustmee
