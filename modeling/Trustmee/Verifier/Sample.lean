import Trustmee.Verifier.Interface

/-!
# The sample verifiers

The verifiers of the `verifier` crate for the sample TEE and the sample device, whose evidence
nobody signs. Both compare the report data with the one in the evidence. The evidence has no init
data: the sample verifier repeats the hash it is given as the claim `init_data`, so that the
features that rest on init data can be tested, and the sample device verifier gives no such claim.
-/

namespace Trustmee.Sample

/-- `SampleTeeEvidence`, and `SampleDeviceEvidence`, which has the same fields. -/
structure SampleTeeEvidence where
  svn : String
  reportData : String

/-- The derived `Deserialize`. -/
def SampleTeeEvidence.fromValue (type : String) (v : Json) : Except String SampleTeeEvidence := do
  let m ← Deserialize.fields type ["svn", "report_data"] 1 v
  let svn ← Deserialize.required Deserialize.string m "svn"
  let reportData ← Deserialize.withDefault Deserialize.string "" m "report_data"
  return ⟨svn, reportData⟩

/-- The binding of the report data. -/
def checkReportData (evidence : SampleTeeEvidence) : ReportData → Outcome Unit
  | .value expected => do
    let evReportData ← (decodeBase64 evidence.reportData).context
      "base64 decode report data for sample evidence"
    Outcome.ensure (expected == evReportData) "REPORT_DATA is different from that in Sample Quote"
  | .notProvided => .ok ()

/-- `verify_tee_evidence`. The init data hash is not looked at. -/
def verifyTeeEvidence (expectedReportData : ReportData) (_expectedInitDataHash : InitDataHash)
    (evidence : SampleTeeEvidence) : Outcome Unit :=
  checkReportData evidence expectedReportData

/-- `parse_tee_evidence`. -/
def parseTeeEvidence (quote : SampleTeeEvidence) : Json.Map := .ofList
  [("svn", .string quote.svn),
   ("report_data", .string quote.reportData),
   ("launch_digest", .string "abcde"),
   ("platform_version", .object (Json.Map.ofList
     [("major", .number (.int 1)), ("minor", .number (.int 4))])),
   ("debug", .bool false)]

/-- The claim `init_data`, which repeats the expected hash. -/
def addInitData (claims : Json.Map) : InitDataHash → Json.Map
  | .value hash => claims.insert "init_data" (.string (Base64.encode hash))
  | .notProvided => claims

/-- `Sample::evaluate`. -/
def evaluate (evidence : Json) (expectedReportData : ReportData)
    (expectedInitDataHash : InitDataHash) : Outcome Claims := do
  let teeEvidence ← (Outcome.ofExcept
    (SampleTeeEvidence.fromValue "SampleTeeEvidence" evidence)).context "Deserialize Quote failed."
  (verifyTeeEvidence expectedReportData expectedInitDataHash teeEvidence).context
    "Evidence's identity verification error."
  let claims := parseTeeEvidence teeEvidence
  return [(.object (addInitData claims expectedInitDataHash), "cpu")]

/-- `parse_tee_evidence` of the sample device. -/
def parseDeviceEvidence (quote : SampleTeeEvidence) : Json.Map := .ofList
  [("svn", .string quote.svn)]

/-- `SampleDeviceVerifier::evaluate`. -/
def evaluateDevice (evidence : Json) (expectedReportData : ReportData)
    (expectedInitDataHash : InitDataHash) : Outcome Claims := do
  let teeEvidence ← (Outcome.ofExcept
    (SampleTeeEvidence.fromValue "SampleDeviceEvidence" evidence)).context
    "Deserialize Quote failed."
  (verifyTeeEvidence expectedReportData expectedInitDataHash teeEvidence).context
    "Evidence's identity verification error."
  return [(.object (parseDeviceEvidence teeEvidence), "gpu")]

/-! ## What the claims mean -/

/-- The report data of the evidence is the expected one. -/
def ReportDataBound (type : String) (evidence : Json) (expected : Bytes) : Prop :=
  ∃ ev, SampleTeeEvidence.fromValue type evidence = .ok ev ∧
    Base64.decode ev.reportData = some expected

theorem checkReportData_value {evidence : SampleTeeEvidence} {expected : Bytes} :
    checkReportData evidence (.value expected) = .ok () ↔
      Base64.decode evidence.reportData = some expected := by
  simp only [checkReportData, Outcome.bind_eq_ok, Outcome.context_eq_ok, decodeBase64_eq_ok,
    Outcome.ensure_eq_ok, beq_iff_eq]
  constructor
  · rintro ⟨b, hb, rfl⟩
    exact hb
  · intro h
    exact ⟨expected, h, rfl⟩

/-- The sample verifier compares the report data. -/
theorem evaluate_bindsReportData :
    BindsReportData evaluate (ReportDataBound "SampleTeeEvidence") := by
  intro evidence expected initDataHash claims h _
  simp only [evaluate, Outcome.bind_eq_ok, Outcome.context_eq_ok, Outcome.ofExcept_eq_ok] at h
  obtain ⟨ev, hev, _, hcheck, -⟩ := h
  exact ⟨ev, hev, checkReportData_value.1 hcheck⟩

/-- The sample device verifier compares the report data. -/
theorem evaluateDevice_bindsReportData :
    BindsReportData evaluateDevice (ReportDataBound "SampleDeviceEvidence") := by
  intro evidence expected initDataHash claims h _
  simp only [evaluateDevice, Outcome.bind_eq_ok, Outcome.context_eq_ok, Outcome.ofExcept_eq_ok] at h
  obtain ⟨ev, hev, _, hcheck, -⟩ := h
  exact ⟨ev, hev, checkReportData_value.1 hcheck⟩

/-- The sample device verifier gives no init data claim. -/
theorem evaluateDevice_bindsInitData : BindsInitData evaluateDevice fun _ _ => False := by
  intro evidence reportData expected claims h
  simp only [evaluateDevice, Outcome.bind_eq_ok, Outcome.pure_eq, Outcome.ok.injEq] at h
  obtain ⟨ev, -, -, -, rfl⟩ := h
  exact not_emits_singleton (by simp [parseDeviceEvidence, Json.Map.ofList, Json.Map.extend_cons,
    Json.Map.get_insert])

/-- The init data claim of the sample verifier is the hash it was given, whatever the evidence. -/
theorem evaluate_initData {evidence : Json} {reportData : ReportData} {hash : Bytes}
    {claims : Claims} (h : evaluate evidence reportData (.value hash) = .ok claims) :
    ∃ v, claims = [(v, "cpu")] ∧ v.get "init_data" = some (.string (Base64.encode hash)) := by
  simp only [evaluate, Outcome.bind_eq_ok, Outcome.pure_eq, Outcome.ok.injEq] at h
  obtain ⟨ev, -, -, -, rfl⟩ := h
  exact ⟨_, rfl, Json.Map.get_insert_self _ _ _⟩

/-- The claims repeat the report data of the evidence. -/
theorem get_reportData_parseTeeEvidence (ev : SampleTeeEvidence) :
    Json.Map.get (parseTeeEvidence ev) "report_data" = some (.string ev.reportData) := by
  simp [parseTeeEvidence, Json.Map.ofList, Json.Map.extend_cons, Json.Map.get_insert]

theorem get_initData_parseTeeEvidence (ev : SampleTeeEvidence) :
    Json.Map.get (parseTeeEvidence ev) "init_data" = none := by
  simp [parseTeeEvidence, Json.Map.ofList, Json.Map.extend_cons, Json.Map.get_insert]

/-- One piece of claims comes from accepted evidence. -/
theorem evaluate_givesOne : GivesOne evaluate "cpu" := by
  intro evidence reportData initDataHash
  exact .bind fun _ _ => .bind fun _ _ => .ok ⟨_, rfl⟩

/-- One piece of claims comes from accepted evidence. -/
theorem evaluateDevice_givesOne : GivesOne evaluateDevice "gpu" := by
  intro evidence reportData initDataHash
  exact .bind fun _ _ => .bind fun _ _ => .ok ⟨_, rfl⟩

end Trustmee.Sample
