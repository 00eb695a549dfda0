import Trustmee.Foundations.Agreement
import Trustmee.Snp.Soundness
import Trustmee.Snp.Component

/-!
# The native and the Wasm SNP verifier

On evidence that is a JSON object the component returns claims exactly when the native verifier
does, and the same ones, for every certificate table (`component_agrees`), and so does the host with
the component (`host_agrees`). The copies of the functions are equal, the loops over the table by
induction; the two differ in how they ask the key server: the component reads the body of an answer
before its status, and looks in its cache first. A cached VCEK has to be what the key server
answers.
-/

namespace Trustmee.Snp

open Outcome (Agrees)

variable {V : Env}

/-! ## The evidence -/

/-- The evidence of the component is that of the native verifier. -/
def Component.SnpEvidence.toNative (evidence : Component.SnpEvidence) : Native.SnpEvidence :=
  ⟨evidence.attestationReport, evidence.certChain⟩

theorem fromValue_eq_ok_iff {m : Json.Map} {evidence : Component.SnpEvidence} :
    Component.SnpEvidence.fromValue V (.object m) = .ok evidence ↔
      Native.SnpEvidence.fromValue V (.object m) = .ok evidence.toNative := by
  obtain ⟨report, chain⟩ := evidence
  simp only [Component.SnpEvidence.fromValue, Native.SnpEvidence.fromValue,
    Component.SnpEvidence.toNative]
  cases Deserialize.required V.reportFromValue m "attestation_report" with
  | error e => simp [bind, Except.bind]
  | ok report' =>
    cases Deserialize.optional V.certTableFromValue m "cert_chain" with
    | error e => simp [bind, Except.bind]
    | ok chain' => simp [bind, Except.bind, pure, Except.pure]

theorem parseEvidenceBytes_eq_ok_iff {serde : SerdeJson} {m : Json.Map}
    {evidence : Component.SnpEvidence}
    (hserde : serde.Reads (Component.SnpEvidence.fromValue V) (.object m)) :
    Component.parseEvidenceBytes V serde (toUtf8 (Json.object m).print) = .ok evidence ↔
      Native.SnpEvidence.fromValue V (.object m) = .ok evidence.toNative := by
  rw [Component.parseEvidenceBytes, fromUtf8_toUtf8]
  simp only [Json.startsWithBrace_print, if_true, Outcome.context_eq_ok, Outcome.ofExcept_eq_ok]
  rw [hserde evidence, fromValue_eq_ok_iff]

/-! ## The certificate table -/

section Table

variable (vendorCerts : VendorCertificates V.Certificate)

def Component.Certs.toNative (certs : Component.Certs V) : Native.Certs V :=
  ⟨certs.ask, certs.ark, certs.vek, certs.vekType⟩

/-- One entry does the same in both loops. -/
theorem readEntry_toNative (certs : Component.Certs V) (e : CertTableEntry) :
    Native.readEntry vendorCerts certs.toNative e =
      (Component.readEntry vendorCerts certs e >>= fun certs' => .ok certs'.toNative) := by
  obtain ⟨certType, data⟩ := e
  cases certType with
  | ARK =>
    simp only [Native.readEntry, Component.readEntry, Outcome.bind_assoc]
    rfl
  | ASK =>
    simp only [Native.readEntry, Component.readEntry, Outcome.bind_assoc]
    rfl
  | VCEK | VLEK =>
    obtain ⟨ask, ark, vek, vekType⟩ := certs
    cases vek with
    | none =>
      simp only [Native.readEntry, Component.readEntry, Component.Certs.toNative,
        Option.isNone_none, if_true, Outcome.bind_assoc]
      rfl
    | some vek => rfl
  | Empty | CRL | OTHER => rfl

/-- The loops agree, by induction on the table. -/
theorem readTable_toNative (certs : Component.Certs V) (table : List CertTableEntry) :
    Native.readTable vendorCerts certs.toNative table =
      (Component.readTable vendorCerts certs table >>= fun certs' => .ok certs'.toNative) := by
  induction table generalizing certs with
  | nil => rfl
  | cons e table ih =>
    rw [Native.readTable, Component.readTable, readEntry_toNative, Outcome.bind_assoc,
      Outcome.bind_assoc]
    congr 1
    funext mid
    exact ih mid

theorem vekFromTable_eq (table : List CertTableEntry) :
    Native.vekFromTable vendorCerts table = Component.vekFromTable vendorCerts table := by
  have htable := readTable_toNative vendorCerts ⟨none, none, none, .Vcek⟩ table
  rw [Native.vekFromTable, Component.vekFromTable]
  show (Native.readTable vendorCerts (Component.Certs.toNative ⟨none, none, none, .Vcek⟩) table >>=
    _) = _
  rw [htable, Outcome.bind_assoc]
  rfl

end Table

/-! ## The key server -/

section Kds

variable {cache : String → Option Bytes}

/-- A request that reads the body first finds the same VCEK. -/
theorem requestVcek_eq_ok {url : String} {body : Bytes} :
    Component.requestVcek V url = .ok body ↔ V.kds url = .ok ⟨200, .ok body⟩ := by
  simp only [Component.requestVcek, Outcome.bind_eq_ok, Outcome.context_eq_ok,
    Outcome.ofExcept_eq_ok, Outcome.ensure_eq_ok, decide_eq_true_eq, Outcome.pure_eq,
    Outcome.ok.injEq]
  constructor
  · rintro ⟨⟨status, body'⟩, hresp, b, hbody, -, hstatus, rfl⟩
    cases hbody
    cases hstatus
    exact hresp
  · intro hresp
    exact ⟨_, hresp, body, rfl, (), rfl, rfl⟩

theorem fetchVcekFromKds_agrees
    (hcache : ∀ url body, cache url = some body → V.kds url = .ok ⟨200, .ok body⟩)
    (report : AttestationReport) (procGen : ProcessorGeneration) :
    Agrees (Component.fetchVcekFromKds V cache report procGen)
      (Native.fetchVcekFromKds V report procGen) := by
  intro body
  rw [Native.fetchVcekFromKds_eq_ok, Component.fetchVcekFromKds, Outcome.bind_eq_ok]
  refine exists_congr fun url => and_congr_right fun _ => ?_
  cases hhit : cache url with
  | none => exact requestVcek_eq_ok
  | some bytes => simp [hcache url bytes hhit]

theorem selectVek_agrees
    (hcache : ∀ url body, cache url = some body → V.kds url = .ok ⟨200, .ok body⟩)
    (report : AttestationReport) (procGen : ProcessorGeneration)
    (certChain : Option (List CertTableEntry)) :
    Agrees (Component.selectVek (V := V) cache report procGen certChain)
      (Native.selectVek report procGen certChain) := by
  cases certChain with
  | some table =>
    simp only [Component.selectVek, Native.selectVek, vekFromTable_eq]
    exact .refl _
  | none =>
    have hfetch := fetchVcekFromKds_agrees hcache report procGen
    have hcontext := (Agrees.context (Component.fetchVcekFromKds V cache report procGen)
      "Failed to fetch VCEK from KDS").trans (hfetch.trans
        (Agrees.context (Native.fetchVcekFromKds V report procGen)
          "Failed to fetch VCEK from KDS").symm)
    exact hcontext.bind fun _ _ => .refl _

end Kds

/-! ## The verifiers -/

theorem verifyReportTcb_eq (report : AttestationReport) (vek : V.Certificate)
    (procGen : ProcessorGeneration) :
    Component.verifyReportTcb report vek procGen = Native.verifyReportTcb report vek procGen := rfl

theorem checkReportData_eq (report : AttestationReport) (rd : Option Bytes) :
    Component.checkReportData report rd = Native.checkReportData report (.ofOption rd) := by
  cases rd <;> rfl

theorem checkHostData_eq (report : AttestationReport) (id : Option Bytes) :
    Component.checkHostData report id = Native.checkHostData report (.ofOption id) := by
  cases id <;> rfl

/-- The two procedures, on the same evidence. -/
theorem evaluate_agrees {cache : String → Option Bytes}
    (hcache : ∀ url body, cache url = some body → V.kds url = .ok ⟨200, .ok body⟩)
    (evidence : Component.SnpEvidence) (rd id : Option Bytes) :
    Agrees (Component.evaluate V cache evidence rd id)
      (Native.verifyEvidence V evidence.toNative (.ofOption rd) (.ofOption id)) := by
  simp only [Component.evaluate, Native.verifyEvidence, checkReportData_eq, checkHostData_eq]
  refine .bind (.refl _) fun _ _ => .bind (.refl _) fun procGen _ => ?_
  refine .bind (selectVek_agrees hcache _ procGen _) fun vek _ => ?_
  rw [verifyReportTcb_eq]
  exact .refl _

/-- The component on the text of an object, against the native verifier on the object. -/
theorem evaluateBytes_eq_ok_iff {cache : String → Option Bytes} {serde : SerdeJson} {m : Json.Map}
    {rd id : Option Bytes} (hserde : serde.Reads (Component.SnpEvidence.fromValue V) (.object m))
    (hcache : ∀ url body, cache url = some body → V.kds url = .ok ⟨200, .ok body⟩) {claims : Json} :
    (Component.parseEvidenceBytes V serde (toUtf8 (Json.object m).print) >>= fun evidence =>
      Component.evaluate V cache evidence rd id) = .ok claims ↔
      ∃ ev, Native.SnpEvidence.fromValue V (.object m) = .ok ev ∧
        Native.verifyEvidence V ev (.ofOption rd) (.ofOption id) = .ok claims := by
  simp only [Outcome.bind_eq_ok, parseEvidenceBytes_eq_ok_iff hserde]
  constructor
  · rintro ⟨evidence, hevidence, h⟩
    exact ⟨_, hevidence, (evaluate_agrees hcache evidence rd id claims).1 h⟩
  · rintro ⟨⟨report, chain⟩, hevidence, h⟩
    exact ⟨⟨report, chain⟩, hevidence, (evaluate_agrees hcache ⟨report, chain⟩ rd id claims).2 h⟩

/-- **The component and the native verifier return the same claims**, on every JSON object. -/
theorem component_agrees (V : Env) (cache : String → Option Bytes) (serde : SerdeJson)
    (m : Json.Map) (rd id : Option Bytes)
    (hserde : serde.Reads (Component.SnpEvidence.fromValue V) (.object m))
    (hcache : ∀ url body, cache url = some body → V.kds url = .ok ⟨200, .ok body⟩) (claims : Json) :
    (Component.parseEvidenceBytes V serde (toUtf8 (Json.object m).print) >>= fun evidence =>
      Component.evaluate V cache evidence rd id) = .ok claims ↔
      Native.evaluate V (.object m) (.ofOption rd) (.ofOption id) = .ok [(claims, "cpu")] := by
  rw [evaluateBytes_eq_ok_iff hserde hcache, Native.evaluate_eq_ok]
  constructor
  · rintro ⟨ev, hev, h⟩
    exact ⟨ev, claims, hev, h, rfl⟩
  · rintro ⟨ev, v, hev, h, hv⟩
    obtain rfl : claims = v := by simpa using hv
    exact ⟨ev, hev, h⟩

/-- The claims of a report are an object, and none is called `error`. -/
theorem parseTeeEvidence_eq_object (report : AttestationReport) :
    ∃ claims, Native.parseTeeEvidence report = .object claims ∧
      Json.Map.get claims "error" = none := by
  refine ⟨_, rfl, ?_⟩
  rw [Json.Map.ofList, Json.Map.get_extend_of_none]
  · rfl
  · simp [Json.Map.get_cons]

theorem evaluateImpl_eq_ok_iff {cache : String → Option Bytes} {serde : SerdeJson} {m : Json.Map}
    {rd id : Option Bytes} {claims : Json.Map} :
    Component.evaluateImpl V cache serde (toUtf8 (Json.object m).print) rd id = .ok claims ↔
      (Component.parseEvidenceBytes V serde (toUtf8 (Json.object m).print) >>= fun evidence =>
        Component.evaluate V cache evidence rd id) = .ok (.object claims) := by
  simp only [Component.evaluateImpl, Outcome.bind_eq_ok, Outcome.context_eq_ok, Outcome.okOr_eq_ok]
  constructor
  · rintro ⟨evidence, hevidence, v, h, hv⟩
    cases v with
    | object m =>
      cases hv
      exact ⟨evidence, hevidence, h⟩
    | _ => cases hv
  · rintro ⟨evidence, hevidence, h⟩
    exact ⟨evidence, hevidence, _, h, rfl⟩

/-- **The host with the component and the native verifier return the same claims.** -/
theorem host_agrees {cache : String → Option Bytes} {serde : SerdeJson} {m : Json.Map}
    {rd id : Option Bytes} (hserde : serde.Reads (Component.SnpEvidence.fromValue V) (.object m))
    (hcache : ∀ url body, cache url = some body → V.kds url = .ok ⟨200, .ok body⟩)
    (hanswer : ∀ v, answer (Component.evaluateImpl V cache serde (toUtf8 (Json.object m).print) rd
      id) = .ok v → serde.Reads .ok v) {claims : Json} :
    hostEvaluate serde (Component.verifier V cache serde) (.object m) rd id = .ok claims ↔
      Native.evaluate V (.object m) (.ofOption rd) (.ofOption id) = .ok [(claims, "cpu")] := by
  have hverifier : Component.verifier V cache serde (toUtf8 (Json.object m).print) (.ofOption rd)
      (.ofOption id) =
        answerText (Component.evaluateImpl V cache serde (toUtf8 (Json.object m).print) rd id) := by
    simp only [Component.verifier, OptionalData.toOption_ofOption]
  rw [hostEvaluate_eq_ok hverifier hanswer, Native.evaluate_eq_ok]
  simp only [evaluateImpl_eq_ok_iff, evaluateBytes_eq_ok_iff hserde hcache]
  constructor
  · rintro ⟨claims₀, ⟨ev, hev, h⟩, -, rfl⟩
    exact ⟨ev, _, hev, h, rfl⟩
  · rintro ⟨ev, v, hev, h, hv⟩
    obtain rfl : claims = v := by simpa using hv
    obtain ⟨claims₀, hobject, herror⟩ := parseTeeEvidence_eq_object ev.attestationReport
    obtain rfl : claims = .object claims₀ := (Native.verifyEvidence_eq_ok.1 h).2.trans hobject
    exact ⟨claims₀, ⟨ev, hev, h⟩, herror, rfl⟩

/-! ## A report with a cached key -/

def milanReport : AttestationReport where
  version := 3
  policy := ⟨0x30000⟩
  vmpl := 0
  platInfo := ⟨1⟩
  reportData := Vector.replicate 64 0
  measurement := Vector.replicate 48 0
  hostData := Vector.replicate 32 0
  reportedTcb := ⟨none, 0, 0, 0, 0⟩
  cpuidFamId := some 0x19
  cpuidModId := some 0x1
  chipId := Vector.replicate 64 1
  other := []

/-- A key server that has one VCEK, which is in the cache. -/
def milanEnv : Env where
  Certificate := Bytes
  fromBytes b := .ok b
  verify signer signee :=
    if signer = [1] ∧ (signee = [1] ∨ signee = [2]) ∨ signer = [2] ∧ signee = [4] then .ok ()
    else .error "invalid signature"
  verifyReport vek _ := if vek = [4] then .ok () else .error "invalid signature"
  toDer c := .ok c
  TbsCertificate := Unit
  parseX509 _ := .ok ()
  getExtensionUnique _ oid :=
    if oid = Native.HW_ID_OID then .ok (some (List.replicate 64 1)) else .ok (some [2, 1, 0])
  octetString _ := .error "unexpected tag"
  integer b := if b = [2, 1, 0] then .ok 0 else .error "unexpected tag"
  commonNames _ := [.ok "VCEK"]
  vendorCerts _ := ⟨[2], [1], [3]⟩
  kds _ := .ok ⟨200, .ok [4]⟩
  reportFromValue _ := .ok milanReport
  certTableFromValue _ := .error "invalid type"
  reportFromBytes _ := .error "unexpected length"

def milanEvidence : Json.Map := [("attestation_report", .object [("version", .number (.int 3))])]

def milanSerde : SerdeJson where
  fromStr deserialize s :=
    if s = (Json.object milanEvidence).print then deserialize (.object milanEvidence)
    else .error "expected value at line 1 column 1"

/-- Both accept the report. -/
theorem component_agrees_example :
    Native.evaluate milanEnv (.object milanEvidence) (.value []) .notProvided =
        .ok [(Native.parseTeeEvidence milanReport, "cpu")] ∧
      (Component.parseEvidenceBytes milanEnv milanSerde (toUtf8 (Json.object milanEvidence).print)
        >>= fun evidence => Component.evaluate milanEnv (fun _ => some [4]) evidence (some []) none) =
        .ok (Native.parseTeeEvidence milanReport) := by
  have hnative : Native.evaluate milanEnv (.object milanEvidence) (.value []) .notProvided =
      .ok [(Native.parseTeeEvidence milanReport, "cpu")] := rfl
  have hserde : milanSerde.Reads (Component.SnpEvidence.fromValue milanEnv)
      (.object milanEvidence) := by
    intro a
    simp only [milanSerde, if_true]
  refine ⟨hnative, (component_agrees milanEnv _ milanSerde milanEvidence (some []) none hserde ?_
    _).2 hnative⟩
  intro url body hbody
  cases hbody
  rfl

end Trustmee.Snp
