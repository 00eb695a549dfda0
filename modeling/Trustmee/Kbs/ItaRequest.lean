import Trustmee.Foundations.Table
import Trustmee.Kbs.IntelTrustAuthority

/-!
# What is sent to Intel Trust Authority

An element of the evidence becomes at most one entry of the request, in the place for its
technology. An element that is alone in its place is in the body with its own runtime data, and when
no two elements share a place the order of the evidence makes no difference. Of an NVIDIA element
the first device is sent, and nothing of one without devices (`verify_spec`).
-/

namespace Trustmee.Kbs.IntelTrustAuthority

/-! ## The places of the body -/

/-- A place for evidence. -/
inductive Slot
  | tdx
  | sgx
  | nvgpu
  deriving DecidableEq

def Slot.name : Slot → String
  | tdx => "tdx"
  | sgx => "sgx"
  | nvgpu => "nvgpu"

/-- Evidence as it is sent. -/
inductive Entry
  | tdx (evidence : DcapTeeEvidence)
  | sgx (evidence : DcapTeeEvidence)
  | nvgpu (device : NvDeviceReportAndCert)

def Entry.slot : Entry → Slot
  | tdx _ => .tdx
  | sgx _ => .sgx
  | nvgpu _ => .nvgpu

def Entry.toJson : Entry → Json
  | tdx evidence => evidence.toJson
  | sgx evidence => evidence.toJson
  | nvgpu device => device.toJson

/-- What stands in the places. -/
def AttestReqData.entries (reqData : AttestReqData) : Table Slot Entry
  | .tdx => reqData.tdx.map .tdx
  | .sgx => reqData.sgx.map .sgx
  | .nvgpu => reqData.nvgpu.map .nvgpu

/-- The data with an entry in its place. -/
def AttestReqData.put (reqData : AttestReqData) : Entry → AttestReqData
  | .tdx evidence => { reqData with tdx := some evidence }
  | .sgx evidence => { reqData with sgx := some evidence }
  | .nvgpu device => { reqData with nvgpu := some device }

theorem AttestReqData.entries_put (reqData : AttestReqData) (entry : Entry) :
    (reqData.put entry).entries = reqData.entries.insert entry.slot entry := by
  ext slot : 1
  cases entry <;> cases slot <;> rfl

/-- Entries for two places can be put in either order. -/
theorem AttestReqData.put_comm (reqData : AttestReqData) {entry entry' : Entry}
    (h : entry.slot ≠ entry'.slot) :
    (reqData.put entry).put entry' = (reqData.put entry').put entry := by
  cases entry <;> cases entry' <;> first | rfl | exact absurd rfl h

/-- The object has the entry in its place. -/
def Holds (body : Json) (entry : Entry) : Prop := body.get entry.slot.name = some entry.toJson

/-- The places of the data are members of its object. -/
theorem AttestReqData.get_toJson (reqData : AttestReqData) (slot : Slot) :
    reqData.toJson.get slot.name = (reqData.entries slot).map Entry.toJson := by
  obtain ⟨policyIds, policyMustMatch, tdx, sgx, nvgpu⟩ := reqData
  cases slot <;> cases tdx <;> cases sgx <;> cases nvgpu <;> rfl

/-! ## One element -/

section Element

variable (E : ItaEnv)

/-- An entry is the evidence of an element with its own runtime data: of a GPU, the first device. -/
inductive Represents (independentEvidence : IndependentEvidence) : Entry → Prop
  | azTdx {evidence : AzItaTeeEvidence} {varData : Bytes}
    (htee : independentEvidence.tee = .AzTdxVtpm)
    (hevidence : AzItaTeeEvidence.fromValue independentEvidence.teeEvidence = .ok evidence)
    (hvarData : E.varData evidence.hclReport = .ok varData) :
    Represents independentEvidence (.tdx ⟨Base64.encode evidence.tdQuote, Base64.encode varData,
      some (runtimeData independentEvidence), none⟩)
  | tdx {evidence : DcapTeeEvidence} (htee : independentEvidence.tee = .Tdx)
    (hevidence : DcapTeeEvidence.fromValue independentEvidence.teeEvidence = .ok evidence) :
    Represents independentEvidence
      (.tdx { evidence with runtimeData := runtimeData independentEvidence })
  | sgx {evidence : DcapTeeEvidence} (htee : independentEvidence.tee = .Sgx)
    (hevidence : DcapTeeEvidence.fromValue independentEvidence.teeEvidence = .ok evidence) :
    Represents independentEvidence
      (.sgx { evidence with runtimeData := runtimeData independentEvidence })
  | nvidia {device : NvDeviceReportAndCert} {devices : List NvDeviceReportAndCert}
    (htee : independentEvidence.tee = .Nvidia)
    (hdevices : deviceEvidenceList independentEvidence.teeEvidence = .ok (device :: devices)) :
    Represents independentEvidence
      (.nvgpu { device with gpuNonce := gpuNonce E independentEvidence })

/-- NVIDIA evidence without devices. -/
def NoDevices (evidence : IndependentEvidence) : Prop :=
  evidence.tee = .Nvidia ∧ deviceEvidenceList evidence.teeEvidence = .ok []

/-- The element is taken. -/
def Accepted (evidence : IndependentEvidence) : Prop :=
  (∃ entry, Represents E evidence entry) ∨ NoDevices evidence

/-- The element fills a place. -/
def Occupies (evidence : IndependentEvidence) (slot : Slot) : Prop :=
  ∃ entry, Represents E evidence entry ∧ entry.slot = slot

/-- Two elements fill one place. -/
def Collide (evidence evidence' : IndependentEvidence) : Prop :=
  ∃ slot, Occupies E evidence slot ∧ Occupies E evidence' slot

/-- The URL after an element. -/
def urlAfter (evidence : IndependentEvidence) (attUrl : String) : String :=
  if evidence.tee = .AzTdxVtpm then attUrl ++ AZURE_ADDR_SUFFIX else attUrl

variable {E} {evidence evidence' : IndependentEvidence} {request request' : AttestReqData × String}

theorem Collide.symm (h : Collide E evidence evidence') : Collide E evidence' evidence := by
  obtain ⟨slot, hfirst, hsecond⟩ := h
  exact ⟨slot, hsecond, hfirst⟩

theorem fromValue_eq_ok {α : Type} {deserialize : Json → Except String α} {a : α} :
    fromValue deserialize evidence = .ok a ↔ deserialize evidence.teeEvidence = .ok a := by
  rw [fromValue, Outcome.context_eq_ok, Outcome.ofExcept_eq_ok]

/-- An element that is represented puts its entry. -/
theorem addEvidence_of_represents {entry : Entry} (h : Represents E evidence entry) :
    addEvidence E evidence request = .ok (request.1.put entry, urlAfter evidence request.2) := by
  cases h with
  | azTdx htee hevidence hvarData =>
    rw [addEvidence, urlAfter, htee]
    simp only [fromValue_eq_ok.2 hevidence, hvarData, Outcome.ofExcept, Outcome.ok_bind]
    rfl
  | tdx htee hevidence | sgx htee hevidence =>
    rw [addEvidence, urlAfter, htee]
    simp only [fromValue_eq_ok.2 hevidence, Outcome.ok_bind]
    rfl
  | nvidia htee hdevices =>
    rw [addEvidence, urlAfter, htee]
    simp only [fromValue_eq_ok.2 hdevices, Outcome.ok_bind]
    rfl

theorem addEvidence_of_noDevices (h : NoDevices evidence) :
    addEvidence E evidence request = .ok request := by
  rw [addEvidence, h.1]
  simp only [fromValue_eq_ok.2 h.2, Outcome.ok_bind]
  rfl

theorem accepted_of_addEvidence (h : addEvidence E evidence request = .ok request') :
    Accepted E evidence := by
  rw [addEvidence] at h
  cases htee : evidence.tee with
  | AzTdxVtpm =>
    simp only [htee, Outcome.bind_eq_ok, fromValue_eq_ok, Outcome.ofExcept_eq_ok] at h
    obtain ⟨_, hevidence, _, hvarData, -⟩ := h
    exact .inl ⟨_, .azTdx htee hevidence hvarData⟩
  | Tdx =>
    simp only [htee, Outcome.bind_eq_ok, fromValue_eq_ok] at h
    obtain ⟨_, hevidence, -⟩ := h
    exact .inl ⟨_, .tdx htee hevidence⟩
  | Sgx =>
    simp only [htee, Outcome.bind_eq_ok, fromValue_eq_ok] at h
    obtain ⟨_, hevidence, -⟩ := h
    exact .inl ⟨_, .sgx htee hevidence⟩
  | Nvidia =>
    simp only [htee, Outcome.bind_eq_ok, fromValue_eq_ok] at h
    obtain ⟨devices, hdevices, -⟩ := h
    cases devices with
    | nil => exact .inr ⟨htee, hdevices⟩
    | cons device devices => exact .inl ⟨_, .nvidia htee hdevices⟩
  | AzSnpVtpm | Cca | Csv | HygonDcu | Sample | SampleDevice | Se | Sev | Snp | Tpm =>
    simp only [htee, Outcome.bail_ne_ok] at h

/-- **What an element does**: it puts its entry, or it is NVIDIA evidence without devices. -/
theorem addEvidence_cases (h : addEvidence E evidence request = .ok request') :
    (∃ entry, Represents E evidence entry ∧
      request' = (request.1.put entry, urlAfter evidence request.2)) ∨
    (NoDevices evidence ∧ request' = request) := by
  rcases accepted_of_addEvidence h with ⟨entry, hrepresents⟩ | hnone
  · rw [addEvidence_of_represents hrepresents] at h
    exact .inl ⟨entry, hrepresents, (Outcome.ok.inj h).symm⟩
  · rw [addEvidence_of_noDevices hnone] at h
    exact .inr ⟨hnone, (Outcome.ok.inj h).symm⟩

/-- An element that is not taken is an error. -/
theorem returns_addEvidence : (addEvidence E evidence request).Returns := by
  have hvalue {α : Type} (deserialize : Json → Except String α) :
      (fromValue deserialize evidence).Returns :=
    (Outcome.returns_ofExcept _).context _
  rw [addEvidence]
  cases evidence.tee with
  | AzTdxVtpm =>
    exact (hvalue _).bind fun _ _ => (Outcome.returns_ofExcept _).bind fun _ _ =>
      Outcome.returns_ok _
  | Tdx | Sgx => exact (hvalue _).bind fun _ _ => Outcome.returns_ok _
  | Nvidia =>
    refine (hvalue _).bind fun devices _ => ?_
    cases devices <;> exact Outcome.returns_ok _
  | AzSnpVtpm | Cca | Csv | HygonDcu | Sample | SampleDevice | Se | Sev | Snp | Tpm =>
    exact Outcome.returns_bail _

theorem exists_addEvidence (h : Accepted E evidence) :
    ∃ request', addEvidence E evidence request = .ok request' := by
  rcases h with ⟨entry, hrepresents⟩ | hnone
  · exact ⟨_, addEvidence_of_represents hrepresents⟩
  · exact ⟨_, addEvidence_of_noDevices hnone⟩

theorem urlAfter_comm (attUrl : String) :
    urlAfter evidence (urlAfter evidence' attUrl) =
      urlAfter evidence' (urlAfter evidence attUrl) := by
  simp only [urlAfter]
  split_ifs <;> rfl

/-- **Two elements that do not collide can change places.** -/
theorem addEvidence_comm (hcollide : ¬ Collide E evidence evidence')
    {request'' : AttestReqData × String} (hfirst : addEvidence E evidence request = .ok request')
    (hsecond : addEvidence E evidence' request' = .ok request'') :
    ∃ between, addEvidence E evidence' request = .ok between ∧
      addEvidence E evidence between = .ok request'' := by
  rcases addEvidence_cases hfirst with ⟨entry, hentry, rfl⟩ | ⟨hnone, rfl⟩
  · rcases addEvidence_cases hsecond with ⟨entry', hentry', rfl⟩ | ⟨hnone', rfl⟩
    · have hslots : entry'.slot ≠ entry.slot := fun h =>
        hcollide ⟨entry.slot, ⟨entry, hentry, rfl⟩, entry', hentry', h⟩
      refine ⟨_, addEvidence_of_represents hentry', ?_⟩
      rw [addEvidence_of_represents hentry, urlAfter_comm, AttestReqData.put_comm _ hslots]
    · exact ⟨_, addEvidence_of_noDevices hnone', hfirst⟩
  · exact ⟨_, hsecond, addEvidence_of_noDevices hnone⟩

end Element

/-! ## The loop -/

section Loop

variable {E : ItaEnv} {evidence : IndependentEvidence}
  {l l' before after : List IndependentEvidence}
  {request request' : AttestReqData × String} {slot : Slot} {entry : Entry}

theorem addAll_cons_eq_ok : addAll E (evidence :: l) request = .ok request' ↔
    ∃ between, addEvidence E evidence request = .ok between ∧
      addAll E l between = .ok request' := by
  rw [addAll, Outcome.bind_eq_ok]

theorem addAll_append_eq_ok : addAll E (l ++ l') request = .ok request' ↔
    ∃ between, addAll E l request = .ok between ∧ addAll E l' between = .ok request' := by
  induction l generalizing request with
  | nil => simp [addAll]
  | cons evidence l ih =>
    simp only [List.cons_append, addAll_cons_eq_ok, ih]
    constructor
    · rintro ⟨first, hfirst, between, hl, hl'⟩
      exact ⟨between, ⟨first, hfirst, hl⟩, hl'⟩
    · rintro ⟨between, ⟨first, hfirst, hl⟩, hl'⟩
      exact ⟨first, hfirst, between, hl, hl'⟩

theorem returns_addAll : (addAll E l request).Returns := by
  induction l generalizing request with
  | nil => exact Outcome.returns_ok _
  | cons evidence l ih => exact returns_addEvidence.bind fun _ _ => ih

/-- A place that no element fills stays as it is. -/
theorem entries_addAll (h : addAll E l request = .ok request')
    (hslot : ∀ evidence ∈ l, ¬ Occupies E evidence slot) :
    request'.1.entries slot = request.1.entries slot := by
  induction l generalizing request with
  | nil =>
    cases h
    rfl
  | cons evidence l ih =>
    obtain ⟨between, hfirst, hrest⟩ := addAll_cons_eq_ok.1 h
    rw [ih hrest fun evidence h => hslot evidence (List.mem_cons_of_mem _ h)]
    rcases addEvidence_cases hfirst with ⟨entry, hentry, rfl⟩ | ⟨-, rfl⟩
    · have hne : slot ≠ entry.slot := fun heq =>
        hslot evidence List.mem_cons_self ⟨entry, hentry, heq.symm⟩
      rw [AttestReqData.entries_put, Table.insert_of_ne _ _ hne]
    · rfl

/-- What stands in a place in the end was there, or an element put it there. -/
theorem mem_entries_addAll (h : addAll E l request = .ok request')
    (hentry : request'.1.entries slot = some entry) :
    (∃ evidence ∈ l, Represents E evidence entry) ∨ request.1.entries slot = some entry := by
  induction l generalizing request with
  | nil =>
    cases h
    exact .inr hentry
  | cons evidence l ih =>
    obtain ⟨between, hfirst, hrest⟩ := addAll_cons_eq_ok.1 h
    rcases ih hrest with ⟨evidence', hmem, hrepresents⟩ | hbetween
    · exact .inl ⟨evidence', List.mem_cons_of_mem _ hmem, hrepresents⟩
    · rcases addEvidence_cases hfirst with ⟨entry', hrepresents, rfl⟩ | ⟨-, rfl⟩
      · rw [AttestReqData.entries_put] at hbetween
        rcases Table.insert_eq_some hbetween with ⟨-, rfl⟩ | ⟨-, hbetween⟩
        · exact .inl ⟨evidence, List.mem_cons_self, hrepresents⟩
        · exact .inr hbetween
      · exact .inr hbetween

/-- An element that no later one collides with stands in its place. -/
theorem entries_of_alone (h : addAll E (before ++ evidence :: after) request = .ok request')
    (halone : ∀ other ∈ after, ¬ Collide E evidence other) :
    (∃ entry, Represents E evidence entry ∧ request'.1.entries entry.slot = some entry) ∨
      NoDevices evidence := by
  obtain ⟨between, -, h⟩ := addAll_append_eq_ok.1 h
  obtain ⟨between', hfirst, hrest⟩ := addAll_cons_eq_ok.1 h
  rcases addEvidence_cases hfirst with ⟨entry, hentry, rfl⟩ | ⟨hnone, -⟩
  · refine .inl ⟨entry, hentry, ?_⟩
    have hkept : ∀ other ∈ after, ¬ Occupies E other entry.slot := fun other hother hoccupies =>
      halone other hother ⟨entry.slot, ⟨entry, hentry, rfl⟩, hoccupies⟩
    rw [entries_addAll hrest hkept, AttestReqData.entries_put, Table.insert_self]
  · exact .inr hnone

/-- The loop comes to its end when each element is taken. -/
theorem exists_addAll : (∃ request', addAll E l request = .ok request') ↔
    ∀ evidence ∈ l, Accepted E evidence := by
  induction l generalizing request with
  | nil => simp [addAll]
  | cons evidence l ih =>
    simp only [addAll_cons_eq_ok, List.forall_mem_cons]
    constructor
    · rintro ⟨request', between, hfirst, hrest⟩
      exact ⟨accepted_of_addEvidence hfirst, ih.1 ⟨request', hrest⟩⟩
    · rintro ⟨hfirst, hrest⟩
      obtain ⟨between, hbetween⟩ := exists_addEvidence hfirst
      obtain ⟨request', hrequest'⟩ := ih.2 hrest
      exact ⟨request', between, hbetween, hrequest'⟩

/-- No two elements fill one place. -/
def Apart (E : ItaEnv) (l : List IndependentEvidence) : Prop :=
  l.Pairwise fun evidence evidence' => ¬ Collide E evidence evidence'

/-- **The order makes no difference**, by induction on the exchanges that lead to the other
order. -/
theorem addAll_perm (hperm : l.Perm l') (hapart : Apart E l)
    (h : addAll E l request = .ok request') : addAll E l' request = .ok request' := by
  induction hperm generalizing request with
  | nil => exact h
  | cons evidence _ ih =>
    obtain ⟨between, hfirst, hrest⟩ := addAll_cons_eq_ok.1 h
    exact addAll_cons_eq_ok.2 ⟨between, hfirst, ih (List.pairwise_cons.1 hapart).2 hrest⟩
  | swap a b l =>
    obtain ⟨first, hfirst, hrest⟩ := addAll_cons_eq_ok.1 h
    obtain ⟨second, hsecond, hrest⟩ := addAll_cons_eq_ok.1 hrest
    have hcollide : ¬ Collide E b a := (List.pairwise_cons.1 hapart).1 a List.mem_cons_self
    obtain ⟨between, hbetween, hlast⟩ := addEvidence_comm hcollide hfirst hsecond
    exact addAll_cons_eq_ok.2 ⟨between, hbetween, addAll_cons_eq_ok.2 ⟨second, hlast, hrest⟩⟩
  | trans hperm _ ih ih' =>
    have hsymm : ∀ {a b}, ¬ Collide E a b → ¬ Collide E b a := fun h h' => h h'.symm
    exact ih' ((hperm.pairwise_iff hsymm).1 hapart) (ih hapart h)

end Loop

/-! ## The request -/

section Request

variable {E : ItaEnv} {config : Config} {evidence : IndependentEvidence}
  {evidenceToVerify : List IndependentEvidence}

/-- The request for the evidence is sent, with this URL and this body. -/
def Sends (E : ItaEnv) (config : Config) (evidenceToVerify : List IndependentEvidence)
    (url : String) (body : Json) : Prop :=
  ∀ send, verify E config send evidenceToVerify = send ⟨url, config.apiKey, body.print⟩

/-- Nothing is sent, and the result is an error. -/
def Refuses (E : ItaEnv) (config : Config) (evidenceToVerify : List IndependentEvidence) : Prop :=
  ∃ e, ∀ send, verify E config send evidenceToVerify = .err e

/-- The body has the element with its own runtime data: of NVIDIA evidence the first device, and
nothing where there is none. -/
def Carried (E : ItaEnv) (body : Json) (evidence : IndependentEvidence) : Prop :=
  (∃ entry, Represents E evidence entry ∧ Holds body entry) ∨ NoDevices evidence

/-- What the body has in a place is an element of the evidence, with its own runtime data. -/
def Genuine (E : ItaEnv) (evidenceToVerify : List IndependentEvidence) (body : Json) : Prop :=
  ∀ (slot : Slot) (v : Json), body.get slot.name = some v →
    ∃ evidence ∈ evidenceToVerify, ∃ entry, Represents E evidence entry ∧ v = entry.toJson

theorem sends_of_addAll {request : AttestReqData × String}
    (h : addAll E evidenceToVerify (emptyRequest config) = .ok request) :
    Sends E config evidenceToVerify request.2 request.1.toJson := fun send => by
  rw [verify, h]
  rfl

theorem refuses_of_addAll (h : ¬ ∀ evidence ∈ evidenceToVerify, Accepted E evidence) :
    Refuses E config evidenceToVerify := by
  cases hall : addAll E evidenceToVerify (emptyRequest config) with
  | ok request => exact absurd (exists_addAll.1 ⟨request, hall⟩) h
  | panic msg => exact absurd hall (returns_addAll msg)
  | err e =>
    refine ⟨e, fun send => ?_⟩
    rw [verify, hall]
    rfl

theorem holds_of_entries {reqData : AttestReqData} {entry : Entry}
    (h : reqData.entries entry.slot = some entry) : Holds reqData.toJson entry := by
  rw [Holds, AttestReqData.get_toJson, h]
  rfl

theorem entries_emptyRequest (slot : Slot) : (emptyRequest config).1.entries slot = none := by
  cases slot <;> rfl

theorem genuine_of_addAll {request : AttestReqData × String}
    (h : addAll E evidenceToVerify (emptyRequest config) = .ok request) :
    Genuine E evidenceToVerify request.1.toJson := by
  intro slot v hv
  rw [AttestReqData.get_toJson, Option.map_eq_some_iff] at hv
  obtain ⟨entry, hentry, rfl⟩ := hv
  rcases mem_entries_addAll h hentry with ⟨evidence, hmem, hrepresents⟩ | hinit
  · exact ⟨evidence, hmem, entry, hrepresents, rfl⟩
  · cases (entries_emptyRequest slot).symm.trans hinit

theorem carried_of_addAll {request : AttestReqData × String}
    {before after : List IndependentEvidence}
    (h : addAll E (before ++ evidence :: after) (emptyRequest config) = .ok request)
    (halone : ∀ other ∈ before ++ after, ¬ Collide E evidence other) :
    Carried E request.1.toJson evidence := by
  rcases entries_of_alone h fun other hother => halone other (List.mem_append_right _ hother)
    with ⟨entry, hentry, hstands⟩ | hnone
  · exact .inl ⟨entry, hentry, holds_of_entries hstands⟩
  · exact .inr hnone

/-- **What the request carries.** An element that collides with no other is in the body with its own
runtime data, what is in the body is an element of the evidence, and without collisions the order
makes no difference. Where nothing is sent, in any order, the result is an error. -/
theorem verify_spec (E : ItaEnv) (config : Config) (evidenceToVerify : List IndependentEvidence) :
    (∃ url body, Sends E config evidenceToVerify url body ∧
      (∀ before evidence after, evidenceToVerify = before ++ evidence :: after →
        (∀ other ∈ before ++ after, ¬ Collide E evidence other) → Carried E body evidence) ∧
      Genuine E evidenceToVerify body ∧
      (Apart E evidenceToVerify →
        ∀ l, evidenceToVerify.Perm l → Sends E config l url body)) ∨
    (∀ l, evidenceToVerify.Perm l → Refuses E config l) := by
  by_cases haccepted : ∀ evidence ∈ evidenceToVerify, Accepted E evidence
  · obtain ⟨request, h⟩ := exists_addAll.2 haccepted
    refine .inl ⟨request.2, request.1.toJson, sends_of_addAll h, ?_, genuine_of_addAll h, ?_⟩
    · rintro before evidence after rfl halone
      exact carried_of_addAll h halone
    · exact fun hapart l hperm => sends_of_addAll (addAll_perm hperm hapart h)
  · refine .inr fun l hperm => refuses_of_addAll fun hall => haccepted fun evidence hmem => ?_
    exact hall evidence (hperm.mem_iff.1 hmem)

/-! ## Two GPUs, and none -/

def exampleItaEnv : ItaEnv := ⟨fun _ => .error "invalid report", fun _ => Vector.replicate 64 0⟩

def exampleConfig : Config := ⟨"https://api.example", "key", none, []⟩

def gpu (evidence : String) : Json :=
  .object [("arch", .string "HOPPER"), ("certificate", .string "cert"),
    ("evidence", .string evidence)]

/-- NVIDIA evidence with a list of devices. -/
def gpus (devices : List Json) : IndependentEvidence :=
  ⟨.Nvidia, .object [("device_evidence_list", .array devices)], .object [], none⟩

/-- **Not every device is sent**: the second of two is not in the body, and evidence without devices
leaves the body empty. -/
theorem not_all_devices_sent :
    (∃ url body, Sends exampleItaEnv exampleConfig [gpus [gpu "a", gpu "b"]] url body ∧
      ∃ devices, deviceEvidenceList (gpus [gpu "a", gpu "b"]).teeEvidence = .ok devices ∧
        ∃ device ∈ devices, ∀ slot : Slot, body.get slot.name ≠ some (NvDeviceReportAndCert.toJson
          { device with gpuNonce := gpuNonce exampleItaEnv (gpus [gpu "a", gpu "b"]) })) ∧
    ∃ url body, Sends exampleItaEnv exampleConfig [gpus []] url body ∧
      ∀ slot : Slot, body.get slot.name = none := by
  refine ⟨⟨_, _, sends_of_addAll rfl, _, rfl, ⟨"b", "", "cert", "HOPPER"⟩, by simp, fun slot => ?_⟩,
    _, _, sends_of_addAll rfl, fun slot => ?_⟩
  · cases slot with
    | tdx | sgx => exact fun h => by cases h
    | nvgpu =>
      intro h
      have hevidence : some (Json.string "a") = some (.string "b") :=
        congrArg (fun v => v.bind fun device => device.get "evidence") h
      simp at hevidence
  · cases slot <;> rfl

end Request

end Trustmee.Kbs.IntelTrustAuthority
