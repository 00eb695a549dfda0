import Trustmee.Nvidia.Tokens
import Trustmee.Policy.Input
import Trustmee.Verifier.Sample

/-!
# The default policy for GPUs

The rules of `ear_default_policy_gpu.rego`, in its order. Whatever the claims are, each trust claim
receives one value (`gpuPolicy_assigns`). The rule for the sample device looks into data that
the service does not give to the engine, so it never holds, and the other rules ask for claims that
NVIDIA's remote service makes. A device that is verified in any other way gets the defaults, whatever
reference values there are (`gpuPolicy_affirms`).
-/

namespace Trustmee.Policy

open Broker Rego

/-! ## The rules -/

/-- `data.path`. The engine is given no data, so that `data` is not bound. -/
def data (path : List String) : Term := .var "data" path

/-- `input.path`, as a literal. -/
def asked (path : List String) : Literal := .test (.holds (.input path))

def sampleDeviceHardware : Rule := hardware
  [(claimValue 2, [
    .test (.mem (.input ["sampledevice", "svn"]) (data ["reference", "device_svn"]))])]

def nvidiaHardware : Rule := hardware
  [(claimValue 2, [
    asked ["nvidia"],
    is ["nvidia", "x-nvidia-gpu-attestation-report-cert-chain", "x-nvidia-cert-ocsp-status"]
      (.string "good"),
    is ["nvidia", "x-nvidia-gpu-attestation-report-cert-chain", "x-nvidia-cert-status"]
      (.string "valid"),
    asked ["nvidia", "x-nvidia-gpu-attestation-report-cert-chain-fwid-match"],
    asked ["nvidia", "x-nvidia-gpu-attestation-report-parsed"],
    asked ["nvidia", "x-nvidia-gpu-attestation-report-signature-verified"],
    asked ["nvidia", "x-nvidia-gpu-arch-check"]])]

def nvidiaConfiguration : Rule := configuration
  [(claimValue 2, [
    asked ["nvidia", "secboot"],
    is ["nvidia", "dbgstat"] (.string "disabled"),
    isIn ["nvidia", "x-nvidia-gpu-vbios-version"] "allowed_vbios_versions",
    isIn ["nvidia", "x-nvidia-gpu-driver-version"] "allowed_driver_versions"]),
   (claimValue 3, [
    asked ["nvidia", "secboot"],
    is ["nvidia", "dbgstat"] (.string "disabled")])]

def nvidiaExecutables : Rule := executables
  [(claimValue 3, [
    is ["nvidia", "x-nvidia-gpu-vbios-rim-cert-chain", "x-nvidia-cert-ocsp-status"]
      (.string "good"),
    is ["nvidia", "x-nvidia-gpu-vbios-rim-cert-chain", "x-nvidia-cert-status"] (.string "valid"),
    asked ["nvidia", "x-nvidia-gpu-driver-rim-fetched"],
    asked ["nvidia", "x-nvidia-gpu-driver-rim-measurements-available"],
    asked ["nvidia", "x-nvidia-gpu-driver-rim-schema-validated"],
    asked ["nvidia", "x-nvidia-gpu-driver-rim-signature-verified"],
    asked ["nvidia", "x-nvidia-gpu-driver-rim-version-match"],
    asked ["nvidia", "x-nvidia-gpu-vbios-rim-fetched"],
    asked ["nvidia", "x-nvidia-gpu-vbios-rim-measurements-available"],
    asked ["nvidia", "x-nvidia-gpu-vbios-rim-schema-validated"],
    asked ["nvidia", "x-nvidia-gpu-vbios-rim-signature-verified"],
    asked ["nvidia", "x-nvidia-gpu-vbios-rim-version-match"],
    is ["nvidia", "measres"] (.string "success")])]

/-- `ear_default_policy_gpu.rego`. -/
def gpuPolicy : Rego.Policy where
  defaults := cpuPolicy.defaults
  helpers := []
  rules := [sampleDeviceHardware, nvidiaHardware, nvidiaConfiguration, nvidiaExecutables]
  objects := cpuPolicy.objects

/-! ## One value for each trust claim -/

variable {ctx : Context} {named : String → Bool} {head : String}

/-- The rule of a trust claim that may hold, and the default. -/
inductive GpuRule : String → Rule → Json → Prop
  | hardware : GpuRule "hardware" nvidiaHardware (claimValue 97)
  | executables : GpuRule "executables" nvidiaExecutables (claimValue 33)
  | configuration : GpuRule "configuration" nvidiaConfiguration (claimValue 36)

theorem exists_gpuRule (hhead : head ∈ evidenceClaims) : ∃ rule d, GpuRule head rule d := by
  simp only [evidenceClaims, List.mem_cons, List.not_mem_nil, or_false] at hhead
  rcases hhead with rfl | rfl | rfl
  · exact ⟨_, _, .executables⟩
  · exact ⟨_, _, .hardware⟩
  · exact ⟨_, _, .configuration⟩

theorem GpuRule.default {rule : Rule} {d : Json} (h : GpuRule head rule d) :
    Json.Map.get gpuPolicy.defaults head = some d := by
  cases h <;> rfl

/-- The reference data of the sample device are not there. -/
theorem sampleDeviceHardware_eval : sampleDeviceHardware.eval ctx named = none := by
  have hdata : ∀ v, ((data ["reference", "device_svn"]).eval ctx []).any
      (fun w => Rego.contains ctx.compare v w) = false := fun v => rfl
  have hbody : holds ctx named []
      [.test (.mem (.input ["sampledevice", "svn"]) (data ["reference", "device_svn"]))] = false := by
    rw [holds_test_cons, Test.eval, compareTerms]
    simp only [hdata]
    cases Term.eval ctx [] (.input ["sampledevice", "svn"]) <;> rfl
  rw [Rule.eval, sampleDeviceHardware, hardware, firstValue, hbody]
  rfl

theorem GpuRule.outputs {rule : Rule} {d : Json} (h : GpuRule head rule d) :
    gpuPolicy.outputs ctx head = (rule.eval ctx (gpuPolicy.helper ctx)).toList := by
  have hrules : gpuPolicy.rules.filter (fun rule => rule.head == head) = [rule] ∨
      gpuPolicy.rules.filter (fun rule => rule.head == head) = [sampleDeviceHardware, rule] := by
    cases h
    · exact .inr rfl
    · exact .inl rfl
    · exact .inl rfl
  rw [Policy.outputs]
  rcases hrules with hrules | hrules
  · rw [hrules, List.filterMap_cons, List.filterMap_nil]
    cases rule.eval ctx (gpuPolicy.helper ctx) <;> rfl
  · rw [hrules, List.filterMap_cons, sampleDeviceHardware_eval, List.filterMap_cons,
      List.filterMap_nil]
    cases rule.eval ctx (gpuPolicy.helper ctx) <;> rfl

theorem GpuRule.eval {rule : Rule} {d : Json} (h : GpuRule head rule d) :
    gpuPolicy.eval ctx head =
      .ok (some ((rule.eval ctx (gpuPolicy.helper ctx)).getD d)) := by
  rw [Policy.eval, h.outputs]
  cases rule.eval ctx (gpuPolicy.helper ctx) with
  | none => exact congrArg Except.ok h.default
  | some v => rfl

/-- **The default policy for GPUs has no conflict**, on any input. -/
theorem gpuPolicy_assigns (hhead : head ∈ evidenceClaims) : ∃ v, gpuPolicy.Assigns ctx head v := by
  obtain ⟨rule, d, hrule⟩ := exists_gpuRule hhead
  refine Rego.Policy.exists_assigns ?_ hrule.default
  rw [hrule.outputs]
  cases rule.eval ctx (gpuPolicy.helper ctx) <;> simp

/-! ## Claims of NVIDIA's service -/

/-- The claims that every rule asks for, one or another. -/
def remoteClaims : List String :=
  ["x-nvidia-gpu-attestation-report-cert-chain", "x-nvidia-gpu-vbios-rim-cert-chain", "secboot"]

theorem follow_of_absent {k : String} {rest : List String}
    (h : follow ctx.input ["nvidia", k] = none) :
    follow ctx.input ("nvidia" :: k :: rest) = none := by
  have happend := follow_append ctx.input ["nvidia", k] rest
  rw [h] at happend
  exact happend

/-- Without them the rules give nothing. -/
theorem GpuRule.eval_of_absent {rule : Rule} {d : Json} (h : GpuRule head rule d)
    (habsent : ∀ k ∈ remoteClaims, follow ctx.input ["nvidia", k] = none) :
    rule.eval ctx named = none := by
  refine Rule.eval_of_about fun branch hbranch => ?_
  cases h with
  | hardware =>
    obtain rfl := List.mem_singleton.1 hbranch
    exact ⟨_, List.mem_cons_of_mem _ List.mem_cons_self, _, rfl,
      follow_of_absent (habsent "x-nvidia-gpu-attestation-report-cert-chain" (by decide))⟩
  | executables =>
    obtain rfl := List.mem_singleton.1 hbranch
    exact ⟨_, List.mem_cons_self, _, rfl,
      follow_of_absent (habsent "x-nvidia-gpu-vbios-rim-cert-chain" (by decide))⟩
  | configuration =>
    have hsecboot := habsent "secboot" (by decide)
    rcases List.mem_cons.1 hbranch with rfl | hbranch
    · exact ⟨_, List.mem_cons_self, _, rfl, hsecboot⟩
    · obtain rfl := List.mem_singleton.1 hbranch
      exact ⟨_, List.mem_cons_self, _, rfl, hsecboot⟩

/-! ## Transformed claims -/

variable {B : Broker.Env} {compare : Json → Json → Ordering} {rvps : String → Option Json}
  {value : B.crate.RawValue → Json} {claims initDataClaims runtimeDataClaims : Json} {tee : Tee}
  {tcbClaims : Table String B.crate.RawValue} {input : Json}

/-- Beside the claims of the verifier, transformed claims have members of four names. -/
theorem table_nvidia
    (h : transformClaims B claims initDataClaims runtimeDataClaims tee = .ok tcbClaims) :
    (B.toVariantName tee = .ok "nvidia" ∧ ∃ raw,
        B.crate.fromStr (teeMembers claims).print = .ok raw ∧ tcbClaims "nvidia" = some raw) ∨
      (B.toVariantName tee ≠ .ok "nvidia" ∧ tcbClaims "nvidia" = none) := by
  simp only [transformClaims, Outcome.bind_eq_ok, Outcome.ofExcept_eq_ok, Outcome.pure_eq,
    Outcome.ok.injEq] at h
  obtain ⟨moved, hmoved, raw, hraw, name, hname, rfl⟩ := h
  obtain ⟨hmembers, -⟩ := moveClaims_members hmoved
  have hnone : moved.2 "nvidia" = none := by
    cases claims with
    | object m =>
      simp only [moveClaims, Outcome.bind_eq_ok, Outcome.pure_eq, Outcome.ok.injEq] at hmoved
      obtain ⟨first, hfirst, second, hsecond, rfl⟩ := hmoved
      rw [(moveClaim_members hsecond).2 "nvidia" (by decide) (by decide),
        (moveClaim_members hfirst).2 "nvidia" (by decide) (by decide)]
      rfl
    | _ =>
      cases hmoved
      rfl
  rw [hmembers] at hraw
  rw [Table.insert_apply, hname, hnone]
  by_cases hnvidia : "nvidia" = name
  · subst hnvidia
    exact .inl ⟨rfl, raw, hraw, if_pos rfl⟩
  · exact .inr ⟨fun heq => hnvidia (Except.ok.inj heq).symm, if_neg hnvidia⟩

theorem get_teeMembers {k : String} (hinit : k ≠ "init_data") (hreport : k ≠ "report_data")
    (v : Json) : (teeMembers v).get k = v.get k := by
  cases v with
  | object m =>
    rw [teeMembers, Json.get_object, Json.get_object, Json.Map.get_erase, if_neg hreport,
      Json.Map.get_erase, if_neg hinit]
  | _ => rfl

/-- The claims of a local report have none of the service's. -/
theorem get_deviceClaims_of_remote {device : Nvidia.NvDeviceReportAndCert}
    {report : Nvidia.NvidiaAttestationReport} {k : String} (hk : k ∈ remoteClaims) :
    Json.Map.get (Nvidia.deviceClaims device report) k = none := by
  have hkeys : k ≠ "arch" ∧ k ≠ "uuid" ∧ k ≠ "measurements" ∧ k ≠ "config" := by
    simp only [remoteClaims, List.mem_cons, List.not_mem_nil, or_false] at hk
    rcases hk with rfl | rfl | rfl <;> decide
  obtain ⟨h₁, h₂, h₃, h₄⟩ := hkeys
  rw [Nvidia.deviceClaims, Json.Map.ofList, Json.Map.get_extend_of_none]
  · rfl
  · simp only [Json.Map.get_cons, Json.Map.get_nil, if_neg h₁, if_neg h₂, if_neg h₃, if_neg h₄]

/-- A trust claim that is not the default is one of claims that the service makes. -/
theorem exists_remoteClaim
    (h : transformClaims B claims initDataClaims runtimeDataClaims tee = .ok tcbClaims)
    (hinput : IsInput value tcbClaims input)
    (hvalue : ∀ raw, B.crate.fromStr (teeMembers claims).print = .ok raw →
      value raw = teeMembers claims) (hhead : head ∈ evidenceClaims) {v : Json}
    (heval : gpuPolicy.eval (policyContext compare rvps input) head = .ok (some v))
    (hv : Json.Map.get gpuPolicy.defaults head ≠ some v) :
    B.toVariantName tee = .ok "nvidia" ∧ ∃ k ∈ remoteClaims, claims.get k ≠ none := by
  obtain ⟨rule, d, hrule⟩ := exists_gpuRule hhead
  by_contra hnot
  have habsent : ∀ k ∈ remoteClaims,
      follow (policyContext compare rvps input).input ["nvidia", k] = none := by
    intro k hk
    have hnames : k ≠ "init_data" ∧ k ≠ "report_data" := by
      simp only [remoteClaims, List.mem_cons, List.not_mem_nil, or_false] at hk
      rcases hk with rfl | rfl | rfl <;> decide
    change follow input ["nvidia", k] = none
    rw [follow, hinput "nvidia"]
    rcases table_nvidia h with ⟨hname, raw, hraw, htable⟩ | ⟨-, htable⟩
    · have hclaims : claims.get k = none := by
        by_contra hsome
        exact hnot ⟨hname, k, hk, hsome⟩
      rw [htable, Option.map_some, Option.bind_some, hvalue raw hraw, follow,
        get_teeMembers hnames.1 hnames.2, hclaims, Option.bind_none]
    · rw [htable, Option.map_none, Option.bind_none]
  rw [hrule.eval, hrule.eval_of_absent habsent, Option.getD_none] at heval
  cases heval
  exact hv hrule.default

/-- **What is affirmed was verified by NVIDIA's service**: where a trust claim of a device is not
the default, the device is one of NVIDIA's, its verifier is the remote one, and the claims are those
of the service's answer for a device of the evidence, signed with its keys and with the expected
nonce matched. -/
theorem gpuPolicy_affirms
    (h : transformClaims B claims initDataClaims runtimeDataClaims tee = .ok tcbClaims)
    (hinput : IsInput value tcbClaims input)
    (hvalue : ∀ raw, B.crate.fromStr (teeMembers claims).print = .ok raw →
      value raw = teeMembers claims) (hhead : head ∈ evidenceClaims) {v : Json}
    (heval : gpuPolicy.eval (policyContext compare rvps input) head = .ok (some v))
    (hv : Json.Map.get gpuPolicy.defaults head ≠ some v) :
    B.toVariantName tee = .ok "nvidia" ∧
      ∀ (E : Nvidia.Env) (verifier : Nvidia.Verifier E) evidence reportData initDataHash verified c,
        Nvidia.evaluate verifier evidence reportData initDataHash = .ok verified →
          (claims, c) ∈ verified →
            ∃ expected url jwks devices device, reportData = .value expected ∧
              verifier = .Remote url jwks ∧ Nvidia.devicesFromValue E evidence = .ok devices ∧
              device ∈ devices ∧ Nvidia.VerifiedRemotely E jwks url device
                (regularizeData expected Nvidia.SPDM_NONCE_SIZE) claims := by
  obtain ⟨hname, k, hk, hget⟩ := exists_remoteClaim h hinput hvalue hhead heval hv
  refine ⟨hname, fun E verifier evidence reportData initDataHash verified c hverified hmem => ?_⟩
  obtain ⟨devices, expected, hdevices, hreport, hloop⟩ := Nvidia.evaluate_eq_ok hverified
  obtain ⟨device, hmem, hdevice⟩ := Nvidia.exists_device hloop hmem
  cases verifier with
  | Local =>
    obtain ⟨report, hclaims⟩ := Nvidia.evaluateDeviceLocally_eq_ok hdevice
    have hclaims' : claims = .object (Nvidia.deviceClaims device report) := hclaims
    rw [hclaims', Json.get_object, get_deviceClaims_of_remote hk] at hget
    exact absurd rfl hget
  | Remote url jwks =>
    exact ⟨expected, url, jwks, devices, device, hreport, rfl, hdevices, hmem,
      (Nvidia.evaluateDeviceRemotely_eq_ok.1 hdevice).2.2⟩

/-! ## A device of NVIDIA's -/

/-- What the service says of the device. -/
def nvidiaSampleClaims : Json := .object [("dbgstat", .string "disabled"),
  ("exp", .number (.int 4102444800)), ("iat", .number (.int 1)), ("iss", .string "n"),
  ("nbf", .number (.int 1)), ("secboot", .bool true),
  ("x-nvidia-gpu-attestation-report-nonce-match", .bool true)]

/-- The broker of the examples, where the name of the TEE is that of NVIDIA's devices. -/
def nvidiaBroker : Broker.Env where
  crate := { jsonCrate with fromStr _ := .ok nvidiaSampleClaims }
  durationMin := 5
  developerName := "https://confidentialcontainers.org"
  buildName := "attestation-service 0.1.0"
  profileName := "tag:github.com,2024:confidential-containers/Trustee"
  toVariantName _ := .ok "nvidia"
  policyEngine _ _ := .error "unavailable"
  now := 1700000000
  checkedAdd now minutes := some (now + 60 * minutes)
  sign _ := .ok "token"
  overflowChecks := false

def nvidiaInput : Json := .object [("nvidia", nvidiaSampleClaims)]

/-- The base64 of the claims. -/
def nvidiaPayload : String := Base64.encodeUrlSafeNoPad (toUtf8 nvidiaSampleClaims.print)

/-- The token with these claims. -/
def nvidiaToken : String := Nvidia.tokenWith nvidiaPayload

/-- The answer of the service. -/
def nvidiaResponse : Json := .object
  [("eat", .object [("GPU-0", .string nvidiaToken)]),
    ("jwt", .array [.string "JWT", .string nvidiaToken])]

/-- A deserializer of the answer and of the claims. -/
def nvidiaSerde : SerdeJson where
  fromStr deserialize s :=
    if s = nvidiaSampleClaims.print then deserialize nvidiaSampleClaims
    else if s = nvidiaResponse.print then deserialize nvidiaResponse
    else .error "EOF"

/-- An environment where the service can be reached. -/
def nvidiaEnv : Nvidia.Env where
  serde := nvidiaSerde
  archFromValue _ := .ok .Hopper
  tryNew _ _ _ _ := .bail "Attestation report data is too small"
  NrasJwks := Unit
  fetchJwks := .ok ()
  validateJwt _ := Nvidia.validateJwt (Nvidia.anySignature nvidiaSerde 1760000000) fun _ => some ()
  post url _ :=
    if url = "https://nras.attestation.nvidia.com/v4/attest/gpu" then .ok (200, nvidiaResponse.print)
    else .error "no route to host"

/-- Evidence of one device. -/
def nvidiaEvidence : Json := .object [("device_evidence_list", .array [.object
  [("arch", .string "HOPPER"), ("certificate", .string "AA=="), ("evidence", .string "00"),
    ("uuid", .string "GPU-0")]])]

theorem nvidiaPayload_plain {c : Char} (h : c ∈ nvidiaPayload.toList) :
    c ≠ '.' ∧ c ≠ '-' ∧ c ≠ '_' := by
  have hall : (nvidiaPayload.toList.all fun c => c ≠ '.' ∧ c ≠ '-' ∧ c ≠ '_') = true := by
    rw [nvidiaPayload, Base64.encodeUrlSafeNoPad, String.toList_ofList, toUtf8_eq_flatMap,
      Json.toList_print]
    decide +kernel
  have hc := List.all_eq_true.1 hall c h
  exact of_decide_eq_true hc

theorem nvidiaToken_hasPayload :
    Nvidia.HasPayload nvidiaToken (toUtf8 nvidiaSampleClaims.print) ∧ Nvidia.Plain nvidiaToken := by
  have hsplit : splitChar (Nvidia.tokenWith nvidiaPayload) '.' =
      ["eyJhbGciOiJFUzM4NCIsImtpZCI6ImsifQ", nvidiaPayload, "c2ln"] :=
    Nvidia.splitChar_tokenWith fun h => (nvidiaPayload_plain h).1 rfl
  refine ⟨⟨_, _, _, hsplit, Base64.decodeUrlSafeNoPad_encodeUrlSafeNoPad _⟩,
    fun header payload signature h => ?_⟩
  rw [nvidiaToken, hsplit] at h
  simp only [List.cons.injEq, and_true] at h
  obtain ⟨-, rfl, -⟩ := h
  exact ⟨fun hminus => (nvidiaPayload_plain hminus).2.1 rfl,
    fun hlowline => (nvidiaPayload_plain hlowline).2.2 rfl⟩

theorem fromStr_nvidiaSampleClaims :
    nvidiaSerde.fromStr .ok nvidiaSampleClaims.print = .ok nvidiaSampleClaims := by
  dsimp only [nvidiaSerde]
  rw [if_pos rfl]

/-- The answer of the service is read. -/
theorem fromStr_nvidiaResponse :
    Nvidia.NrasResponse.fromStr nvidiaEnv nvidiaResponse.print = .ok ⟨nvidiaToken, nvidiaToken⟩ := by
  have hne : nvidiaResponse.print ≠ nvidiaSampleClaims.print := by
    have hchar : (Json.printChars nvidiaResponse)[2]? ≠ (Json.printChars nvidiaSampleClaims)[2]? := by
      decide
    intro h
    rw [← Json.toList_print, ← Json.toList_print, h] at hchar
    exact hchar rfl
  have hread : nvidiaEnv.serde.fromStr Nvidia.responseFromValue nvidiaResponse.print =
      .ok (["JWT", nvidiaToken], [("GPU-0", nvidiaToken)]) := by
    dsimp only [nvidiaEnv, nvidiaSerde]
    rw [if_neg hne, if_pos rfl]
    rfl
  rw [Nvidia.NrasResponse.fromStr, hread]
  rfl

/-- The service's tokens are validated, and have its claims. -/
theorem nvidiaResponse_claims :
    Nvidia.NrasResponse.validate nvidiaEnv () ⟨nvidiaToken, nvidiaToken⟩ = .ok () ∧
      Nvidia.NrasResponse.claims nvidiaEnv ⟨nvidiaToken, nvidiaToken⟩ = .ok nvidiaSampleClaims := by
  obtain ⟨hpayload, hplain⟩ := nvidiaToken_hasPayload
  have hexp : Nvidia.validateExp 1760000000 nvidiaSampleClaims = .ok () := by
    have hget : nvidiaSampleClaims.get "exp" = some (.number (.int 4102444800)) := rfl
    rw [Nvidia.validateExp, hget]
    exact if_neg (by decide)
  have hslice : nvidiaSerde.fromSlice .ok (toUtf8 nvidiaSampleClaims.print) =
      .ok nvidiaSampleClaims := by
    rw [SerdeJson.fromSlice, fromUtf8_toUtf8]
    exact fromStr_nvidiaSampleClaims
  have hvalid : nvidiaEnv.validateJwt () nvidiaToken = .ok () :=
    Nvidia.validateJwt_anySignature hpayload hslice hexp
  have hget : Nvidia.getJwtPayload nvidiaEnv nvidiaToken = .ok nvidiaSampleClaims := by
    refine (Nvidia.getJwtPayload_of_hasPayload hpayload).2 ⟨hplain, ?_⟩
    rw [fromUtf8Lossy_toUtf8]
    exact fromStr_nvidiaSampleClaims
  refine ⟨Outcome.check_eq_ok.2 ⟨Outcome.ofExcept_eq_ok.2 hvalid, Outcome.ofExcept_eq_ok.2 hvalid⟩,
    ?_⟩
  have hnone : nvidiaSampleClaims.get "x-nvidia-overall-att-result" = none := rfl
  rw [Nvidia.NrasResponse.claims, hget, Outcome.ok_bind, Outcome.ok_bind, Nvidia.addOverallResult,
    hnone]

/-- The service verifies the device. -/
theorem nvidiaDevice_verifiedRemotely : Nvidia.VerifiedRemotely nvidiaEnv () none
    ⟨.Hopper, "GPU-0", "00", "AA=="⟩ (regularizeData [7] Nvidia.SPDM_NONCE_SIZE)
      nvidiaSampleClaims := by
  obtain ⟨hvalid, hclaims⟩ := nvidiaResponse_claims
  have hurl : (none : Option String).getD Nvidia.NRAS_URL ++ "/gpu" =
      "https://nras.attestation.nvidia.com/v4/attest/gpu" := by
    decide
  refine ⟨(200, nvidiaResponse.print), _, ?_, by decide, fromStr_nvidiaResponse, hvalid, hclaims, rfl⟩
  rw [hurl]
  dsimp only [nvidiaEnv]
  rw [if_pos rfl]

/-- The evaluation of one device, where the service verifies it. -/
theorem evaluate_of_verifiedRemotely {E : Nvidia.Env} {jwks : E.NrasJwks} {url : Option String}
    {evidence : Json} {expected : Bytes} {device : Nvidia.NvDeviceReportAndCert} {claims : Json}
    (hdevices : Nvidia.devicesFromValue E evidence = .ok [device]) (harch : device.arch = .Hopper)
    (h : Nvidia.VerifiedRemotely E jwks url device
      (regularizeData expected Nvidia.SPDM_NONCE_SIZE) claims) (initDataHash : InitDataHash) :
    Nvidia.evaluate (.Remote url jwks) evidence (.value expected) initDataHash =
      .ok [(claims, "gpu")] := by
  have hdevice := Nvidia.evaluateDeviceRemotely_eq_ok.2 ⟨harch, rfl, h⟩
  simp only [Nvidia.evaluate, hdevices, Outcome.ofExcept, Outcome.context, Outcome.ok_bind,
    Nvidia.evaluateDevices, Nvidia.evaluateDevice, hdevice, Outcome.pure_eq]

theorem evaluate_nvidiaEvidence :
    Nvidia.evaluate (E := nvidiaEnv) (.Remote none ()) nvidiaEvidence (.value [7]) .notProvided =
      .ok [(nvidiaSampleClaims, "gpu")] :=
  evaluate_of_verifiedRemotely rfl rfl nvidiaDevice_verifiedRemotely _

/-- The configuration of the device is affirmed, and the service verified it. -/
theorem gpuPolicy_affirms_example : ∃ verified,
    Nvidia.evaluate (E := nvidiaEnv) (.Remote none ()) nvidiaEvidence (.value [7]) .notProvided =
      .ok verified ∧ (nvidiaSampleClaims, "gpu") ∈ verified ∧
      gpuPolicy.eval (policyContext compareTexts (fun _ => none) nvidiaInput) "configuration" =
        .ok (some (claimValue 3)) ∧
      ∃ device, Nvidia.VerifiedRemotely nvidiaEnv () none device
        (regularizeData [7] Nvidia.SPDM_NONCE_SIZE) nvidiaSampleClaims := by
  have htransform : transformClaims nvidiaBroker nvidiaSampleClaims .null .null .Nvidia =
      .ok (Table.empty.insert "nvidia" nvidiaSampleClaims) :=
    transformClaims_object (moveClaim_of_none rfl) (moveClaim_of_none rfl) rfl rfl
  have hinput : IsInput (C := nvidiaBroker.crate) id
      (Table.empty.insert "nvidia" nvidiaSampleClaims) nvidiaInput := by
    intro k
    change (if k = "nvidia" then some nvidiaSampleClaims else none) =
      Option.map id (if k = "nvidia" then some nvidiaSampleClaims else none)
    rw [Option.map_id, id]
  have heval : gpuPolicy.eval (policyContext compareTexts (fun _ => none) nvidiaInput)
      "configuration" = .ok (some (claimValue 3)) := rfl
  obtain ⟨-, hverified⟩ := gpuPolicy_affirms htransform hinput
    (fun raw hraw => (Except.ok.inj hraw).symm) (show "configuration" ∈ evidenceClaims by decide)
    heval fun h => by cases h
  obtain ⟨expected, url, jwks, devices, device, hreport, hremote, -, -, hdevice⟩ :=
    hverified nvidiaEnv (.Remote none ()) nvidiaEvidence (.value [7]) .notProvided _ "gpu"
      evaluate_nvidiaEvidence List.mem_cons_self
  cases hreport
  cases hremote
  exact ⟨_, evaluate_nvidiaEvidence, List.mem_cons_self, heval, device, hdevice⟩

end Trustmee.Policy
