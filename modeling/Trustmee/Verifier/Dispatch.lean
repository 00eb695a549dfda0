import Trustmee.KbsTypes
import Trustmee.Snp.Native
import Trustmee.Tdx.Native
import Trustmee.Verifier.Cca
import Trustmee.Verifier.Hygon
import Trustmee.Verifier.Nvidia
import Trustmee.Verifier.Sample
import Trustmee.Verifier.Se
import Trustmee.Verifier.Sgx
import Trustmee.Verifier.Vtpm

/-!
# The native verifiers

`to_verifier` gives the verifier of a TEE, where its feature is enabled. What the claims of the
verifiers mean is said for each TEE by the fields that its verifier compares (`ReportDataBound`,
`InitDataBound`): every verifier but the one of IBM SE gives a report data claim only after it
compared the report data (`toVerifier_bindsReportData`), and every verifier but the sample one gives
an init data claim only after it compared the init data hash (`toVerifier_bindsInitData`).
-/

namespace Trustmee.Native

/-- `TpmVerifierConfig`. -/
structure TpmVerifierConfig where
  trustedAkKeysDir : String
  maxTrustedAkKeys : ℕ

/-- `VerifierConfig`. -/
structure VerifierConfig where
  nvidiaVerifier : Option Nvidia.NvidiaVerifierType
  tpmVerifier : Option TpmVerifierConfig

/-- What the verifiers take from elsewhere. -/
structure Env where
  /-- The features that the `verifier` crate is built with. -/
  enabled : String → Bool
  azSnpVtpm : AzSnpVtpm.Env
  azTdxVtpm : AzTdxVtpm.Env
  tdx : Tdx.Env
  snp : Snp.Env
  /-- `ecdsa_quote_verification`, of SGX quotes. -/
  sgx : Bytes → Outcome Tdx.CustomClaims
  csv : Csv.Env
  cca : Cca.Env
  se : Se.Env
  hygonDcu : HygonDcu.Env
  nvidia : Nvidia.Env
  tpm : Vtpm
  /-- `TpmVerifier::new`: the hashes of the trusted keys. -/
  trustedAkHashes : Option TpmVerifierConfig → Except String (List Bytes)

variable (E : Env)

/-- The verifier of a feature. -/
def ifEnabled (feature : String) (verifier : Outcome NativeVerifier) : Outcome NativeVerifier :=
  if E.enabled feature then verifier
  else .bail ("feature `" ++ feature ++ "` is not enabled for `verifier` crate.")

/-- `to_verifier`. -/
def toVerifier (tee : Tee) (config : Option VerifierConfig) : Outcome NativeVerifier :=
  match tee with
  | .Sev => .panic "not yet implemented"
  | .AzSnpVtpm => ifEnabled E "az-snp-vtpm-verifier" (.ok (AzSnpVtpm.evaluate E.azSnpVtpm))
  | .AzTdxVtpm => ifEnabled E "az-tdx-vtpm-verifier" (.ok (AzTdxVtpm.evaluate E.azTdxVtpm))
  | .Tdx => ifEnabled E "tdx-verifier" (.ok (Tdx.Native.evaluate E.tdx))
  | .Snp => ifEnabled E "snp-verifier" (.ok (Snp.Native.evaluate E.snp))
  | .Sample => .ok Sample.evaluate
  | .SampleDevice => .ok Sample.evaluateDevice
  | .Sgx => ifEnabled E "sgx-verifier" (.ok (Sgx.evaluate E.sgx))
  | .Csv => ifEnabled E "csv-verifier" (.ok (Csv.evaluate E.csv))
  | .Cca => ifEnabled E "cca-verifier" (.ok (Cca.evaluate E.cca))
  | .Se => ifEnabled E "se-verifier" (.ok (Se.evaluate E.se))
  | .HygonDcu => ifEnabled E "hygon-dcu-verifier" (.ok (HygonDcu.evaluate E.hygonDcu))
  | .Nvidia => ifEnabled E "nvidia-verifier" do
    let verifier ← Nvidia.new E.nvidia (config.bind (·.nvidiaVerifier))
    return Nvidia.evaluate verifier
  | .Tpm => ifEnabled E "tpm-verifier" do
    let trustedAkHashes ← Outcome.ofExcept (E.trustedAkHashes (config.bind (·.tpmVerifier)))
    return Tpm.evaluate E.tpm trustedAkHashes

/-! ## What the claims mean -/

/-- The report data field of the evidence is the expected one. It is brought to the field's length
where the verifier does so, and a TEE whose verifier gives no report data claim has no field. -/
def ReportDataBound : Tee → Json → Bytes → Prop
  | .AzSnpVtpm => AzSnpVtpm.ReportDataBound E.azSnpVtpm
  | .AzTdxVtpm => AzTdxVtpm.ReportDataBound E.azTdxVtpm
  | .Cca => Cca.ReportDataBound E.cca
  | .Csv => Csv.ReportDataBound E.csv
  | .Sample => Sample.ReportDataBound "SampleTeeEvidence"
  | .SampleDevice => Sample.ReportDataBound "SampleDeviceEvidence"
  | .Se => Se.ReportDataBound E.se
  | .Sgx => Sgx.ReportDataBound
  | .Snp => Snp.Native.ReportDataBound E.snp
  | .Tdx => Tdx.Native.ReportDataBound
  | .Tpm => Tpm.ReportDataBound E.tpm
  | .Nvidia => Nvidia.ReportDataBound E.nvidia
  | .HygonDcu | .Sev => fun _ _ => False

/-- The init data field of the evidence is the expected one. The evidence of the TEEs that do not
support init data has no such field. -/
def InitDataBound : Tee → Json → Bytes → Prop
  | .AzSnpVtpm => AzSnpVtpm.InitDataBound E.azSnpVtpm
  | .AzTdxVtpm => AzTdxVtpm.InitDataBound E.azTdxVtpm
  | .Cca => Cca.InitDataBound E.cca
  | .Sgx => Sgx.InitDataBound
  | .Snp => Snp.Native.InitDataBound E.snp
  | .Tdx => Tdx.Native.InitDataBound
  | .Tpm => Tpm.InitDataBound E.tpm
  | .Csv | .HygonDcu | .Nvidia | .Sample | .SampleDevice | .Se | .Sev => fun _ _ => False

variable {E}

theorem ifEnabled_eq_ok {feature : String} {verifier : Outcome NativeVerifier}
    {v : NativeVerifier} :
    ifEnabled E feature verifier = .ok v ↔ E.enabled feature = true ∧ verifier = .ok v := by
  unfold ifEnabled
  split <;> simp_all

/-- **A report data claim means that the report data was compared**, for every TEE but IBM SE. -/
theorem toVerifier_bindsReportData {tee : Tee} {config : Option VerifierConfig}
    {verifier : NativeVerifier} (htee : tee ≠ .Se)
    (h : toVerifier E tee config = .ok verifier) :
    BindsReportData verifier (ReportDataBound E tee) := by
  cases tee with
  | Sev => cases h
  | Se => exact absurd rfl htee
  | Sample =>
    cases h
    exact Sample.evaluate_bindsReportData
  | SampleDevice =>
    cases h
    exact Sample.evaluateDevice_bindsReportData
  | AzSnpVtpm =>
    cases (ifEnabled_eq_ok.1 h).2
    exact AzSnpVtpm.evaluate_bindsReportData _
  | AzTdxVtpm =>
    cases (ifEnabled_eq_ok.1 h).2
    exact AzTdxVtpm.evaluate_bindsReportData _
  | Tdx =>
    cases (ifEnabled_eq_ok.1 h).2
    exact Tdx.Native.evaluate_bindsReportData
  | Snp =>
    cases (ifEnabled_eq_ok.1 h).2
    exact Snp.Native.evaluate_bindsReportData
  | Sgx =>
    cases (ifEnabled_eq_ok.1 h).2
    exact Sgx.evaluate_bindsReportData _
  | Csv =>
    cases (ifEnabled_eq_ok.1 h).2
    exact Csv.evaluate_bindsReportData _
  | Cca =>
    cases (ifEnabled_eq_ok.1 h).2
    exact Cca.evaluate_bindsReportData _
  | HygonDcu =>
    cases (ifEnabled_eq_ok.1 h).2
    exact HygonDcu.evaluate_bindsReportData _
  | Nvidia =>
    obtain ⟨verifier, -, hv⟩ := Outcome.bind_eq_ok.1 (ifEnabled_eq_ok.1 h).2
    cases hv
    exact Nvidia.evaluate_bindsReportData verifier
  | Tpm =>
    obtain ⟨hashes, -, hv⟩ := Outcome.bind_eq_ok.1 (ifEnabled_eq_ok.1 h).2
    cases hv
    exact Tpm.evaluate_bindsReportData _ hashes

/-- **An init data claim means that the init data hash was compared**, for every TEE but the sample
one. -/
theorem toVerifier_bindsInitData (hservice : Nvidia.ServiceClaims E.nvidia) {tee : Tee}
    {config : Option VerifierConfig} {verifier : NativeVerifier} (htee : tee ≠ .Sample)
    (h : toVerifier E tee config = .ok verifier) :
    BindsInitData verifier (InitDataBound E tee) := by
  cases tee with
  | Sev => cases h
  | Sample => exact absurd rfl htee
  | SampleDevice =>
    cases h
    exact Sample.evaluateDevice_bindsInitData
  | Se =>
    cases (ifEnabled_eq_ok.1 h).2
    exact Se.evaluate_bindsInitData _
  | AzSnpVtpm =>
    cases (ifEnabled_eq_ok.1 h).2
    exact AzSnpVtpm.evaluate_bindsInitData _
  | AzTdxVtpm =>
    cases (ifEnabled_eq_ok.1 h).2
    exact AzTdxVtpm.evaluate_bindsInitData _
  | Tdx =>
    cases (ifEnabled_eq_ok.1 h).2
    exact Tdx.Native.evaluate_bindsInitData
  | Snp =>
    cases (ifEnabled_eq_ok.1 h).2
    exact Snp.Native.evaluate_bindsInitData
  | Sgx =>
    cases (ifEnabled_eq_ok.1 h).2
    exact Sgx.evaluate_bindsInitData _
  | Csv =>
    cases (ifEnabled_eq_ok.1 h).2
    exact Csv.evaluate_bindsInitData _
  | Cca =>
    cases (ifEnabled_eq_ok.1 h).2
    exact Cca.evaluate_bindsInitData _
  | HygonDcu =>
    cases (ifEnabled_eq_ok.1 h).2
    exact HygonDcu.evaluate_bindsInitData _
  | Nvidia =>
    obtain ⟨verifier, -, hv⟩ := Outcome.bind_eq_ok.1 (ifEnabled_eq_ok.1 h).2
    cases hv
    exact Nvidia.evaluate_bindsInitData hservice verifier
  | Tpm =>
    obtain ⟨hashes, -, hv⟩ := Outcome.bind_eq_ok.1 (ifEnabled_eq_ok.1 h).2
    cases hv
    exact Tpm.evaluate_bindsInitData _ hashes

/-! ## How many claims there are -/

/-- The class of a TEE. -/
def teeClass : Tee → String
  | .Nvidia | .SampleDevice => "gpu"
  | .HygonDcu => "dcu"
  | .AzSnpVtpm | .AzTdxVtpm | .Sev | .Sgx | .Snp | .Tdx | .Csv | .Cca | .Sample | .Se | .Tpm => "cpu"

variable (E) in
/-- How many pieces of claims a verifier gives for evidence that it accepts. -/
def claimCount : Tee → Json → ℕ
  | .Nvidia, evidence => Nvidia.deviceCount E.nvidia evidence
  | _, _ => 1

/-- **A verifier gives one piece of claims, of the TEE's class**, and the one of NVIDIA a piece for
each device. -/
theorem toVerifier_classes {tee : Tee} {config : Option VerifierConfig} {verifier : NativeVerifier}
    (hverifier : toVerifier E tee config = .ok verifier) {evidence : Json} {reportData : ReportData}
    {initDataHash : InitDataHash} {claims : Claims}
    (h : verifier evidence reportData initDataHash = .ok claims) :
    claims.map Prod.snd = List.replicate (claimCount E tee evidence) (teeClass tee) := by
  cases tee with
  | Sev => cases hverifier
  | Sample =>
    cases hverifier
    exact Sample.evaluate_givesOne.classes h
  | SampleDevice =>
    cases hverifier
    exact Sample.evaluateDevice_givesOne.classes h
  | Se =>
    cases (ifEnabled_eq_ok.1 hverifier).2
    exact (Se.evaluate_givesOne _).classes h
  | AzSnpVtpm =>
    cases (ifEnabled_eq_ok.1 hverifier).2
    exact (AzSnpVtpm.evaluate_givesOne _).classes h
  | AzTdxVtpm =>
    cases (ifEnabled_eq_ok.1 hverifier).2
    exact (AzTdxVtpm.evaluate_givesOne _).classes h
  | Tdx =>
    cases (ifEnabled_eq_ok.1 hverifier).2
    exact Tdx.Native.evaluate_givesOne.classes h
  | Snp =>
    cases (ifEnabled_eq_ok.1 hverifier).2
    exact Snp.Native.evaluate_givesOne.classes h
  | Sgx =>
    cases (ifEnabled_eq_ok.1 hverifier).2
    exact (Sgx.evaluate_givesOne _).classes h
  | Csv =>
    cases (ifEnabled_eq_ok.1 hverifier).2
    exact (Csv.evaluate_givesOne _).classes h
  | Cca =>
    cases (ifEnabled_eq_ok.1 hverifier).2
    exact (Cca.evaluate_givesOne _).classes h
  | HygonDcu =>
    cases (ifEnabled_eq_ok.1 hverifier).2
    exact (HygonDcu.evaluate_givesOne _).classes h
  | Nvidia =>
    obtain ⟨verifier, -, hv⟩ := Outcome.bind_eq_ok.1 (ifEnabled_eq_ok.1 hverifier).2
    cases hv
    exact Nvidia.evaluate_classes h
  | Tpm =>
    obtain ⟨hashes, -, hv⟩ := Outcome.bind_eq_ok.1 (ifEnabled_eq_ok.1 hverifier).2
    cases hv
    exact (Tpm.evaluate_givesOne _ hashes).classes h

end Trustmee.Native
