import Trustmee.Foundations.Rego

/-!
# The default policy for CPUs

The rules of `ear_default_policy_cpu.rego` for trust claims, in its order, and what can be read off
them: the rules of each trust claim ask first for the claims of a platform, each for those of
another one (`guards_of_mem`), and the policy reads nothing but the claims of the platforms
(`cpuPolicy_readsOnly`).
-/

namespace Trustmee.Policy

open Rego

/-! ## Literals -/

/-- `query_reference_value(id)`. -/
def queryReferenceValue (id : String) : Term := .call "query_reference_value" id

/-- `input.platform`. -/
def present (platform : String) : Literal := .test (.holds (.input [platform]))

/-- `input.path in query_reference_value(id)`. -/
def isIn (path : List String) (id : String) : Literal :=
  .test (.mem (.input path) (queryReferenceValue id))

/-- `input.path == query_reference_value(id)`. -/
def isReference (path : List String) (id : String) : Literal :=
  .test (.eq (.input path) (queryReferenceValue id))

/-- `input.path == v`. -/
def is (path : List String) (v : Json) : Literal := .test (.eq (.input path) (.value v))

/-- A value of a trust claim. -/
def claimValue (n : ℤ) : Json := .number (.int n)

def executables (branches : List (Json × List Literal)) : Rule := ⟨"executables", branches⟩

def hardware (branches : List (Json × List Literal)) : Rule := ⟨"hardware", branches⟩

def configuration (branches : List (Json × List Literal)) : Rule := ⟨"configuration", branches⟩

/-! ## Sample -/

def sampleExecutables : Rule := executables
  [(claimValue 3, [
    present "sample",
    isIn ["sample", "launch_digest"] "launch_digest"])]

def sampleHardware : Rule := hardware
  [(claimValue 2, [
    present "sample",
    isIn ["sample", "svn"] "svn",
    isReference ["sample", "platform_version", "major"] "major_version",
    .test (.ge (.input ["sample", "platform_version", "minor"])
      (queryReferenceValue "minimum_minor_version"))])]

def sampleConfiguration : Rule := configuration
  [(claimValue 2, [
    present "sample",
    is ["sample", "debug"] (.bool false)])]

/-! ## SNP -/

def snpExecutables : Rule := executables
  [(claimValue 3, [
    present "snp",
    isIn ["snp", "measurement"] "snp_launch_measurement"])]

def snpHardware : Rule := hardware
  [(claimValue 2, [
    present "snp",
    isIn ["snp", "reported_tcb_bootloader"] "snp_bootloader",
    isIn ["snp", "reported_tcb_microcode"] "snp_microcode",
    isIn ["snp", "reported_tcb_snp"] "snp_snp_svn",
    isIn ["snp", "reported_tcb_tee"] "snp_tee_svn"])]

def snpConfiguration : Rule := configuration
  [(claimValue 2, [
    present "snp",
    is ["snp", "policy_debug_allowed"] (.bool false),
    is ["snp", "policy_migrate_ma"] (.bool false),
    isReference ["snp", "platform_smt_enabled"] "snp_smt_enabled",
    isReference ["snp", "platform_tsme_enabled"] "snp_tsme_enabled",
    isReference ["snp", "policy_abi_major"] "snp_guest_abi_major",
    isReference ["snp", "policy_abi_minor"] "snp_guest_abi_minor",
    isReference ["snp", "policy_single_socket"] "snp_single_socket",
    isReference ["snp", "policy_smt_allowed"] "snp_smt_allowed"]),
   (claimValue 3, [
    present "snp",
    is ["snp", "policy_debug_allowed"] (.bool false),
    is ["snp", "policy_migrate_ma"] (.bool false)])]

/-! ## TDX -/

def tdxExecutables : Rule := executables
  [(claimValue 3, [
    present "tdx",
    isIn ["tdx", "quote", "body", "rtmr_1"] "rtmr_1",
    isIn ["tdx", "quote", "body", "rtmr_2"] "rtmr_2",
    .test (.rule "tdx_uefi_event_tdvfkernel_ok"),
    .test (.rule "tdx_uefi_event_tdvfkernelparams_ok")]),
   (claimValue 4, [
    present "tdx",
    isIn ["tdx", "quote", "body", "rtmr_1"] "rtmr_1",
    isIn ["tdx", "quote", "body", "rtmr_2"] "rtmr_2"])]

def tdxHardware : Rule := hardware
  [(claimValue 2, [
    present "tdx",
    is ["tdx", "quote", "header", "tee_type"] (.string "81000000"),
    is ["tdx", "quote", "header", "vendor_id"] (.string "939a7233f79c4ca9940a0db3957f0607"),
    isIn ["tdx", "quote", "body", "mr_seam"] "mr_seam",
    isIn ["tdx", "quote", "body", "tcb_svn"] "tcb_svn",
    isIn ["tdx", "quote", "body", "mr_td"] "mr_td",
    is ["tdx", "tcb_status"] (.string "UpToDate"),
    is ["tdx", "collateral_expiration_status"] (.string "0")])]

def tdxConfiguration : Rule := configuration
  [(claimValue 2, [
    present "tdx",
    is ["tdx", "td_attributes", "debug"] (.bool false),
    isIn ["tdx", "quote", "body", "xfam"] "xfam"])]

def tdxUefiEventTdvfkernelOk : Rule :=
  ⟨"tdx_uefi_event_tdvfkernel_ok",
    [(.bool true, [
      .each "event" (.input ["tdx", "uefi_event_logs"]),
      .test (.eq (.var "event" ["type_name"]) (.value (.string "EV_EFI_BOOT_SERVICES_APPLICATION"))),
      .test (.mem (.value (.string "File(kernel)")) (.var "event" ["details", "device_paths"])),
      .each "digest" (.var "event" ["digests"]),
      .test (.eq (.var "digest" ["digest"]) (queryReferenceValue "tdvfkernel"))])]⟩

def tdxUefiEventTdvfkernelparamsOk : Rule :=
  ⟨"tdx_uefi_event_tdvfkernelparams_ok",
    [(.bool true, [
      .each "event" (.input ["tdx", "uefi_event_logs"]),
      .test (.eq (.var "event" ["type_name"]) (.value (.string "EV_EVENT_TAG"))),
      .test (.eq (.var "event" ["details", "string"])
        (.value (.string "LOADED_IMAGE::LoadOptions"))),
      .each "digest" (.var "event" ["digests"]),
      .test (.eq (.var "digest" ["digest"]) (queryReferenceValue "tdvfkernelparams"))])]⟩

/-! ## Azure vTPM SNP -/

def azSnpVtpmExecutables : Rule := executables
  [(claimValue 3, [
    present "az_snp_vtpm",
    isIn ["az_snp_vtpm", "measurement"] "measurement",
    isIn ["az_snp_vtpm", "tpm", "pcr11"] "snp_pcr11"])]

def azSnpVtpmHardware : Rule := hardware
  [(claimValue 2, [
    present "az_snp_vtpm",
    isIn ["az_snp_vtpm", "reported_tcb_bootloader"] "tcb_bootloader",
    isIn ["az_snp_vtpm", "reported_tcb_microcode"] "tcb_microcode",
    isIn ["az_snp_vtpm", "reported_tcb_snp"] "tcb_snp",
    isIn ["az_snp_vtpm", "reported_tcb_tee"] "tcb_tee"])]

def azSnpVtpmConfiguration : Rule := configuration
  [(claimValue 2, [
    present "az_snp_vtpm",
    isIn ["az_snp_vtpm", "platform_smt_enabled"] "smt_enabled",
    isIn ["az_snp_vtpm", "platform_tsme_enabled"] "tsme_enabled",
    isIn ["az_snp_vtpm", "policy_abi_major"] "abi_major",
    isIn ["az_snp_vtpm", "policy_abi_minor"] "abi_minor",
    isIn ["az_snp_vtpm", "policy_single_socket"] "single_socket",
    isIn ["az_snp_vtpm", "policy_smt_allowed"] "smt_allowed"])]

/-! ## Azure vTPM TDX -/

def azTdxVtpmExecutables : Rule := executables
  [(claimValue 3, [
    present "az_tdx_vtpm",
    isIn ["az_tdx_vtpm", "tpm", "pcr11"] "tdx_pcr11"])]

def azTdxVtpmHardware : Rule := hardware
  [(claimValue 2, [
    present "az_tdx_vtpm",
    is ["az_tdx_vtpm", "quote", "header", "tee_type"] (.string "81000000"),
    is ["az_tdx_vtpm", "quote", "header", "vendor_id"]
      (.string "939a7233f79c4ca9940a0db3957f0607"),
    isIn ["az_tdx_vtpm", "quote", "body", "mr_seam"] "mr_seam",
    isIn ["az_tdx_vtpm", "quote", "body", "tcb_svn"] "tcb_svn",
    isIn ["az_tdx_vtpm", "quote", "body", "mr_td"] "mr_td"])]

def azTdxVtpmConfiguration : Rule := configuration
  [(claimValue 2, [
    present "az_tdx_vtpm",
    isIn ["az_tdx_vtpm", "quote", "body", "xfam"] "xfam"])]

/-! ## TPM -/

def tpmHardware : Rule := hardware [(claimValue 2, [present "tpm"])]

def tpmExecutables : Rule := executables
  [(claimValue 3, [
    present "tpm",
    isIn ["tpm", "pcr11"] "tpm_pcr11"])]

def tpmConfiguration : Rule := configuration [(claimValue 0, [present "tpm"])]

/-! ## The policy -/

/-- `ear_default_policy_cpu.rego`, without its extensions. -/
def cpuPolicy : Rego.Policy where
  defaults := [("executables", claimValue 33), ("hardware", claimValue 97),
    ("configuration", claimValue 36), ("file_system", claimValue 0),
    ("instance_identity", claimValue 0), ("runtime_opaque", claimValue 0),
    ("storage_opaque", claimValue 0), ("sourced_data", claimValue 0)]
  helpers := [tdxUefiEventTdvfkernelOk, tdxUefiEventTdvfkernelparamsOk]
  rules := [sampleExecutables, sampleHardware, sampleConfiguration,
    snpExecutables, snpHardware, snpConfiguration,
    tdxExecutables, tdxHardware, tdxConfiguration,
    azSnpVtpmExecutables, azSnpVtpmHardware, azSnpVtpmConfiguration,
    azTdxVtpmExecutables, azTdxVtpmHardware, azTdxVtpmConfiguration,
    tpmHardware, tpmExecutables, tpmConfiguration]
  objects := [("trust_claims",
    [("executables", "executables"), ("hardware", "hardware"), ("configuration", "configuration"),
     ("file-system", "file_system"), ("instance-identity", "instance_identity"),
     ("runtime-opaque", "runtime_opaque"), ("storage-opaque", "storage_opaque"),
     ("sourced-data", "sourced_data")])]

/-- The names under which the policy looks for claims. -/
def platforms : List String := ["sample", "snp", "tdx", "az_snp_vtpm", "az_tdx_vtpm", "tpm"]

/-- The trust claims that depend on the evidence. -/
def evidenceClaims : List String := ["executables", "hardware", "configuration"]

/-- The rules of a trust claim ask for the platforms, each for another one. -/
theorem guards_of_mem {head : String} (h : head ∈ evidenceClaims) :
    cpuPolicy.guards head = platforms.map some := by
  simp only [evidenceClaims, List.mem_cons, List.not_mem_nil, or_false] at h
  rcases h with rfl | rfl | rfl
  · rfl
  · rfl
  · rfl

theorem exists_default_of_mem {head : String} (h : head ∈ evidenceClaims) :
    ∃ d, Json.Map.get cpuPolicy.defaults head = some d := by
  simp only [evidenceClaims, List.mem_cons, List.not_mem_nil, or_false] at h
  rcases h with rfl | rfl | rfl
  · exact ⟨_, rfl⟩
  · exact ⟨_, rfl⟩
  · exact ⟨_, rfl⟩

theorem cpuPolicy_readsOnly : cpuPolicy.readsOnly (platforms.map fun p => [p]) = true := by
  decide

end Trustmee.Policy
