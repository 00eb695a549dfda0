import Mathlib.Data.Nat.Notation
import Trustmee.Foundations.Outcome

/-!
# The enumerations of the event log

The hash algorithms and the types of events, with their codes in the log and their names in claims.
-/

namespace Trustmee.Eventlog

/-- `TcgAlgorithm`. -/
inductive TcgAlgorithm
  | Rsa | Tdes | Sha1 | Sha256 | Sha384 | Sha512 | Sm3
  deriving DecidableEq

namespace TcgAlgorithm

/-- How serde names an algorithm. -/
def name : TcgAlgorithm → String
  | Rsa => "RSA"
  | Tdes => "TDES"
  | Sha1 => "SHA-1"
  | Sha256 => "SHA-256"
  | Sha384 => "SHA-384"
  | Sha512 => "SHA-512"
  | Sm3 => "SM3"

/-- How `{:?}` prints an algorithm. -/
def debug : TcgAlgorithm → String
  | Rsa => "Rsa"
  | Tdes => "Tdes"
  | Sha1 => "Sha1"
  | Sha256 => "Sha256"
  | Sha384 => "Sha384"
  | Sha512 => "Sha512"
  | Sm3 => "Sm3"

/-- `get_digest_size`. -/
def getDigestSize : TcgAlgorithm → Outcome ℕ
  | Sha1 => .ok 20
  | Sha256 => .ok 32
  | Sha384 => .ok 48
  | Sha512 => .ok 64
  | Sm3 => .ok 32
  | alg => .bail ("Failed to get digest size for unsupported algorithm: " ++ alg.debug)

/-- `TryFrom<u32>`. -/
def tryFrom (value : ℕ) : Option TcgAlgorithm :=
  match value with
  | 0x1 => some Rsa
  | 0x3 => some Tdes
  | 0x4 => some Sha1
  | 0xB => some Sha256
  | 0xC => some Sha384
  | 0xD => some Sha512
  | 0x12 => some Sm3
  | _ => none

/-- The code of an algorithm. -/
def code : TcgAlgorithm → ℕ
  | Rsa => 0x1
  | Tdes => 0x3
  | Sha1 => 0x4
  | Sha256 => 0xB
  | Sha384 => 0xC
  | Sha512 => 0xD
  | Sm3 => 0x12

theorem code_lt (alg : TcgAlgorithm) : alg.code < 65536 := by
  cases alg <;> decide

theorem tryFrom_eq_some_iff {value : ℕ} {alg : TcgAlgorithm} :
    tryFrom value = some alg ↔ value = alg.code := by
  constructor
  · intro h
    unfold tryFrom at h
    split at h
    all_goals first | cases h; rfl | cases h
  · rintro rfl
    cases alg <;> rfl

end TcgAlgorithm

/-- `TcgEventType`. -/
inductive TcgEventType
  | EvPrebootCert | EvPostCode | EvUnused | EvNoAction | EvSeparator | EvAction | EvEventTag
  | EvSCrtmContents | EvSCrtmVersion | EvCpuMicrocode | EvPlatformConfigFlags | EvTableOfDevices
  | EvCompactHash | EvIpl | EvIplPartitionData | EvNonhostCode | EvNonhostConfig | EvNonhostInfo
  | EvOmitBootDeviceEvents | EvEfiEventBase | EvEfiVariableDriverConfig | EvEfiVariableBoot
  | EvEfiBootServicesApplication | EvEfiBootServicesDriver | EvEfiRuntimeServicesDriver
  | EvEfiGptEvent | EvEfiAction | EvEfiPlatformFirmwareBlob | EvEfiHandoffTables
  | EvEfiPlatformFirmwareBlob2 | EvEfiHandoffTables2 | EvEfiVariableBoot2 | EvEfiHcrtmEvent
  | EvEfiVariableAuthority | EvEfiSpdmFirmwareBlob | EvEfiSpdmFirmwareConfig
  deriving DecidableEq

namespace TcgEventType

/-- The types, with the code and the name of each. -/
def table : List (TcgEventType × ℕ × String) :=
  [(EvPrebootCert, 0x0, "EV_PREBOOT_CERT"),
   (EvPostCode, 0x1, "EV_POST_CODE"),
   (EvUnused, 0x2, "EV_UNUSED"),
   (EvNoAction, 0x3, "EV_NO_ACTION"),
   (EvSeparator, 0x4, "EV_SEPARATOR"),
   (EvAction, 0x5, "EV_ACTION"),
   (EvEventTag, 0x6, "EV_EVENT_TAG"),
   (EvSCrtmContents, 0x7, "EV_S_CRTM_CONTENTS"),
   (EvSCrtmVersion, 0x8, "EV_S_CRTM_VERSION"),
   (EvCpuMicrocode, 0x9, "EV_CPU_MICROCODE"),
   (EvPlatformConfigFlags, 0xA, "EV_PLATFORM_CONFIG_FLAGS"),
   (EvTableOfDevices, 0xB, "EV_TABLE_OF_DEVICES"),
   (EvCompactHash, 0xC, "EV_COMPACT_HASH"),
   (EvIpl, 0xD, "EV_IPL"),
   (EvIplPartitionData, 0xE, "EV_IPL_PARTITION_DATA"),
   (EvNonhostCode, 0xF, "EV_NONHOST_CODE"),
   (EvNonhostConfig, 0x10, "EV_NONHOST_CONFIG"),
   (EvNonhostInfo, 0x11, "EV_NONHOST_INFO"),
   (EvOmitBootDeviceEvents, 0x12, "EV_OMIT_BOOT_DEVICE_EVENTS"),
   (EvEfiEventBase, 0x80000000, "EV_EFI_EVENT_BASE"),
   (EvEfiVariableDriverConfig, 0x80000001, "EV_EFI_VARIABLE_DRIVER_CONFIG"),
   (EvEfiVariableBoot, 0x80000002, "EV_EFI_VARIABLE_BOOT"),
   (EvEfiBootServicesApplication, 0x80000003, "EV_EFI_BOOT_SERVICES_APPLICATION"),
   (EvEfiBootServicesDriver, 0x80000004, "EV_EFI_BOOT_SERVICES_DRIVER"),
   (EvEfiRuntimeServicesDriver, 0x80000005, "EV_EFI_RUNTIME_SERVICES_DRIVER"),
   (EvEfiGptEvent, 0x80000006, "EV_EFI_GPT_EVENT"),
   (EvEfiAction, 0x80000007, "EV_EFI_ACTION"),
   (EvEfiPlatformFirmwareBlob, 0x80000008, "EV_EFI_PLATFORM_FIRMWARE_BLOB"),
   (EvEfiHandoffTables, 0x80000009, "EV_EFI_HANDOFF_TABLES"),
   (EvEfiPlatformFirmwareBlob2, 0x8000000A, "EV_EFI_PLATFORM_FIRMWARE_BLOB2"),
   (EvEfiHandoffTables2, 0x8000000B, "EV_EFI_HANDOFF_TABLES2"),
   (EvEfiVariableBoot2, 0x8000000C, "EV_EFI_VARIABLE_BOOT2"),
   (EvEfiHcrtmEvent, 0x80000010, "EV_EFI_HCRTM_EVENT"),
   (EvEfiVariableAuthority, 0x800000E0, "EV_EFI_VARIABLE_AUTHORITY"),
   (EvEfiSpdmFirmwareBlob, 0x800000E1, "EV_EFI_SPDM_FIRMWARE_BLOB"),
   (EvEfiSpdmFirmwareConfig, 0x800000E2, "EV_EFI_SPDM_FIRMWARE_CONFIG")]

/-- `TryFrom<u32>`. -/
def tryFrom (value : ℕ) : Option TcgEventType :=
  (table.find? fun row => row.2.1 == value).map Prod.fst

/-- How serde names a type. -/
def name (type : TcgEventType) : String :=
  ((table.find? fun row => row.1 == type).map fun row => row.2.2).getD ""

/-- Every type has a row of its own, and no two have one code. -/
theorem tryFrom_table : ∀ row ∈ table, tryFrom row.2.1 = some row.1 ∧ name row.1 = row.2.2 := by
  decide

theorem exists_row (type : TcgEventType) : ∃ row ∈ table, row.1 = type := by
  cases type <;> decide

/-- The code of a type. -/
def code (type : TcgEventType) : ℕ :=
  ((table.find? fun row => row.1 == type).map fun row => row.2.1).getD 0

theorem code_table : ∀ row ∈ table, row.2.1 = code row.1 ∧ code row.1 < 0x80000100 := by decide

theorem code_lt (type : TcgEventType) : code type < 0x80000100 := by
  obtain ⟨row, hrow, rfl⟩ := exists_row type
  exact (code_table row hrow).2

theorem tryFrom_eq_some_iff {value : ℕ} {type : TcgEventType} :
    tryFrom value = some type ↔ value = code type := by
  constructor
  · intro h
    obtain ⟨row, hfound, rfl⟩ := Option.map_eq_some_iff.1 h
    have hvalue : row.2.1 = value := by simpa using List.find?_some hfound
    rw [← hvalue]
    exact (code_table row (List.mem_of_find?_eq_some hfound)).1
  · rintro rfl
    obtain ⟨row, hrow, rfl⟩ := exists_row type
    rw [← (code_table row hrow).1]
    exact (tryFrom_table row hrow).1

theorem code_eq_zero_iff {type : TcgEventType} : code type = 0 ↔ type = EvPrebootCert := by
  have htable : ∀ row ∈ table, code row.1 = 0 ↔ row.1 = EvPrebootCert := by decide
  obtain ⟨row, hrow, rfl⟩ := exists_row type
  exact htable row hrow

end TcgEventType

end Trustmee.Eventlog
