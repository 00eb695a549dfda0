import Trustmee.Foundations.JsonText
import Trustmee.Foundations.LittleEndian
import Trustmee.Foundations.Slices
import Trustmee.Verifier.Nvidia

/-!
# SPDM measurement responses

The report of a device ends with an SPDM response: a measurement record of so many blocks, a nonce,
NVIDIA's opaque data as typed items, and a signature. `SpdmGetMeasurementsResponse.decode` reads it.
The record, the blocks in it, the measurements in these, the opaque data and its items have lengths
of their own.
-/

namespace Trustmee.Nvidia

def SPDM_VERSION_SUPPORTED : UInt8 := 0x11

def DMTF_MEASUREMENT_SPECIFICATION_VALUE : UInt8 := 1

/-! ## Measurements -/

/-- `DmtfMeasurement`. -/
structure DmtfMeasurement where
  type : UInt8
  size : ℕ
  value : Bytes

/-- `MeasurementBlock`. -/
structure MeasurementBlock where
  index : UInt8
  measurementSpecification : UInt8
  measurementSize : ℕ
  measurement : DmtfMeasurement

/-- `DmtfMeasurement::decode`. What follows the value is not looked at. -/
def DmtfMeasurement.decode (bytes : Bytes) : Outcome DmtfMeasurement := do
  Outcome.ensure (3 ≤ bytes.length) "DMTF measurement must be bigger than 3 bytes"
  let type ← byteAt bytes 0
  let array ← slice bytes 1 3
  let size := leValue array
  let value ← Outcome.okOr (getRange bytes 3 (3 + size)) "DMTF measurement overflow"
  return ⟨type, size, value⟩

/-- The loop of `MeasurementRecord::decode`. -/
def MeasurementRecord.decodeBlocks (bytes : Bytes) : ℕ → ℕ → Outcome (List MeasurementBlock)
  | 0, _ => .ok []
  | numberOfBlocks + 1, offset => do
    Outcome.ensure (offset + 4 ≤ bytes.length) "MeasurementBlock overflow"
    let index ← byteAt bytes offset
    let measurementSpecification ← byteAt bytes (offset + 1)
    let offset := offset + 2
    Outcome.ensure (measurementSpecification = DMTF_MEASUREMENT_SPECIFICATION_VALUE)
      "Only measurements encoded in the DMTF layout are supported"
    let array ← slice bytes offset (offset + 2)
    let measurementSize := leValue array
    let offset := offset + 2
    let measurementData ← Outcome.okOr (getRange bytes offset (offset + measurementSize))
      "Measurement overflow"
    let measurement ← DmtfMeasurement.decode measurementData
    let measurementBlocks ← decodeBlocks bytes numberOfBlocks (offset + measurementSize)
    return ⟨index, measurementSpecification, measurementSize, measurement⟩ :: measurementBlocks

/-- `MeasurementRecord::decode`. -/
def MeasurementRecord.decode (numberOfBlocks : ℕ) (bytes : Bytes) :
    Outcome (List MeasurementBlock) :=
  if numberOfBlocks = 0 then .ok [] else MeasurementRecord.decodeBlocks bytes numberOfBlocks 0

/-! ## Opaque data -/

/-- `OpaqueDataType`. -/
inductive OpaqueDataType
  | CertIssuerName | CertAuthorityKeyIdentifier | DriverVersion | GpuInfo | IdSku | VbiosVersion
  | ManufacturerId | TamperDetection | Smc | Vpr | Nvdec0Status | MsrsCnt | CprInfo | BoardId
  | ChipSku | ChipSkuMod | Project | ProjectSku | ProjectSkuMod | Fwid | ProtectedPcieStatus
  | SwitchPdi | FloorsweptPorts | PositionId | LockSwitchStatus | GpuLinkConn | Invalid
  deriving DecidableEq

namespace OpaqueDataType

/-- `OpaqueDataType::from_u16`. -/
def fromU16 : ℕ → Option OpaqueDataType
  | 1 => some CertIssuerName
  | 2 => some CertAuthorityKeyIdentifier
  | 3 => some DriverVersion
  | 4 => some GpuInfo
  | 5 => some IdSku
  | 6 => some VbiosVersion
  | 7 => some ManufacturerId
  | 8 => some TamperDetection
  | 9 => some Smc
  | 10 => some Vpr
  | 11 => some Nvdec0Status
  | 12 => some MsrsCnt
  | 13 => some CprInfo
  | 14 => some BoardId
  | 15 => some ChipSku
  | 16 => some ChipSkuMod
  | 17 => some Project
  | 18 => some ProjectSku
  | 19 => some ProjectSkuMod
  | 20 => some Fwid
  | 21 => some ProtectedPcieStatus
  | 22 => some SwitchPdi
  | 23 => some FloorsweptPorts
  | 24 => some PositionId
  | 25 => some LockSwitchStatus
  | 32 => some GpuLinkConn
  | _ => none

/-- How a type is printed. -/
def name : OpaqueDataType → String
  | CertIssuerName => "cert_issuer_name"
  | CertAuthorityKeyIdentifier => "cert_authority_key_identifier"
  | DriverVersion => "driver_version"
  | GpuInfo => "gpu_info"
  | IdSku => "id_sku"
  | VbiosVersion => "vbios_version"
  | ManufacturerId => "manufacturer_id"
  | TamperDetection => "tamper_detection"
  | Smc => "smc"
  | Vpr => "vpr"
  | Nvdec0Status => "nvdec0_status"
  | MsrsCnt => "measurement_count"
  | CprInfo => "cpr_info"
  | BoardId => "board_id"
  | ChipSku => "chip_sku"
  | ChipSkuMod => "chip_sku_mod"
  | Project => "project"
  | ProjectSku => "project_sku"
  | ProjectSkuMod => "project_sku_mod"
  | Fwid => "fwid"
  | ProtectedPcieStatus => "protected_pcie_status"
  | SwitchPdi => "switch_pdi"
  | FloorsweptPorts => "floorswept_ports"
  | PositionId => "position_id"
  | LockSwitchStatus => "lock_switch_status"
  | GpuLinkConn => "gpu_link_conn"
  | Invalid => "invalid"

end OpaqueDataType

namespace OpaqueData

/-- `chunks(n)`. -/
def chunks (n : ℕ) (bytes : Bytes) : List Bytes :=
  (List.range ((bytes.length + n - 1) / n)).map fun i => (bytes.drop (n * i)).take n

/-- `format_vbios_version`. -/
def formatVbiosVersion (bytes : Bytes) : Option String := do
  let half ← getRange bytes 0 (bytes.length / 2)
  let version := String.intercalate "." (half.reverse.map fun byte => hexEncode [byte])
  let byte ← bytes[bytes.length / 2]?
  return version ++ "." ++ hexEncode [byte]

/-- `decode_switch_pdi`. -/
def decodeSwitchPdi (bytes : Bytes) : Outcome Json := do
  Outcome.ensure (bytes.length % 8 = 0) "OpaqueDataType is not multiple of 8"
  return .array ((chunks 8 bytes).map fun chunk => .string (hexEncode chunk))

/-- `index += 1`, of a byte. -/
def nextIndex (overflowChecks : Bool) (index : UInt8) : Outcome UInt8 :=
  if overflowChecks ∧ index = 255 then .panic "attempt to add with overflow" else .ok (index + 1)

/-- The loop of `decode_measurement_count`. -/
def insertCounts (overflowChecks : Bool) : UInt8 → Json.Map → List Bytes → Outcome Json.Map
  | _, values, [] => .ok values
  | index, values, chunk :: rest => do
    let values := values.insert (toString index.toNat) (.number (.int (leValue chunk)))
    let index ← nextIndex overflowChecks index
    insertCounts overflowChecks index values rest

/-- `decode_measurement_count`. -/
def decodeMeasurementCount (overflowChecks : Bool) (bytes : Bytes) : Outcome Json := do
  Outcome.ensure (bytes.length % 4 = 0) "OpaqueDataType is not multiple of 4"
  let values ← insertCounts overflowChecks 1 [] (chunks 4 bytes)
  return .object values

/-- `trim_end_matches('\0')`. -/
def trimEndNul (s : String) : String :=
  String.ofList (s.toList.reverse.dropWhile (· = Char.ofNat 0)).reverse

/-- The value of an item. -/
def itemData (overflowChecks : Bool) (type : OpaqueDataType) (bytes : Bytes) : Outcome Json :=
  match type with
  | .DriverVersion | .ChipSku | .ChipSkuMod | .Nvdec0Status | .Project | .ProjectSku
  | .ProtectedPcieStatus => .ok (.string (trimEndNul (fromUtf8Lossy bytes)))
  | .VbiosVersion => do
    let version ← Outcome.okOr (formatVbiosVersion bytes) "Invalid gpu vbios version"
    return .string version
  | .MsrsCnt => decodeMeasurementCount overflowChecks bytes
  | .SwitchPdi => decodeSwitchPdi bytes
  | .Invalid => .bail "Hashmap: Invalid OpaqueDataType"
  | _ => .ok (.string (hexEncode bytes))

/-- `{:#x}`. -/
def lowerHex (n : ℕ) : String := "0x" ++ String.ofList (Nat.toDigits 16 n)

/-- The loop of `OpaqueData::decode`. It ends where four bytes or fewer are left. Each item takes
four bytes at least, so that the length of the bytes is fuel enough. -/
def decodeItems (overflowChecks : Bool) (bytes : Bytes) :
    ℕ → ℕ → Json.Map → Outcome Json.Map
  | 0, _, opaqueData => .ok opaqueData
  | fuel + 1, offset, opaqueData =>
    if offset + 4 < bytes.length then do
      let array ← slice bytes offset (offset + 2)
      let dataType := leValue array
      let type ← Outcome.okOr (OpaqueDataType.fromU16 dataType)
        ("Invalid OpaqueDataType " ++ toString dataType)
      let offset := offset + 2
      let array ← slice bytes offset (offset + 2)
      let size := leValue array
      let offset := offset + 2
      let dataBytes ← Outcome.okOr (getRange bytes offset (offset + size))
        ("OpaqueData overflow: offset " ++ lowerHex offset ++ ", data_size " ++ lowerHex size)
      let offset := offset + size
      let data ← itemData overflowChecks type dataBytes
      Outcome.ensure (opaqueData.get type.name = none)
        ("Duplicated OpaqueDataType: " ++ type.name)
      decodeItems overflowChecks bytes fuel offset (opaqueData.insert type.name data)
    else .ok opaqueData

/-- `OpaqueData::decode`. -/
def decode (overflowChecks : Bool) (bytes : Bytes) : Outcome Json.Map :=
  if bytes.length = 0 then .ok [] else do
    let opaqueData ← decodeItems overflowChecks bytes bytes.length 0 []
    Outcome.ensure ((opaqueData.get OpaqueDataType.VbiosVersion.name).isSome &&
        (opaqueData.get OpaqueDataType.DriverVersion.name).isSome)
      "Both vbios_version and driver_version must be present in the report"
    return opaqueData

end OpaqueData

/-! ## Responses -/

/-- `SpdmGetMeasurementsResponse`. -/
structure SpdmGetMeasurementsResponse where
  spdmVersion : UInt8
  requestResponseCode : UInt8
  param1 : UInt8
  param2 : UInt8
  numberOfBlocks : ℕ
  measurementRecordLength : ℕ
  measurementRecord : List MeasurementBlock
  nonce : Bytes
  opaqueDataLength : ℕ
  opaqueData : Json.Map
  signature : Bytes

namespace SpdmGetMeasurementsResponse

/-- The measurement record, where there is one. -/
def decodeRecord (bytes : Bytes) (numberOfBlocks offset length : ℕ) :
    Outcome (List MeasurementBlock) :=
  if 0 < length then do
    let measurementsBytes ← Outcome.okOr (getRange bytes offset (offset + length))
      "MeasurementRecord overflow"
    MeasurementRecord.decode numberOfBlocks measurementsBytes
  else .ok []

/-- The opaque data, where there are any. -/
def decodeOpaque (overflowChecks : Bool) (bytes : Bytes) (offset length : ℕ) : Outcome Json.Map :=
  if 0 < length then do
    let opaqueDataBytes ← Outcome.okOr (getRange bytes offset (offset + length))
      "OpaqueData overflow"
    OpaqueData.decode overflowChecks opaqueDataBytes
  else .ok []

/-- `SpdmGetMeasurementsResponse::decode`, of a message and the length of its signature. -/
def decode (overflowChecks : Bool) (bytes : Bytes) (signatureLength : ℕ) :
    Outcome (SpdmGetMeasurementsResponse × ℕ) := do
  Outcome.ensure (8 ≤ bytes.length) "SpdmGetMeasurementsResponse message smaller 8 bytes"
  let spdmVersion ← byteAt bytes 0
  Outcome.ensure (spdmVersion = SPDM_VERSION_SUPPORTED)
    ("SPDM version " ++ OpaqueData.lowerHex spdmVersion.toNat ++ " not supported")
  let requestResponseCode ← byteAt bytes 1
  let param1 ← byteAt bytes 2
  let param2 ← byteAt bytes 3
  let numberOfBlocks ← byteAt bytes 4
  let array ← slice bytes 5 8
  let measurementRecordLength := leValue array
  let measurementRecord ← decodeRecord bytes numberOfBlocks.toNat 8 measurementRecordLength
  let offset := 8 + measurementRecordLength
  let nonce ← Outcome.okOr (getRange bytes offset (offset + 32)) "Nonce overflow"
  let offset := offset + 32
  let array ← Outcome.okOr (getRange bytes offset (offset + 2)) "OpaqueDataLength overlow"
  let opaqueDataLength := leValue array
  let offset := offset + 2
  let opaqueData ← decodeOpaque overflowChecks bytes offset opaqueDataLength
  let offset := offset + opaqueDataLength
  let stop ← addUsize overflowChecks offset signatureLength
  let signature ← Outcome.okOr (getRange bytes offset stop) "Signature overflow"
  return ({
    spdmVersion := spdmVersion
    requestResponseCode := requestResponseCode
    param1 := param1
    param2 := param2
    numberOfBlocks := numberOfBlocks.toNat
    measurementRecordLength := measurementRecordLength
    measurementRecord := measurementRecord
    nonce := nonce
    opaqueDataLength := opaqueDataLength
    opaqueData := opaqueData
    signature := signature }, stop)

end SpdmGetMeasurementsResponse

end Trustmee.Nvidia
