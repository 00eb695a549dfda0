import Trustmee.Eventlog.Log
import Trustmee.Foundations.Slices
import Trustmee.Foundations.Utf16

/-!
# The texts of device-path nodes

`print_path` writes a node of a UEFI device path as a text: by the parser of its type and subtype,
or as its bytes where there is none, or where the parser refuses the data. Every slice of the
parsers is one that can pass the end; only the parser of hard drives lets it, which checks that 37
bytes are there and takes one more (`returns_printPath_iff`).
-/

namespace Trustmee.Eventlog

/-! ## Numbers in texts -/

/-- How `{:0width$x}` prints a number. -/
def hexPad (width n : ℕ) : String := String.ofList ((Nat.toDigits 16 n).leftpad width '0')

/-- `to_uppercase` of hexadecimal digits. -/
def toUppercase (s : String) : String := String.ofList (s.toList.map Char.toUpper)

/-- How `{:0width$X}` prints a number. -/
def upperHexPad (width n : ℕ) : String := toUppercase (hexPad width n)

/-- How `{}` prints `Ipv4Addr::from_bits`. -/
def formatIpv4 (bits : ℕ) : String :=
  toString (bits / 0x1000000) ++ "." ++ toString (bits / 0x10000 % 256) ++ "." ++
    toString (bits / 0x100 % 256) ++ "." ++ toString (bits % 256)

/-- `format_uefi_guid`. -/
def formatUefiGuid (input : Bytes) : Outcome String := do
  let data1 ← slice input 0 4
  let data2 ← slice input 4 6
  let data3 ← slice input 6 8
  let data4 ← slice input 8 16
  let octets := data4.map fun b => upperHexPad 2 b.toNat
  return upperHexPad 8 (leValue data1) ++ "-" ++ upperHexPad 4 (leValue data2) ++ "-" ++
    upperHexPad 4 (leValue data3) ++ "-" ++ String.join (octets.take 2) ++ "-" ++
    String.join (octets.drop 2)

/-- A read of `scroll`, with its failure behind the message. -/
def greadDebug (data : Bytes) (index n : ℕ) (msg : String) : Outcome (ℕ × ℕ) :=
  gread data index n (msg ++ ": TooBig \x7b size: " ++ toString n ++ ", len: " ++
    toString (data.length - index) ++ " \x7d")

/-! ## The parsers of subtypes -/

/-- `PciParser::parse`. -/
def PciParser.parse (data : Bytes) : Outcome String := do
  Outcome.ensure (2 ≤ data.length) "PCI data is too short"
  let funcNum ← byteAt data 0
  let deviceNum ← byteAt data 1
  return "Pci(" ++ toString funcNum.toNat ++ "," ++ toString deviceNum.toNat ++ ")"

/-- `AcpiSubTypeParser::parse`. -/
def AcpiSubTypeParser.parse (data : Bytes) : Outcome String := do
  Outcome.ensure (8 ≤ data.length) "ACPI sub type data length must be at least 8 bytes"
  let (hid, index) ← greadDebug data 0 4 "Failed to read hid"
  let (uid, _) ← greadDebug data index 4 "Failed to read uid"
  let vendor := hid % 0x10000
  let letter := fun n => Char.ofNat (n % 0x20 + '@'.toNat)
  let vendorId := String.ofList [letter (vendor / 0x400), letter (vendor / 0x20), letter vendor]
  return "ACPI(" ++ vendorId ++ upperHexPad 4 (hid / 0x10000) ++ "," ++ toString uid ++ ")"

/-- `FibreChannelExParser::parse`. -/
def FibreChannelExParser.parse (data : Bytes) : Outcome String := do
  Outcome.ensure (16 ≤ data.length) "Fibre channel data is too short"
  let wwn ← slice data 0 8
  let lun ← slice data 8 16
  return "FibreEx(0x" ++ hexEncode wwn ++ ",0x" ++ hexEncode lun ++ ")"

/-- `UsbParser::parse`. -/
def UsbParser.parse (data : Bytes) : Outcome String := do
  Outcome.ensure (2 ≤ data.length) "USB data is too short"
  let parentHubPortNum ← byteAt data 0
  let controllerIntNumber ← byteAt data 1
  return "USB(" ++ toString parentHubPortNum.toNat ++ "," ++
    toString controllerIntNumber.toNat ++ ")"

/-- `MacParser::parse`. The address ends at its last digit that is no zero. -/
def MacParser.parse (data : Bytes) : Outcome String := do
  Outcome.ensure (data.length = 33) "MAC data is too short"
  let macAddressPadded ← slice data 0 31
  let ifType ← byteAt data 32
  let macAddress := toUppercase (trimEndMatches (hexEncode macAddressPadded) '0')
  return "Mac(" ++ macAddress ++ ",0x" ++ hexPad 2 ifType.toNat ++ ")"

/-- `Ipv4Parser::parse`. -/
def Ipv4Parser.parse (data : Bytes) : Outcome String := do
  let (localIp, index) ← greadDebug data 0 4 "Failed to read IPv4 local address"
  let (remoteIp, index) ← greadDebug data index 4 "Failed to read IPv4 remote address"
  let (_, index) ← greadDebug data index 2 "Failed to read IPv4 local port"
  let (_, index) ← greadDebug data index 2 "Failed to read IPv4 remote port"
  let (protocol, index) ← greadDebug data index 2 "Failed to read IPv4 protocol"
  let (ipAddrType, index) ← greadDebug data index 1 "Failed to read IPv4 address type"
  let (gatewayIpAddress, index) ← greadDebug data index 4 "Failed to read IPv4 gateway"
  let (subnetMask, _) ← greadDebug data index 4 "Failed to read IPv4 subnet"
  let protocol := if protocol = 6 then "TCP" else if protocol = 17 then "UDP" else ""
  let ipAddrType := if ipAddrType = 0 then "DHCP" else if ipAddrType = 1 then "Static" else ""
  let gatewaySubnet :=
    if gatewayIpAddress ≠ 0 ∨ subnetMask ≠ 0 then
      "," ++ toString gatewayIpAddress ++ "," ++ toString subnetMask
    else ""
  return "IPv4(" ++ formatIpv4 remoteIp ++ "," ++ protocol ++ "," ++ ipAddrType ++ "," ++
    formatIpv4 localIp ++ gatewaySubnet ++ ")"

/-- `HardDriveParser::parse`. One byte more is taken than is checked. -/
def HardDriveParser.parse (data : Bytes) : Outcome String := do
  Outcome.ensure (37 ≤ data.length) "Hard drive data is too short"
  let partitionNumber ← slice data 0 4
  let partitionStartLba ← slice data 4 12
  let partitionSizeLba ← slice data 12 20
  let partitionSignature ← slice data 20 36
  let partitionFormat ← byteAt data 36
  let _ ← byteAt data 37
  let partitionDetails :=
    if leValue partitionNumber ≠ 0 then
      ",0x" ++ lowerHex (leValue partitionStartLba) ++ ",0x" ++ lowerHex (leValue partitionSizeLba)
    else ""
  if partitionFormat = 1 then
    let sig ← slice partitionSignature 0 4
    return "HD(" ++ toString (leValue partitionNumber) ++ ",MBR,0x" ++ hexPad 8 (leValue sig) ++
      partitionDetails ++ ")"
  else if partitionFormat = 2 then
    let sig ← formatUefiGuid partitionSignature
    return "HD(" ++ toString (leValue partitionNumber) ++ ",GPT," ++ sig ++ partitionDetails ++ ")"
  else Outcome.bail ("Unknown partition format " ++ toString partitionFormat.toNat)

/-- `MediaVendorParser::parse`. -/
def MediaVendorParser.parse (data : Bytes) : Outcome String := do
  Outcome.ensure (16 ≤ data.length) "Vendor media data is too short"
  let guid ← slice data 0 16
  let vendorData ← slice data 16 data.length
  let guid ← formatUefiGuid guid
  return "VenMedia(" ++ guid ++ "," ++ hexEncode vendorData ++ ")"

/-- `FilePathParser::parse`. The last word ends the text. -/
def FilePathParser.parse (data : Bytes) : Outcome String := do
  Outcome.ensure (data ≠ [] ∧ data.length % 2 = 0) "File path is too short"
  let path ← slice data 0 (data.length - 2)
  return "File(" ++ fromUtf16Lossy (utf16Words path) ++ ")"

/-- The names of the types of devices. -/
def bbsDeviceTypes : List (ℕ × String) :=
  [(0x01, "FLOPPY"), (0x02, "HARD_DRIVE"), (0x03, "CDROM"), (0x04, "PCMCIA"), (0x05, "USB"),
   (0x06, "EMBEDDED_NETWORK"), (0x80, "DEV"), (0xFF, "UNKNOWN")]

/-- `BbsParser::parse`. -/
def BbsParser.parse (data : Bytes) : Outcome String := do
  let (deviceType, index) ← greadDebug data 0 2 "Failed to read device type"
  let (statusFlag, index) ← greadDebug data index 2 "Failed to read status flag"
  let descBytes ← slice data index data.length
  let description ← Outcome.okOr (fromUtf8 (descBytes.takeWhile (· ≠ 0)))
    "Failed to parse description: invalid utf-8 sequence"
  return "BBS(" ++ (bbsDeviceTypes.lookup deviceType).getD (toString deviceType) ++ "," ++
    description ++ "," ++ toString statusFlag ++ ")"

/-! ## The parsers of types -/

/-- `from_u8` of the subtypes of a type, and the parser that it gives. -/
def parseSubType (kind : String) (parsers : List (ℕ × (Bytes → Outcome String))) (subType : UInt8)
    (data : Bytes) : Outcome String :=
  match parsers.lookup subType.toNat with
  | some parse => parse data
  | none => .bail ("Unknown " ++ kind ++ " subtype: 0x" ++ hexPad 2 subType.toNat)

/-- `HardwareParser::parse`. -/
def HardwareParser.parse : UInt8 → Bytes → Outcome String :=
  parseSubType "Hardware" [(0x01, PciParser.parse)]

/-- `AcpiParser::parse`. -/
def AcpiParser.parse : UInt8 → Bytes → Outcome String :=
  parseSubType "ACPI" [(0x01, AcpiSubTypeParser.parse)]

/-- `MessagingParser::parse`. -/
def MessagingParser.parse : UInt8 → Bytes → Outcome String :=
  parseSubType "Messaging" [(0x15, FibreChannelExParser.parse), (0x05, UsbParser.parse),
    (0x0B, MacParser.parse), (0x0C, Ipv4Parser.parse)]

/-- `MediaParser::parse`. -/
def MediaParser.parse : UInt8 → Bytes → Outcome String :=
  parseSubType "Media" [(0x01, HardDriveParser.parse), (0x03, MediaVendorParser.parse),
    (0x04, FilePathParser.parse)]

/-- `BiosBootSpecParser::parse`. -/
def BiosBootSpecParser.parse : UInt8 → Bytes → Outcome String :=
  parseSubType "Bios Boot Specification" [(0x01, BbsParser.parse)]

/-- `DevicePath::from_u8`, and `DevicePath::parse` of what it gives. -/
def DevicePath.parse (efiType efiSubType : UInt8) (data : Bytes) : Outcome String :=
  match efiType.toNat with
  | 0x01 => HardwareParser.parse efiSubType data
  | 0x02 => AcpiParser.parse efiSubType data
  | 0x03 => MessagingParser.parse efiSubType data
  | 0x04 => MediaParser.parse efiSubType data
  | 0x05 => BiosBootSpecParser.parse efiSubType data
  | _ => .bail ("Unknown Device Path Type: 0x" ++ hexPad 2 efiType.toNat)

/-- `print_path`. -/
def printPath (efiType efiSubType : UInt8) (vendorData : Bytes) : Outcome String :=
  (DevicePath.parse efiType efiSubType vendorData).unwrapOr ("Path(" ++ toString efiType.toNat ++
    "," ++ toString efiSubType.toNat ++ "," ++ hexEncode vendorData ++ ")")

/-! ## Slices that stay inside -/

/-- What is read after a read starts inside. -/
theorem returns_greadDebug_bind {α : Type} {data : Bytes} {index n : ℕ} {msg : String}
    {f : ℕ × ℕ → Outcome α} (hn : 0 < n)
    (hf : ∀ v, index + n ≤ data.length → (f (v, index + n)).Returns) :
    (greadDebug data index n msg >>= f).Returns := by
  apply (returns_gread _ _ _ _).bind
  rintro ⟨v, index'⟩ h
  obtain ⟨hread, rfl⟩ := gread_eq_ok.1 h
  exact hf v (length_of_readLe hn hread)

theorem returns_formatUefiGuid {input : Bytes} (h : 16 ≤ input.length) :
    (formatUefiGuid input).Returns := by
  refine returns_slice_bind (by omega) (by omega) fun data1 _ => ?_
  refine returns_slice_bind (by omega) (by omega) fun data2 _ => ?_
  refine returns_slice_bind (by omega) (by omega) fun data3 _ => ?_
  refine returns_slice_bind (by omega) (by omega) fun data4 _ => ?_
  exact Outcome.returns_ok _

theorem PciParser.returns_parse (data : Bytes) : (PciParser.parse data).Returns := by
  refine returns_ensure_bind fun h => ?_
  refine returns_byteAt_bind (by omega) fun funcNum => ?_
  refine returns_byteAt_bind (by omega) fun deviceNum => ?_
  exact Outcome.returns_ok _

theorem AcpiSubTypeParser.returns_parse (data : Bytes) :
    (AcpiSubTypeParser.parse data).Returns := by
  refine returns_ensure_bind fun _ => ?_
  refine returns_greadDebug_bind (by decide) fun hid _ => ?_
  refine returns_greadDebug_bind (by decide) fun uid _ => ?_
  exact Outcome.returns_ok _

theorem FibreChannelExParser.returns_parse (data : Bytes) :
    (FibreChannelExParser.parse data).Returns := by
  refine returns_ensure_bind fun h => ?_
  refine returns_slice_bind (by omega) (by omega) fun wwn _ => ?_
  refine returns_slice_bind (by omega) (by omega) fun lun _ => ?_
  exact Outcome.returns_ok _

theorem UsbParser.returns_parse (data : Bytes) : (UsbParser.parse data).Returns := by
  refine returns_ensure_bind fun h => ?_
  refine returns_byteAt_bind (by omega) fun parentHubPortNum => ?_
  refine returns_byteAt_bind (by omega) fun controllerIntNumber => ?_
  exact Outcome.returns_ok _

theorem MacParser.returns_parse (data : Bytes) : (MacParser.parse data).Returns := by
  refine returns_ensure_bind fun h => ?_
  refine returns_slice_bind (by omega) (by omega) fun macAddressPadded _ => ?_
  refine returns_byteAt_bind (by omega) fun ifType => ?_
  exact Outcome.returns_ok _

theorem Ipv4Parser.returns_parse (data : Bytes) : (Ipv4Parser.parse data).Returns := by
  refine returns_greadDebug_bind (by decide) fun localIp _ => ?_
  refine returns_greadDebug_bind (by decide) fun remoteIp _ => ?_
  refine returns_greadDebug_bind (by decide) fun localPort _ => ?_
  refine returns_greadDebug_bind (by decide) fun remotePort _ => ?_
  refine returns_greadDebug_bind (by decide) fun protocol _ => ?_
  refine returns_greadDebug_bind (by decide) fun ipAddrType _ => ?_
  refine returns_greadDebug_bind (by decide) fun gatewayIpAddress _ => ?_
  refine returns_greadDebug_bind (by decide) fun subnetMask _ => ?_
  exact Outcome.returns_ok _

theorem MediaVendorParser.returns_parse (data : Bytes) :
    (MediaVendorParser.parse data).Returns := by
  refine returns_ensure_bind fun h => ?_
  refine returns_slice_bind (by omega) (by omega) fun guid hguid => ?_
  refine returns_slice_bind (by omega) (by omega) fun vendorData _ => ?_
  refine (returns_formatUefiGuid (by omega)).bind fun guid _ => ?_
  exact Outcome.returns_ok _

theorem FilePathParser.returns_parse (data : Bytes) : (FilePathParser.parse data).Returns := by
  refine returns_ensure_bind fun h => ?_
  refine returns_slice_bind (by omega) (by omega) fun path _ => ?_
  exact Outcome.returns_ok _

theorem BbsParser.returns_parse (data : Bytes) : (BbsParser.parse data).Returns := by
  refine returns_greadDebug_bind (by decide) fun deviceType _ => ?_
  refine returns_greadDebug_bind (by decide) fun statusFlag h => ?_
  refine returns_slice_bind h (by omega) fun descBytes _ => ?_
  refine (Outcome.returns_okOr _ _).bind fun description _ => ?_
  exact Outcome.returns_ok _

/-- The parser of hard drives takes one byte more than it checks. -/
theorem HardDriveParser.returns_parse_iff (data : Bytes) :
    (HardDriveParser.parse data).Returns ↔ data.length ≠ 37 := by
  constructor
  · intro h hlength
    have h := (Outcome.returns_bind_iff.1 h).2 () (ensure_of (by omega))
    have h := (Outcome.returns_bind_iff.1 h).2 _ (slice_of_le (by omega) (by omega))
    have h := (Outcome.returns_bind_iff.1 h).2 _ (slice_of_le (by omega) (by omega))
    have h := (Outcome.returns_bind_iff.1 h).2 _ (slice_of_le (by omega) (by omega))
    have h := (Outcome.returns_bind_iff.1 h).2 _ (slice_of_le (by omega) (by omega))
    have h := (Outcome.returns_bind_iff.1 h).2 _ (byteAt_of_lt (by omega))
    have hlast := returns_byteAt_iff.1 (Outcome.returns_bind_iff.1 h).1
    omega
  · intro hlength
    refine returns_ensure_bind fun h => ?_
    refine returns_slice_bind (by omega) (by omega) fun partitionNumber _ => ?_
    refine returns_slice_bind (by omega) (by omega) fun partitionStartLba _ => ?_
    refine returns_slice_bind (by omega) (by omega) fun partitionSizeLba _ => ?_
    refine returns_slice_bind (by omega) (by omega) fun partitionSignature hsignature => ?_
    refine returns_byteAt_bind (by omega) fun partitionFormat => ?_
    refine returns_byteAt_bind (by omega) fun _ => ?_
    dsimp only
    split
    · refine returns_slice_bind (by omega) (by omega) fun sig _ => ?_
      exact Outcome.returns_ok _
    · split
      · refine (returns_formatUefiGuid (by omega)).bind fun sig _ => ?_
        exact Outcome.returns_ok _
      · exact Outcome.returns_bail _

theorem returns_parseSubType {kind : String} {parsers : List (ℕ × (Bytes → Outcome String))}
    {subType : UInt8} {data : Bytes}
    (h : ∀ p ∈ parsers, p.1 = subType.toNat → (p.2 data).Returns) :
    (parseSubType kind parsers subType data).Returns := by
  unfold parseSubType
  split
  · next parse hparse =>
    obtain ⟨l, l', rfl, -⟩ := List.lookup_eq_some_iff.1 hparse
    exact h (subType.toNat, parse) (by simp) rfl
  · exact Outcome.returns_bail _

theorem HardwareParser.returns_parse (subType : UInt8) (data : Bytes) :
    (HardwareParser.parse subType data).Returns := by
  apply returns_parseSubType
  simp [PciParser.returns_parse]

theorem AcpiParser.returns_parse (subType : UInt8) (data : Bytes) :
    (AcpiParser.parse subType data).Returns := by
  apply returns_parseSubType
  simp [AcpiSubTypeParser.returns_parse]

theorem MessagingParser.returns_parse (subType : UInt8) (data : Bytes) :
    (MessagingParser.parse subType data).Returns := by
  apply returns_parseSubType
  simp [FibreChannelExParser.returns_parse, UsbParser.returns_parse, MacParser.returns_parse,
    Ipv4Parser.returns_parse]

theorem BiosBootSpecParser.returns_parse (subType : UInt8) (data : Bytes) :
    (BiosBootSpecParser.parse subType data).Returns := by
  apply returns_parseSubType
  simp [BbsParser.returns_parse]

theorem MediaParser.returns_parse_iff (subType : UInt8) (data : Bytes) :
    (MediaParser.parse subType data).Returns ↔ ¬ (subType = 1 ∧ data.length = 37) := by
  constructor
  · rintro h ⟨rfl, hlength⟩
    exact (HardDriveParser.returns_parse_iff data).1 h hlength
  · intro hlength
    apply returns_parseSubType
    intro p hp hsubType
    have hcases : p = (0x01, HardDriveParser.parse) ∨ p = (0x03, MediaVendorParser.parse) ∨
        p = (0x04, FilePathParser.parse) := by simpa using hp
    rcases hcases with rfl | rfl | rfl
    · have hone : subType = 1 := UInt8.toNat_inj.1 hsubType.symm
      rw [HardDriveParser.returns_parse_iff]
      exact fun h => hlength ⟨hone, h⟩
    · exact MediaVendorParser.returns_parse data
    · exact FilePathParser.returns_parse data

/-- A node whose text panics: a hard drive with 37 bytes. -/
def PrintFault (efiType efiSubType : UInt8) (vendorData : Bytes) : Prop :=
  efiType = 4 ∧ efiSubType = 1 ∧ vendorData.length = 37

theorem DevicePath.returns_parse_iff (efiType efiSubType : UInt8) (data : Bytes) :
    (DevicePath.parse efiType efiSubType data).Returns ↔ ¬ PrintFault efiType efiSubType data := by
  have hmedia : efiType.toNat = 4 ↔ efiType = 4 := UInt8.toNat_inj (b := 4)
  unfold DevicePath.parse PrintFault
  split
  · next h => exact iff_of_true (HardwareParser.returns_parse _ _) (by simp [← hmedia, h])
  · next h => exact iff_of_true (AcpiParser.returns_parse _ _) (by simp [← hmedia, h])
  · next h => exact iff_of_true (MessagingParser.returns_parse _ _) (by simp [← hmedia, h])
  · next h => rw [MediaParser.returns_parse_iff, hmedia.1 h, and_iff_right rfl]
  · next h => exact iff_of_true (BiosBootSpecParser.returns_parse _ _) (by simp [← hmedia, h])
  · next hnone _ => exact iff_of_true (Outcome.returns_bail _) fun h => hnone (hmedia.2 h.1)

/-- **The text of a node panics exactly on a hard drive with 37 bytes.** -/
theorem returns_printPath_iff (efiType efiSubType : UInt8) (vendorData : Bytes) :
    (printPath efiType efiSubType vendorData).Returns ↔
      ¬ PrintFault efiType efiSubType vendorData := by
  rw [printPath, Outcome.returns_unwrapOr_iff, DevicePath.returns_parse_iff]

theorem exists_printPath_eq_ok {efiType efiSubType : UInt8} {vendorData : Bytes}
    (h : ¬ PrintFault efiType efiSubType vendorData) :
    ∃ path, printPath efiType efiSubType vendorData = .ok path :=
  Outcome.exists_unwrapOr_eq_ok ((DevicePath.returns_parse_iff _ _ _).2 h) _

theorem exists_printPath_eq_panic {efiType efiSubType : UInt8} {vendorData : Bytes}
    (h : PrintFault efiType efiSubType vendorData) :
    ∃ m, printPath efiType efiSubType vendorData = .panic m := by
  by_contra hnone
  exact (returns_printPath_iff _ _ _).1 (fun m hm => hnone ⟨m, hm⟩) h

end Trustmee.Eventlog
