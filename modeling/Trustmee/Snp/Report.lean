import Trustmee.Foundations.Encoding
import Trustmee.Foundations.Json
import Trustmee.Foundations.Outcome

/-!
# SNP attestation reports and their certificates

The data of an SNP verification: the report, the certificate table that may come with it, and the
AMD certificates of each generation of processors. What the crates `sev`, `openssl`, `x509-parser`
and `asn1-rs` do, and the AMD key server, are the parameters of the verification (`Env`).
-/

namespace Trustmee.Snp

/-- `[u8; n]`. -/
abbrev ByteArray (n : ℕ) := Vector UInt8 n

theorem size_toArray {b : Bytes} {n : ℕ} (h : b.length = n) : b.toArray.size = n :=
  b.size_toArray.trans h

/-- `TcbVersion`. The FMC is a field of Turin processors. -/
structure TcbVersion where
  fmc : Option UInt8
  bootloader : UInt8
  tee : UInt8
  snp : UInt8
  microcode : UInt8

/-- `GuestPolicy`, a bit field. -/
structure GuestPolicy where
  bits : UInt64

namespace GuestPolicy

variable (p : GuestPolicy)

def abiMinor : ℕ := p.bits.toNat % 256
def abiMajor : ℕ := p.bits.toNat / 256 % 256
def smtAllowed : Bool := p.bits.toNat.testBit 16
def migrateMaAllowed : Bool := p.bits.toNat.testBit 18
def debugAllowed : Bool := p.bits.toNat.testBit 19
def singleSocketRequired : Bool := p.bits.toNat.testBit 20

end GuestPolicy

/-- `PlatformInfo`, a bit field. -/
structure PlatformInfo where
  bits : UInt64

def PlatformInfo.smtEnabled (p : PlatformInfo) : Bool := p.bits.toNat.testBit 0

def PlatformInfo.tsmeEnabled (p : PlatformInfo) : Bool := p.bits.toNat.testBit 1

/-- `AttestationReport`. -/
structure AttestationReport where
  version : UInt32
  policy : GuestPolicy
  vmpl : UInt32
  platInfo : PlatformInfo
  reportData : ByteArray 64
  measurement : ByteArray 48
  hostData : ByteArray 32
  reportedTcb : TcbVersion
  cpuidFamId : Option UInt8
  cpuidModId : Option UInt8
  chipId : ByteArray 64
  /-- The fields that only the signature covers, and the signature. -/
  other : Bytes

/-- `CertType`. -/
inductive CertType
  | Empty
  | ARK
  | ASK
  | VCEK
  | VLEK
  | CRL
  | OTHER (guid : String)
  deriving DecidableEq

/-- `CertTableEntry`. -/
structure CertTableEntry where
  certType : CertType
  data : Bytes

inductive ProcessorGeneration
  | Milan
  | Genoa
  | Turin
  deriving DecidableEq

def ProcessorGeneration.name : ProcessorGeneration → String
  | Milan => "Milan"
  | Genoa => "Genoa"
  | Turin => "Turin"

inductive VendorEndorsementKey
  | Vcek
  | Vlek
  deriving DecidableEq

/-- `VendorCertificates`. -/
structure VendorCertificates (Certificate : Type) where
  ask : Certificate
  ark : Certificate
  asvk : Certificate

/-- An answer of the key server. -/
structure Response where
  status : ℕ
  body : Except String Bytes

/-- An object identifier, as its text. -/
abbrev Oid := String

/-- What the verifiers take from other crates, and the key server. -/
structure Env where
  Certificate : Type
  /-- `Certificate::from_bytes`. -/
  fromBytes : Bytes → Except String Certificate
  /-- `(&signer, &signee).verify()`. -/
  verify : Certificate → Certificate → Except String Unit
  /-- `(&vek, &report).verify()`. -/
  verifyReport : Certificate → AttestationReport → Except String Unit
  /-- `Certificate::to_der`. -/
  toDer : Certificate → Except String Bytes
  TbsCertificate : Type
  /-- `X509Certificate::from_der`. -/
  parseX509 : Bytes → Except String TbsCertificate
  /-- `get_extension_unique`: the value of the extension. -/
  getExtensionUnique : TbsCertificate → Oid → Except String (Option Bytes)
  /-- `OctetString::from_der`. -/
  octetString : Bytes → Except String Bytes
  /-- `Integer::from_der`. -/
  integer : Bytes → Except String ℤ
  /-- The common names of a certificate's subject, as UTF-8. -/
  commonNames : Certificate → List (Except String String)
  /-- The certificates that come with the verifier. -/
  vendorCerts : ProcessorGeneration → VendorCertificates Certificate
  /-- A request to the key server. -/
  kds : String → Except String Response
  /-- The `Deserialize` of `AttestationReport`. -/
  reportFromValue : Json → Except String AttestationReport
  /-- The `Deserialize` of `Vec<CertTableEntry>`. -/
  certTableFromValue : Json → Except String (List CertTableEntry)
  /-- `AttestationReport::from_bytes`. -/
  reportFromBytes : Bytes → Except String AttestationReport

variable {V : Env}

/-- `Chain` of the `sev` crate. -/
structure Chain (V : Env) where
  ark : V.Certificate
  ask : V.Certificate
  vek : V.Certificate

/-- `Chain::verify`: the root signs itself and the intermediate, which signs the endorsement key. -/
def Chain.verify (chain : Chain V) : Outcome Unit := do
  Outcome.ofExcept (V.verify chain.ark chain.ark)
  Outcome.ofExcept (V.verify chain.ark chain.ask)
  Outcome.ofExcept (V.verify chain.ask chain.vek)

/-- `Integer::as_u8`. -/
def asU8 (n : ℤ) : Except String UInt8 :=
  if 0 ≤ n ∧ n < 256 then .ok (UInt8.ofNat n.toNat) else .error "integer too large"

/-- `{:02}`. -/
def twoDigits (n : UInt8) : String :=
  if n.toNat < 10 then "0" ++ toString n.toNat else toString n.toNat

theorem Chain.verify_eq_ok {chain : Chain V} :
    chain.verify = .ok () ↔ V.verify chain.ark chain.ark = .ok () ∧
      V.verify chain.ark chain.ask = .ok () ∧ V.verify chain.ask chain.vek = .ok () := by
  simp [Chain.verify, Outcome.check_eq_ok]

end Trustmee.Snp
