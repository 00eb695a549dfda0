import Trustmee.Nvidia.SpdmMessage

/-!
# Local reports

`NvidiaAttestationReport::try_new`: a report is an SPDM request and the response to it. The
signature of the response is checked against the first certificate of the chain, then the chain
itself up to NVIDIA's root, and the nonce of the request. OpenSSL and the X.509 parser are
parameters.
-/

namespace Trustmee.Nvidia

def SPDM_GET_MEASUREMENT_REQUEST_SIZE : ℕ := 37

/-- A certificate with its fingerprint. -/
structure NvidiaCertificate (X509 : Type) where
  cert : X509
  digest : String

/-- What is taken from the `openssl` and `x509_parser` crates. -/
structure OpenSsl where
  X509 : Type
  EcKey : Type
  EcdsaSig : Type
  /-- `X509::stack_from_pem`. -/
  stackFromPem : Bytes → Except String (List X509)
  /-- `X509::digest(MessageDigest::sha1())`. -/
  sha1Digest : X509 → Except String Bytes
  /-- `NVIDIA_ROOT_CA`. -/
  nvidiaRootCa : NvidiaCertificate X509
  /-- `EcKey::try_from` of the public key. -/
  ecKey : X509 → Except String EcKey
  /-- `EcdsaSig::from_private_components`. -/
  fromPrivateComponents : ℕ → ℕ → Except String EcdsaSig
  /-- `EcdsaSig::verify`. -/
  verify : EcdsaSig → Bytes → EcKey → Except String Bool
  sha384 : Bytes → Bytes
  /-- The value of the FwId extension, where the certificate parses and has it once. -/
  fwidExtension : X509 → Except String (Option Bytes)
  /-- `verify_cert` with one trusted certificate, of a certificate and untrusted ones. -/
  verifyCert : X509 → X509 → List X509 → Except String Bool

/-! ## Requests -/

/-- `SpdmGetMeasurementRequest`. -/
structure SpdmGetMeasurementRequest where
  spdmVersion : UInt8
  requestResponseCode : UInt8
  param1 : UInt8
  param2 : UInt8
  nonce : Bytes
  slotIdParam : UInt8

/-- `SpdmGetMeasurementRequest::decode`. -/
def SpdmGetMeasurementRequest.decode (bytes : Bytes) :
    Outcome (SpdmGetMeasurementRequest × ℕ) := do
  Outcome.ensure (SPDM_GET_MEASUREMENT_REQUEST_SIZE ≤ bytes.length)
    "SpdmGetMeasurmentRequest message is too small"
  let spdmVersion ← byteAt bytes 0
  Outcome.ensure (spdmVersion = SPDM_VERSION_SUPPORTED)
    ("SPDM version " ++ OpaqueData.lowerHex spdmVersion.toNat ++ " not supported")
  let requestResponseCode ← byteAt bytes 1
  let param1 ← byteAt bytes 2
  let param2 ← byteAt bytes 3
  let nonce ← slice bytes 4 36
  let slotIdParam ← byteAt bytes 36
  return (⟨spdmVersion, requestResponseCode, param1, param2, nonce, slotIdParam⟩,
    SPDM_GET_MEASUREMENT_REQUEST_SIZE)

/-! ## Certificate chains -/

variable (S : OpenSsl)

/-- `certificate_fingerprint`. -/
def certificateFingerprint (cert : S.X509) : Outcome String := do
  let digest ← Outcome.ofExcept (S.sha1Digest cert)
  return hexEncode digest

/-- `get_fwid_from_cert`. -/
def getFwidFromCert (overflowChecks : Bool) (cert : S.X509) : Outcome String := do
  let extension ← Outcome.ofExcept (S.fwidExtension cert)
  let value ← Outcome.okOr extension "FwId oid not found in the NVIDIA signing certificate"
  let start ← subUsize overflowChecks value.length 48
  let fwid ← Outcome.okOr (getRange value start value.length) "Unexpected fwid oid size"
  return hexEncode fwid

/-- `check_root_ca_is_trusted`. -/
def checkRootCaIsTrusted (certs : List S.X509) : Outcome Unit := do
  let rootCa ← Outcome.okOr certs.getLast?
    "Root CA certificate not found in the NVIDIA certificate chain"
  let digest ← certificateFingerprint S rootCa
  Outcome.ensure (digest = S.nvidiaRootCa.digest)
    "Root CA in the certificate chain is not trusted"

/-- `get_leaf_certificate`. -/
def getLeafCertificate (certs : List S.X509) : Outcome S.X509 :=
  Outcome.okOr certs.head? "Leaf certificate not found in the NVIDIA certificate chain"

/-- `NvidiaCertificateChain::verify`. -/
def verifyChain (overflowChecks : Bool) (certs : List S.X509) (expectedFwid : String) :
    Outcome Unit := do
  Outcome.ensure (2 ≤ certs.length)
    "Certificate chain must have at least the root CA and signing certificates"
  checkRootCaIsTrusted S certs
  let leafCert ← getLeafCertificate S certs
  let certFwid ← getFwidFromCert S overflowChecks leafCert
  Outcome.ensure (certFwid = expectedFwid)
    ("Fwid mismatch: certificate " ++ certFwid ++ ", evidence " ++ expectedFwid)
  let verified ← Outcome.ofExcept (S.verifyCert S.nvidiaRootCa.cert leafCert certs.dropLast)
  Outcome.ensure verified "Report certificate chain failed to verify"

/-! ## Reports -/

/-- `NvidiaAttestationReport`, with all it has. -/
structure SpdmReport where
  request : SpdmGetMeasurementRequest
  response : SpdmGetMeasurementsResponse

namespace SpdmReport

/-- `NvidiaAttestationReport::decode`. -/
def decode (overflowChecks : Bool) (reportBytes : Bytes) (signatureLength : ℕ) :
    Outcome (SpdmReport × ℕ) := do
  Outcome.ensure (SPDM_GET_MEASUREMENT_REQUEST_SIZE ≤ reportBytes.length)
    "Attestation report data is too small"
  let requestBytes := reportBytes.take SPDM_GET_MEASUREMENT_REQUEST_SIZE
  let responseBytes := reportBytes.drop SPDM_GET_MEASUREMENT_REQUEST_SIZE
  let request ← SpdmGetMeasurementRequest.decode requestBytes
  let response ← SpdmGetMeasurementsResponse.decode overflowChecks responseBytes signatureLength
  return (⟨request.1, response.1⟩, request.2 + response.2)

/-- `NvidiaAttestationReport::get_fwid`. -/
def getFwid (report : SpdmReport) : Outcome String := do
  let fwidValue ← Outcome.okOr (report.response.opaqueData.get OpaqueDataType.Fwid.name)
    "Nvidia report fwid not found"
  Outcome.okOr fwidValue.asStr "Nvidia report fwid value mismatch"

/-- `NvidiaAttestationReport::verify_signature`. -/
def verifySignature (signedBytes signatureBytes : Bytes) (signingCert : S.X509) :
    Outcome Unit := do
  Outcome.ensure (signatureBytes.length = 96) "Invalid raw ECDSA P-384 signature"
  let r ← slice signatureBytes 0 48
  let s ← slice signatureBytes 48 signatureBytes.length
  let ecdsaSig ← Outcome.ofExcept (S.fromPrivateComponents (leValue r.reverse) (leValue s.reverse))
  let ecKey ← Outcome.ofExcept (S.ecKey signingCert)
  let result ← (Outcome.ofExcept (S.verify ecdsaSig (S.sha384 signedBytes) ecKey)).mapErr
    fun e => ["NVIDIA report signature verification error: " ++ Error.display e ++ "."]
  Outcome.ensure result "NVIDIA report signature verification failed."

/-- `NvidiaAttestationReport::validate_nonce`. -/
def validateNonce (report : SpdmReport) (expectedNonce : Bytes) : Outcome Unit :=
  Outcome.ensure (expectedNonce = report.request.nonce) "Nvidia report nonce mismatch"

/-- `NvidiaAttestationReport::try_new`. -/
def tryNew (overflowChecks : Bool) (reportBytes : Bytes) (reportSignatureLength : ℕ)
    (certChainBytes expectedNonce : Bytes) : Outcome SpdmReport := do
  let decoded ← decode overflowChecks reportBytes reportSignatureLength
  let certChain ← Outcome.ofExcept (S.stackFromPem certChainBytes)
  let leafCert ← getLeafCertificate S certChain
  let signedDataSize ← Outcome.okOr
    (if reportSignatureLength ≤ decoded.2 then some (decoded.2 - reportSignatureLength) else none)
    "Nvidia report size too small"
  let signedData ← Outcome.okOr (getRange reportBytes 0 signedDataSize)
    "Nvidia report signed data overflow"
  verifySignature S signedData decoded.1.response.signature leafCert
  let fwid ← getFwid decoded.1
  verifyChain S overflowChecks certChain fwid
  validateNonce decoded.1 expectedNonce
  return decoded.1

end SpdmReport

/-! ## What a request is read from -/

namespace SpdmGetMeasurementRequest

/-- A request as it is written. -/
structure WellFormed (request : SpdmGetMeasurementRequest) : Prop where
  version : request.spdmVersion = SPDM_VERSION_SUPPORTED
  length_nonce : request.nonce.length = 32

def encode (request : SpdmGetMeasurementRequest) : Bytes :=
  request.spdmVersion :: request.requestResponseCode :: request.param1 :: request.param2 ::
    (request.nonce ++ [request.slotIdParam])

theorem WellFormed.length_encode {request : SpdmGetMeasurementRequest} (h : request.WellFormed) :
    request.encode.length = 37 := by
  simp only [encode, List.length_cons, List.length_append, h.length_nonce, List.length_nil]

/-- The nonce is in the bytes. -/
theorem WellFormed.nonce_encode {request : SpdmGetMeasurementRequest} (h : request.WellFormed)
    (rest : Bytes) : ((request.encode ++ rest).drop 4).take 32 = request.nonce := by
  have hdrop : (request.encode ++ rest).drop 4 =
      request.nonce ++ (request.slotIdParam :: rest) := by
    simp only [encode, List.cons_append, List.drop_succ_cons, List.drop_zero, List.append_assoc,
      List.nil_append]
  rw [hdrop, List.take_left' h.length_nonce]

theorem returns_decode (bytes : Bytes) : (decode bytes).Returns := by
  apply returns_ensure_bind
  intro hlen
  have hlen : 37 ≤ bytes.length := hlen
  apply returns_byteAt_bind (by omega)
  intro version
  apply returns_ensure_bind
  intro _
  iterate 3
    apply returns_byteAt_bind (by omega)
    intro _
  apply returns_slice_bind (by omega) (by omega)
  intro nonce _
  apply returns_byteAt_bind (by omega)
  intro slot
  exact Outcome.returns_ok _

/-- **Requests are decoded from what writes them.** -/
theorem decode_eq_ok_iff {bytes : Bytes} {request : SpdmGetMeasurementRequest} {n : ℕ}
    (hlen : bytes.length = 37) :
    decode bytes = .ok (request, n) ↔
      request.WellFormed ∧ bytes = request.encode ∧ n = 37 := by
  have hall : SPDM_GET_MEASUREMENT_REQUEST_SIZE ≤ bytes.length := hlen.ge
  rw [decode, ensure_of hall, Outcome.ok_bind]
  simp only [Outcome.bind_eq_ok, Outcome.ensure_eq_ok, decide_eq_true_eq, Outcome.pure_eq,
    Outcome.ok.injEq, Prod.mk.injEq]
  constructor
  · rintro ⟨version, hversion, _, hsupported, code, hcode, param1, hparam1, param2, hparam2,
      nonce, hnonce, slot, hslot, rfl, rfl⟩
    obtain ⟨hlength, hnonceAt⟩ := (slice_eq_ok_iff (n := 32) (by omega)).1 hnonce
    have hbytes := byteAt_eq_ok_iff.1 hversion
    have hend : bytes.drop (36 + 1) = [] := List.drop_eq_nil_of_le (by omega)
    rw [byteAt_eq_ok_iff.1 hcode, byteAt_eq_ok_iff.1 hparam1, byteAt_eq_ok_iff.1 hparam2, hnonceAt,
      byteAt_eq_ok_iff.1 hslot, hend, List.drop_zero] at hbytes
    exact ⟨⟨hsupported, hlength⟩, hbytes, rfl⟩
  · rintro ⟨⟨hversion, hlength⟩, rfl, rfl⟩
    have h0 : request.encode.drop 0 = _ := rfl
    have h4 : request.encode.drop 4 = request.nonce ++ [request.slotIdParam] := rfl
    have h36 := drop_of_append h4 hlength
    exact ⟨_, rfl, (), hversion, _, rfl, _, rfl, _, rfl, _,
      slice_of_drop (n := 32) (by omega) h4 hlength, _, byteAt_of_drop h36, rfl, rfl⟩

end SpdmGetMeasurementRequest

namespace SpdmReport

variable {reportBytes certChainBytes expectedNonce : Bytes} {signatureLength : ℕ}

/-- A report whose request and response are there is decoded as its response is. -/
theorem decode_encode {overflowChecks : Bool} {request : SpdmGetMeasurementRequest}
    (h : request.WellFormed) (responseBytes : Bytes) :
    decode overflowChecks (request.encode ++ responseBytes) signatureLength =
      SpdmGetMeasurementsResponse.decode overflowChecks responseBytes signatureLength >>=
        fun response => .ok (⟨request, response.1⟩, 37 + response.2) := by
  have hlen : SPDM_GET_MEASUREMENT_REQUEST_SIZE ≤ (request.encode ++ responseBytes).length := by
    rw [List.length_append, h.length_encode]
    exact Nat.le_add_right _ _
  have hrequest : SpdmGetMeasurementRequest.decode request.encode = .ok (request, 37) :=
    (SpdmGetMeasurementRequest.decode_eq_ok_iff h.length_encode).2 ⟨h, rfl, rfl⟩
  rw [decode, ensure_of hlen, Outcome.ok_bind]
  dsimp only [SPDM_GET_MEASUREMENT_REQUEST_SIZE]
  rw [List.take_left' h.length_encode, List.drop_left' h.length_encode, hrequest]
  rfl

/-- A report that is not refused when it is decoded is a request, and a response that is not
refused. -/
theorem exists_request {overflowChecks : Bool}
    (h : ∀ e, decode overflowChecks reportBytes signatureLength ≠ .err e) :
    ∃ (request : SpdmGetMeasurementRequest) (responseBytes : Bytes), request.WellFormed ∧
      reportBytes = request.encode ++ responseBytes ∧ ∀ e,
        SpdmGetMeasurementsResponse.decode overflowChecks responseBytes signatureLength ≠
          .err e := by
  obtain ⟨_, hlen, h⟩ := (Outcome.returns_ensure _ _).exists_eq_ok h
  have hlen : 37 ≤ reportBytes.length := of_decide_eq_true (Outcome.ensure_eq_ok.1 hlen)
  obtain ⟨⟨request, n⟩, hrequest, h⟩ :=
    (SpdmGetMeasurementRequest.returns_decode _).exists_eq_ok h
  obtain ⟨hwell, hencode, -⟩ := (SpdmGetMeasurementRequest.decode_eq_ok_iff (by
    rw [List.length_take]
    exact Nat.min_eq_left hlen)).1 hrequest
  refine ⟨request, reportBytes.drop 37, hwell, ?_, ?_⟩
  · rw [← hencode]
    exact (List.take_append_drop 37 reportBytes).symm
  · intro e he
    exact h e (by dsimp only [SPDM_GET_MEASUREMENT_REQUEST_SIZE]; rw [he]; rfl)

end SpdmReport

end Trustmee.Nvidia
