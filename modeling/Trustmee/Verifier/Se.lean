import Trustmee.Verifier.Interface

/-!
# The IBM SE verifier

`SeVerifier::evaluate` of the `verifier` crate. The response carries, encrypted to the verifier, the
key of its measurement and the nonce of the request; the measurement, an HMAC over the image, the
configuration, the user data, the nonce and the additional data, is computed again and compared. The
expected report data and init data hash are not looked at, but the user data becomes the claim
`report_data`.
-/

namespace Trustmee.Se

/-- What the verifier takes from `pv` and `openssl`, and from its key files. -/
structure Env where
  /-- `SeVerifierImpl`: the verifier's RSA keys. -/
  SeVerifierImpl : Type
  /-- `SeVerifierImpl::new`. -/
  newImpl : Except String SeVerifierImpl
  /-- `SeVerifierImpl::decrypt`. -/
  decrypt : SeVerifierImpl → Bytes → Except String Bytes
  BootHdrTags : Type
  /-- The tags of an image header, from their bytes. -/
  tagsFromBytes : Bytes → Except String BootHdrTags
  /-- `BootHdrTags::tag`. -/
  tag : BootHdrTags → Bytes
  HmacKey : Type
  /-- `PKey::hmac`. -/
  hmacKey : Bytes → Except String HmacKey
  /-- `AttestationMeasurement::calculate`, of the tags, the configuration's identifier, the user
  data, the nonce and the additional data. -/
  calculate : BootHdrTags → Bytes → Bytes → Bytes → Bytes → HmacKey → Except String Bytes
  /-- `AdditionalData::from_slice`, with the flags for both hashes: the hashes of the public host
  keys of the image and of the attestation. -/
  additionalData : Bytes → Except String (Option Bytes × Option Bytes)
  /-- `AttestationVersion::One`. -/
  versionOne : ℕ

variable (E : Env)

/-- `SeAttestationResponse`. -/
structure SeAttestationResponse where
  measurement : Bytes
  additionalData : Bytes
  userData : Bytes
  cuid : Bytes
  encrMeasurementKey : Bytes
  encrRequestNonce : Bytes
  imageHdrTags : E.BootHdrTags

/-- `ConfigUid`, sixteen bytes in base64. -/
def configUidFromValue (v : Json) : Except String Bytes := do
  let b ← Deserialize.base64 v
  if b.length = 16 then return b
  else .error "Can't convert a Byte Vector to the output type."

def imageHdrTagsFromValue (v : Json) : Except String E.BootHdrTags := do
  let b ← Deserialize.base64 v
  E.tagsFromBytes b

/-- The derived `Deserialize`. -/
def SeAttestationResponse.fromValue (v : Json) : Except String (SeAttestationResponse E) := do
  let m ← Deserialize.fields "SeAttestationResponse"
    ["measurement", "additional_data", "user_data", "cuid", "encr_measurement_key",
      "encr_request_nonce", "image_hdr_tags"] 7 v
  let measurement ← Deserialize.required Deserialize.base64 m "measurement"
  let additionalData ← Deserialize.required Deserialize.base64 m "additional_data"
  let userData ← Deserialize.required Deserialize.base64 m "user_data"
  let cuid ← Deserialize.required configUidFromValue m "cuid"
  let encrMeasurementKey ← Deserialize.required Deserialize.base64 m "encr_measurement_key"
  let encrRequestNonce ← Deserialize.required Deserialize.base64 m "encr_request_nonce"
  let imageHdrTags ← Deserialize.required (imageHdrTagsFromValue E) m "image_hdr_tags"
  return ⟨measurement, additionalData, userData, cuid, encrMeasurementKey, encrRequestNonce,
    imageHdrTags⟩

variable {E} in
/-- `SeAttestationClaims`. -/
def seAttestationClaims (response : SeAttestationResponse E) (reportData : String)
    (imagePhkh attestationPhkh : Bytes) : Json.Map := .ofList
  [("cuid", .string (hexEncode response.cuid)),
   ("report_data", .string reportData),
   ("version", .number (.int E.versionOne)),
   ("image_phkh", .string (hexEncode imagePhkh)),
   ("attestation_phkh", .string (hexEncode attestationPhkh)),
   ("tag", .string (hexEncode (E.tag response.imageHdrTags)))]

/-- `SeVerifierImpl::evaluate`. -/
def evaluateImpl (impl : E.SeVerifierImpl) (evidence : Json) : Outcome Json := do
  let seResponse ← Outcome.ofExcept (SeAttestationResponse.fromValue E evidence)
  let measKey ← (Outcome.ofExcept (E.decrypt impl seResponse.encrMeasurementKey)).context
    "decrypt Measurement Key"
  let nonce ← (Outcome.ofExcept (E.decrypt impl seResponse.encrRequestNonce)).context
    "decrypt Request Nonce"
  Outcome.ensure (nonce.length = 16)
    ("Failed to convert nonce from Vec<u8> to [u8; 16], It must have exactly 16 elements.")
  let measKey ← Outcome.ofExcept (E.hmacKey measKey)
  let measurement ← Outcome.ofExcept (E.calculate seResponse.imageHdrTags seResponse.cuid
    seResponse.userData nonce seResponse.additionalData measKey)
  Outcome.ensure (measurement == seResponse.measurement) "Failed to verify the measurement!"
  let addData ← Outcome.ofExcept (E.additionalData seResponse.additionalData)
  let imagePhkh ← Outcome.okOr addData.1 "Failed to get image_public_host_key_hash."
  let attestationPhkh ← Outcome.okOr addData.2 "Failed to get attestation_public_host_key_hash."
  let reportData ← Outcome.okOr (fromUtf8 seResponse.userData) "invalid utf-8 sequence"
  return .object (seAttestationClaims seResponse reportData imagePhkh attestationPhkh)

/-- `SeVerifier::evaluate`. -/
def evaluate (evidence : Json) (_expectedReportData : ReportData)
    (_expectedInitDataHash : InitDataHash) : Outcome Claims := do
  let seVerifier ← Outcome.ofExcept E.newImpl
  let claims ← evaluateImpl E seVerifier evidence
  return [(claims, "cpu")]

/-! ## What the claims mean -/

/-- The user data of the response is the expected report data. -/
def ReportDataBound (evidence : Json) (expected : Bytes) : Prop :=
  ∃ response, SeAttestationResponse.fromValue E evidence = .ok response ∧
    response.userData = expected

/-- The SE verifier gives no init data claim. -/
theorem evaluate_bindsInitData : BindsInitData (evaluate E) fun _ _ => False := by
  intro evidence reportData expected claims h
  simp only [evaluate, evaluateImpl, Outcome.bind_eq_ok, Outcome.pure_eq, Outcome.ok.injEq] at h
  obtain ⟨_, -, v,
    ⟨_, -, _, -, _, -, _, -, _, -, _, -, _, -, _, -, _, -, _, -, _, -, rfl⟩, rfl⟩ := h
  exact not_emits_singleton (by simp [seAttestationClaims, Json.Map.ofList, Json.Map.extend_cons,
    Json.Map.get_insert])

/-- One piece of claims comes from accepted evidence. -/
theorem evaluate_givesOne : GivesOne (evaluate E) "cpu" := by
  intro evidence reportData initDataHash
  exact .bind fun _ _ => .bind fun _ _ => .ok ⟨_, rfl⟩

end Trustmee.Se
