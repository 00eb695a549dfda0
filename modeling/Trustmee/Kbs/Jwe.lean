import Trustmee.Foundations.Encoding
import Trustmee.Foundations.Json
import Trustmee.Kbs.Token
import Mathlib.Algebra.Order.Ring.Int

/-!
# Encryption for the TEE

What a plugin of the KBS releases is sealed under a fresh AES key, and this key under the public key
of the TEE. The header names the algorithm, and the payload is in no other part of the answer than
in what AES-GCM makes of it (`jwe_congr`).
-/

namespace Trustmee.Kbs

/-- `kbs_types::TeePubKey`. -/
inductive TeePubKey
  | RSA (alg kMod kExp : String)
  | EC (crv alg x y : String)
  deriving DecidableEq

namespace Jwe

def RSA1_5_ALGORITHM : String := "RSA1_5"
def RSA_OAEP256_ALGORITHM : String := "RSA-OAEP-256"
def ECDH_ES_A256KW : String := "ECDH-ES+A256KW"
def EC_KTY : String := "EC"
def P256_CURVE : String := "P-256"
def P521_CURVE : String := "P-521"
def AES_GCM_256_ALGORITHM : String := "A256GCM"
def AES_GCM_256_KEY_BITS : ℕ := 256

/-- `ProtectedHeader`. -/
structure ProtectedHeader where
  alg : String
  enc : String
  otherFields : Json.Map

/-- `kbs_types::Response`. -/
structure Response where
  protectedHeader : ProtectedHeader
  encryptedKey : Bytes
  iv : Bytes
  ciphertext : Bytes
  aad : Option Bytes
  tag : Bytes

/-- How an RSA key encrypts: `Pkcs1v15Encrypt`, or `Oaep::new::<Sha256>()`. -/
inductive Padding
  | Pkcs1v15Encrypt
  | OaepSha256

/-- The two elliptic curves. -/
inductive Curve
  | P256
  | P521

/-- The primitives of other crates. -/
structure Crypto where
  /-- `ProtectedHeader::generate_aad`. -/
  generateAad : ProtectedHeader → Except String Bytes
  /-- `Aes256Gcm::encrypt_in_place_detached`, from the key, the nonce and the additional data: the
  ciphertext and the tag. -/
  aesGcm : Bytes → Bytes → Bytes → Bytes → Except String (Bytes × Bytes)
  RsaPublicKey : Type
  /-- `RsaPublicKey::new`. -/
  newRsaPublicKey : ℕ → ℕ → Except String RsaPublicKey
  /-- `RsaPublicKey::encrypt`, with the bytes that the random number generator gives. -/
  rsaEncrypt : RsaPublicKey → Padding → Bytes → Bytes → Except String Bytes
  PublicKey : Type
  /-- `PublicKey::from_encoded_point`, of the affine coordinates. -/
  fromAffineCoordinates : Curve → Bytes → Bytes → Option PublicKey
  EphemeralSecret : Type
  /-- `EphemeralSecret::diffie_hellman`, as bytes. -/
  diffieHellman : Curve → EphemeralSecret → PublicKey → Bytes
  /-- The coordinates of the public key of an ephemeral secret. -/
  coordinates : Curve → EphemeralSecret → Option Bytes × Option Bytes
  /-- `concat_kdf::derive_key_into::<Sha256>`, of 32 bytes. -/
  deriveKey : Bytes → Bytes → Except String Bytes
  /-- `KekAes256::wrap`. -/
  wrap : Bytes → Bytes → Except String Bytes

/-- What is drawn at random for one answer. -/
structure Draws (K : Crypto) where
  /-- The key that the content is encrypted with. -/
  cek : Bytes
  iv : Bytes
  rsaRandom : Bytes
  encrypterSecret : Curve → K.EphemeralSecret

variable (K : Crypto) (draws : Draws K)

/-- Base64, with the message of the coordinate that it is for. -/
def decodePart (part : String) (context : String) : Outcome Bytes :=
  (Trustmee.decodeUrlSafeNoPad part).context context

/-- The content, and its tag. -/
def sealPayload (aad payload : Bytes) : Outcome (Bytes × Bytes) :=
  (Outcome.ofExcept (K.aesGcm draws.cek draws.iv aad payload)).mapErr fun e =>
    ["AES encrypt Resource payload failed: " ++ String.join e]

/-- The functions for RSA keys: they differ in the name of the algorithm and in the padding. -/
def rsa (algorithm : String) (padding : Padding) (kMod kExp : String) (payloadData : Bytes) :
    Outcome Response := do
  let protectedHeader : ProtectedHeader := ⟨algorithm, AES_GCM_256_ALGORITHM, []⟩
  let aad ← (Outcome.ofExcept (K.generateAad protectedHeader)).context "Generate JWE AAD"
  let (ciphertext, tag) ← sealPayload K draws aad payloadData
  let kMod ← decodePart kMod "base64 decode k_mod failed"
  let kExp ← decodePart kExp "base64 decode k_exp failed"
  let rsaPubKey ← (Outcome.ofExcept (K.newRsaPublicKey (bigNum kMod) (bigNum kExp))).context
    "Building RSA key from modulus and exponent failed"
  let encryptedKey ← (Outcome.ofExcept
    (K.rsaEncrypt rsaPubKey padding draws.rsaRandom draws.cek)).context "RSA encrypt sym key failed"
  return ⟨protectedHeader, encryptedKey, draws.iv, ciphertext, none, tag⟩

/-- `rsa_1v15`. -/
def rsa1v15 : String → String → Bytes → Outcome Response :=
  rsa K draws RSA1_5_ALGORITHM .Pkcs1v15Encrypt

/-- `rsa_oaep256`. -/
def rsaOaep256 : String → String → Bytes → Outcome Response :=
  rsa K draws RSA_OAEP256_ALGORITHM .OaepSha256

/-- `u32::to_be_bytes`. -/
def beBytes (n : ℕ) : Bytes :=
  [UInt8.ofNat (n / 2 ^ 24), UInt8.ofNat (n / 2 ^ 16), UInt8.ofNat (n / 2 ^ 8), UInt8.ofNat n]

/-- What the wrapping key is derived from, next to the shared secret. -/
def keyDerivationMaterials : Bytes :=
  beBytes ECDH_ES_A256KW.utf8ByteSize ++ toUtf8 ECDH_ES_A256KW ++ beBytes 0 ++ beBytes 0 ++
    beBytes AES_GCM_256_KEY_BITS

/-- The functions for elliptic curves: they differ in the curve, its name and the length of a
coordinate. -/
def ecdhEsA256kw (curve : Curve) (crv : String) (size : ℕ) (x y : String) (payloadData : Bytes) :
    Outcome Response := do
  let x ← decodePart x "base64 decode x failed"
  Outcome.ensure (x.length == size) "invalid bytes length of coordinates X"
  let y ← decodePart y "base64 decode y failed"
  Outcome.ensure (y.length == size) "invalid bytes length of coordinates Y"
  let publicKey ← Outcome.okOr (K.fromAffineCoordinates curve x y) "invalid TEE public key"
  let z := K.diffieHellman curve (draws.encrypterSecret curve) publicKey
  let wrappingKey ← (Outcome.ofExcept (K.deriveKey z keyDerivationMaterials)).mapErr fun e =>
    ["failed to do concat KDF: " ++ String.join e]
  let encryptedKey ← (Outcome.ofExcept (K.wrap wrappingKey draws.cek)).mapErr fun e =>
    ["failed to do AES wrapping: " ++ String.join e]
  let point := K.coordinates curve (draws.encrypterSecret curve)
  let epkX ← Outcome.okOr point.1 "invalid public key: without coordinate X"
  let epkY ← Outcome.okOr point.2 "invalid public key: without coordinate Y"
  let protectedHeader : ProtectedHeader := ⟨ECDH_ES_A256KW, AES_GCM_256_ALGORITHM, Json.Map.ofList
    [("epk", .object (Json.Map.ofList [("crv", .string crv), ("kty", .string EC_KTY),
      ("x", .string (Base64.encodeUrlSafeNoPad epkX)),
      ("y", .string (Base64.encodeUrlSafeNoPad epkY))]))]⟩
  let aad ← (Outcome.ofExcept (K.generateAad protectedHeader)).context "Generate JWE AAD"
  let (ciphertext, tag) ← sealPayload K draws aad payloadData
  return ⟨protectedHeader, encryptedKey, draws.iv, ciphertext, none, tag⟩

/-- `ecdh_es_a256kw_p256`. -/
def ecdhEsA256kwP256 : String → String → Bytes → Outcome Response :=
  ecdhEsA256kw K draws .P256 P256_CURVE 32

/-- `ecdh_es_a256kw_p521`. -/
def ecdhEsA256kwP521 : String → String → Bytes → Outcome Response :=
  ecdhEsA256kw K draws .P521 P521_CURVE 66

/-- `jwe`. -/
def jwe (teePubKey : TeePubKey) (payloadData : Bytes) : Outcome Response :=
  match teePubKey with
  | .RSA alg kMod kExp =>
    if alg = RSA1_5_ALGORITHM then rsa1v15 K draws kMod kExp payloadData
    else if alg = RSA_OAEP256_ALGORITHM then rsaOaep256 K draws kMod kExp payloadData
    else .bail ("algorithm " ++ alg ++ " is not supported")
  | .EC crv alg x y =>
    if crv = P256_CURVE ∧ alg = ECDH_ES_A256KW then ecdhEsA256kwP256 K draws x y payloadData
    else if crv = P521_CURVE ∧ alg = ECDH_ES_A256KW then ecdhEsA256kwP521 K draws x y payloadData
    else .bail ("curve " ++ crv ++ " and algorithm " ++ alg ++ " is not supported")

/-! ## Where the payload goes -/

/-- AES-GCM makes the same of two payloads, under the key that is drawn. -/
def SealedAlike (payload payload' : Bytes) : Prop :=
  ∀ aad, K.aesGcm draws.cek draws.iv aad payload = K.aesGcm draws.cek draws.iv aad payload'

variable {K draws} {payload payload' : Bytes}

theorem rsa_congr (h : SealedAlike K draws payload payload') (algorithm : String)
    (padding : Padding) (kMod kExp : String) :
    rsa K draws algorithm padding kMod kExp payload =
      rsa K draws algorithm padding kMod kExp payload' := by
  simp only [rsa, sealPayload, h _]

theorem ecdhEsA256kw_congr (h : SealedAlike K draws payload payload') (curve : Curve) (crv : String)
    (size : ℕ) (x y : String) : ecdhEsA256kw K draws curve crv size x y payload =
      ecdhEsA256kw K draws curve crv size x y payload' := by
  simp only [ecdhEsA256kw, sealPayload, h _]

/-- **The answer depends on the payload through AES-GCM alone**: two payloads of which it makes the
same have the same answer. -/
theorem jwe_congr (h : SealedAlike K draws payload payload') (teePubKey : TeePubKey) :
    jwe K draws teePubKey payload = jwe K draws teePubKey payload' := by
  cases teePubKey with
  | RSA alg kMod kExp => simp only [jwe, rsa1v15, rsaOaep256, rsa_congr h]
  | EC crv alg x y =>
    simp only [jwe, ecdhEsA256kwP256, ecdhEsA256kwP521, ecdhEsA256kw_congr h]


end Jwe

end Trustmee.Kbs
