import Trustmee.Foundations.BigNum
import Trustmee.Foundations.Encoding

/-!
# The key that signs tokens

The broker puts its public key into the header of each token (`pubkeyJwk`), as the two coordinates
in base64url. Who verifies the token makes the uncompressed point of them. The coordinates are
written in as few bytes as they need, and the point has its 65 bytes only where both need 32
(`roundTrips_iff`).
-/

namespace Trustmee.Broker

/-! ## Points of P-256 -/

namespace P256

def p : ℕ := 2 ^ 256 - 2 ^ 224 + 2 ^ 192 + 2 ^ 96 - 1

def b : ℕ := 0x5ac635d8aa3a93e7b3ebbd55769886bc651d06b0cc53b0f63bce3c3e27d2604b

/-- An affine point of the curve. -/
structure Point where
  x : ℕ
  y : ℕ
  x_lt : x < p
  y_lt : y < p
  onCurve : y * y % p = (x * x * x + (p - 3) * x + b) % p

theorem p_lt : p < 2 ^ 256 := by decide

/-- The uncompressed form of a point. -/
def Point.uncompressed (P : Point) : Bytes := 4 :: (toBe 32 P.x ++ toBe 32 P.y)

end P256

/-- What is taken from the `openssl`, `ear` and `jsonwebtoken` crates. -/
structure SigningCrate where
  PrivateKey : Type
  /-- The affine coordinates of the public key. -/
  publicKey : PrivateKey → P256.Point
  X509 : Type
  /-- `X509::to_der`. -/
  toDer : X509 → Except String Bytes
  /-- The ES256 signature of a message. -/
  sign : PrivateKey → Bytes → Bytes
  /-- Verification of a signature of a message under an encoded point. -/
  verify : Bytes → Bytes → Bytes → Bool
  /-- A signature verifies under the public key of the key that made it. -/
  verify_sign : ∀ privateKey message,
    verify (publicKey privateKey).uncompressed message (sign privateKey message) = true
  /-- An encoded point of P-256 that is not compressed has 65 bytes. -/
  length_of_verify : ∀ point message signature,
    verify point message signature = true → point.length = 65

/-- `jwk::Jwk`, of an elliptic curve key on P-256 for ES256. -/
structure PublicJwk where
  x509Url : Option String
  x509Chain : Option (List String)
  x : String
  y : String

/-- The broker's key and its certificates. -/
structure SigningBroker (C : SigningCrate) where
  privateKey : C.PrivateKey
  certUrl : Option String
  certChain : Option (List C.X509)

variable {C : SigningCrate} (broker : SigningBroker C)

/-- The loop over the certificates. -/
def encodeChain : List C.X509 → Outcome (List String)
  | [] => .ok []
  | cert :: certs => do
    let der ← Outcome.ofExcept (C.toDer cert)
    let chain ← encodeChain certs
    return Base64.encodeUrlSafeNoPad der :: chain

/-- The published chain, where the broker has one. -/
def publishedChain : Outcome (Option (List String)) :=
  match broker.certChain with
  | some certs => do
    let chain ← encodeChain certs
    return some chain
  | none => .ok none

/-- `pubkey_jwk`. -/
def pubkeyJwk : Outcome PublicJwk := do
  let chain ← publishedChain broker
  let publicKey := C.publicKey broker.privateKey
  return {
    x509Url := broker.certUrl
    x509Chain := chain
    x := Base64.encodeUrlSafeNoPad (bigNumToVec publicKey.x)
    y := Base64.encodeUrlSafeNoPad (bigNumToVec publicKey.y) }

/-- A token: the key in its header, what is signed, and the signature. -/
structure SignedToken where
  jwk : PublicJwk
  message : Bytes
  signature : Bytes

/-- The end of `issue`, given how the header and the claims are written. -/
def signToken (message : PublicJwk → Bytes) : Outcome SignedToken := do
  let jwk ← pubkeyJwk broker
  return ⟨jwk, message jwk, C.sign broker.privateKey (message jwk)⟩

/-- `DecodingKey::from_jwk` of an elliptic curve key: the point as it is rebuilt. -/
def decodingPoint (jwk : PublicJwk) : Option Bytes := do
  let x ← Base64.decodeUrlSafeNoPad jwk.x
  let y ← Base64.decodeUrlSafeNoPad jwk.y
  return 4 :: (x ++ y)

variable (C) in
/-- A token verifies under the key in its header. -/
def SignedToken.Verifies (token : SignedToken) : Prop :=
  ∃ point, decodingPoint token.jwk = some point ∧
    C.verify point token.message token.signature = true

/-- The published key is the broker's own, and tokens verify under it. -/
structure RoundTrips (jwk : PublicJwk) : Prop where
  x : ∃ b, Base64.decodeUrlSafeNoPad jwk.x = some b ∧ b.length = 32
  y : ∃ b, Base64.decodeUrlSafeNoPad jwk.y = some b ∧ b.length = 32
  point : decodingPoint jwk = some (C.publicKey broker.privateKey).uncompressed
  verifies : ∀ message token, signToken broker message = .ok token → token.Verifies C

/-! ## The published key -/

variable {broker}

theorem pubkeyJwk_coordinates {jwk : PublicJwk} (h : pubkeyJwk broker = .ok jwk) :
    jwk.x = Base64.encodeUrlSafeNoPad (bigNumToVec (C.publicKey broker.privateKey).x) ∧
      jwk.y = Base64.encodeUrlSafeNoPad (bigNumToVec (C.publicKey broker.privateKey).y) := by
  obtain ⟨chain, -, hjwk⟩ := Outcome.bind_eq_ok.1 h
  cases hjwk
  exact ⟨rfl, rfl⟩

theorem decodingPoint_pubkeyJwk {jwk : PublicJwk} (h : pubkeyJwk broker = .ok jwk) :
    decodingPoint jwk = some (4 :: (bigNumToVec (C.publicKey broker.privateKey).x ++
      bigNumToVec (C.publicKey broker.privateKey).y)) := by
  obtain ⟨hx, hy⟩ := pubkeyJwk_coordinates h
  rw [decodingPoint, hx, hy, Base64.decodeUrlSafeNoPad_encodeUrlSafeNoPad,
    Base64.decodeUrlSafeNoPad_encodeUrlSafeNoPad]
  rfl

theorem signToken_eq_ok {message : PublicJwk → Bytes} {token : SignedToken} :
    signToken broker message = .ok token ↔ ∃ jwk, pubkeyJwk broker = .ok jwk ∧
      token = ⟨jwk, message jwk, C.sign broker.privateKey (message jwk)⟩ := by
  rw [signToken, Outcome.bind_eq_ok]
  refine exists_congr fun jwk => and_congr_right fun _ => ?_
  rw [Outcome.pure_eq, Outcome.ok.injEq, eq_comm]

/-- Both coordinates need 32 bytes. -/
def FullCoordinates (P : P256.Point) : Prop := 2 ^ 248 ≤ P.x ∧ 2 ^ 248 ≤ P.y

theorem numBytes_eq_of_lt {v : ℕ} (h : v < P256.p) : numBytes v = 32 ↔ 2 ^ 248 ≤ v := by
  rw [numBytes_eq_iff (by decide)]
  exact and_iff_left (lt_trans h P256.p_lt)

theorem numBytes_le_of_lt {v : ℕ} (h : v < P256.p) : numBytes v ≤ 32 := by
  unfold numBytes
  by_cases hzero : v = 0
  · rw [if_pos hzero]
    exact Nat.zero_le _
  · rw [if_neg hzero]
    have hlog : Nat.log2 v < 256 := (Nat.log2_lt hzero).2 (lt_trans h P256.p_lt)
    omega

theorem fullCoordinates_iff (P : P256.Point) :
    FullCoordinates P ↔ numBytes P.x = 32 ∧ numBytes P.y = 32 := by
  rw [numBytes_eq_of_lt P.x_lt, numBytes_eq_of_lt P.y_lt, FullCoordinates]

/-- The point that is rebuilt has 65 bytes exactly where both coordinates need 32. -/
theorem length_rebuilt_iff (P : P256.Point) :
    (4 :: (bigNumToVec P.x ++ bigNumToVec P.y)).length = 65 ↔ FullCoordinates P := by
  have hx := numBytes_le_of_lt P.x_lt
  have hy := numBytes_le_of_lt P.y_lt
  rw [fullCoordinates_iff, List.length_cons, List.length_append, length_bigNumToVec,
    length_bigNumToVec]
  omega

/-- The point that is rebuilt of full coordinates is the broker's own. -/
theorem rebuilt_eq {P : P256.Point} (h : FullCoordinates P) :
    4 :: (bigNumToVec P.x ++ bigNumToVec P.y) = P.uncompressed := by
  obtain ⟨hx, hy⟩ := (fullCoordinates_iff P).1 h
  rw [bigNumToVec, bigNumToVec, hx, hy]
  rfl

/-- **Tokens verify exactly where both coordinates need 32 bytes**: for other keys none does. -/
theorem verifies_iff {message : PublicJwk → Bytes} {token : SignedToken}
    (h : signToken broker message = .ok token) :
    token.Verifies C ↔ FullCoordinates (C.publicKey broker.privateKey) := by
  obtain ⟨jwk, hjwk, rfl⟩ := signToken_eq_ok.1 h
  constructor
  · rintro ⟨point, hpoint, hverify⟩
    have hlength := C.length_of_verify _ _ _ hverify
    rw [decodingPoint_pubkeyJwk hjwk, Option.some.injEq] at hpoint
    rw [← hpoint] at hlength
    exact (length_rebuilt_iff _).1 hlength
  · intro hfull
    refine ⟨_, decodingPoint_pubkeyJwk hjwk, ?_⟩
    rw [rebuilt_eq hfull]
    exact C.verify_sign _ _

theorem RoundTrips.fullCoordinates {jwk : PublicJwk} (hjwk : pubkeyJwk broker = .ok jwk)
    (h : RoundTrips broker jwk) : FullCoordinates (C.publicKey broker.privateKey) := by
  obtain ⟨hx, hy⟩ := pubkeyJwk_coordinates hjwk
  obtain ⟨x, hdecodeX, hlengthX⟩ := h.x
  obtain ⟨y, hdecodeY, hlengthY⟩ := h.y
  rw [hx, Base64.decodeUrlSafeNoPad_encodeUrlSafeNoPad, Option.some.injEq] at hdecodeX
  rw [hy, Base64.decodeUrlSafeNoPad_encodeUrlSafeNoPad, Option.some.injEq] at hdecodeY
  rw [← hdecodeX, length_bigNumToVec] at hlengthX
  rw [← hdecodeY, length_bigNumToVec] at hlengthY
  exact (fullCoordinates_iff _).2 ⟨hlengthX, hlengthY⟩

theorem FullCoordinates.roundTrips {jwk : PublicJwk} (hjwk : pubkeyJwk broker = .ok jwk)
    (h : FullCoordinates (C.publicKey broker.privateKey)) : RoundTrips broker jwk := by
  obtain ⟨hx, hy⟩ := pubkeyJwk_coordinates hjwk
  obtain ⟨hlengthX, hlengthY⟩ := (fullCoordinates_iff _).1 h
  refine {
    x := ⟨_, by rw [hx]; exact Base64.decodeUrlSafeNoPad_encodeUrlSafeNoPad _, ?_⟩
    y := ⟨_, by rw [hy]; exact Base64.decodeUrlSafeNoPad_encodeUrlSafeNoPad _, ?_⟩
    point := ?_
    verifies := fun message token htoken => (verifies_iff htoken).2 h }
  · rw [length_bigNumToVec, hlengthX]
  · rw [length_bigNumToVec, hlengthY]
  · rw [decodingPoint_pubkeyJwk hjwk, rebuilt_eq h]

/-- **The published key is the broker's own exactly where both coordinates need 32 bytes.** -/
theorem roundTrips_iff {jwk : PublicJwk} (hjwk : pubkeyJwk broker = .ok jwk) :
    RoundTrips broker jwk ↔ FullCoordinates (C.publicKey broker.privateKey) :=
  ⟨RoundTrips.fullCoordinates hjwk, FullCoordinates.roundTrips hjwk⟩

/-- Signatures that say which point made them. -/
def namedSignatures : SigningCrate where
  PrivateKey := P256.Point
  publicKey := id
  X509 := Unit
  toDer _ := .ok []
  sign P message := P.uncompressed ++ message
  verify point message signature := point.length = 65 ∧ signature = point ++ message
  verify_sign P message := by
    have hlength : P.uncompressed.length = 65 := by
      rw [P256.Point.uncompressed, List.length_cons, List.length_append, length_toBe, length_toBe]
    exact decide_eq_true ⟨hlength, rfl⟩
  length_of_verify point message signature h := (of_decide_eq_true h).1

/-- The generator of the curve. -/
def generator : P256.Point where
  x := 0x6b17d1f2e12c4247f8bce6e563a440f277037d812deb33a0f4a13945d898c296
  y := 0x4fe342e2fe1a7f9b8ee7eb4a7c0f9e162bce33576b315ececbb6406837bf51f5
  x_lt := by decide
  y_lt := by decide
  onCurve := by decide

/-- The key of the generator is published as it is. -/
theorem roundTrips_generator : ∃ jwk,
    pubkeyJwk (C := namedSignatures) ⟨generator, none, none⟩ = .ok jwk ∧
      RoundTrips (C := namedSignatures) ⟨generator, none, none⟩ jwk :=
  ⟨_, rfl, (roundTrips_iff rfl).2 ⟨by decide, by decide⟩⟩

/-- The public key of the scalar 43. -/
def shortPoint : P256.Point where
  x := 0x986ae2506f1ff104d04230861d8f4b498f4bc4c6d009b30f7544dc129b82d28d
  y := 0x3cccc0a6460e0ae328a4d97d3c7b61d86fc6289c189f2525110c441bb07e97
  x_lt := by decide
  y_lt := by decide
  onCurve := by decide

/-- Its second coordinate starts with a zero byte, and it is not published as it is. -/
theorem not_roundTrips_shortPoint : ∃ jwk,
    pubkeyJwk (C := namedSignatures) ⟨shortPoint, none, none⟩ = .ok jwk ∧
      ¬ RoundTrips (C := namedSignatures) ⟨shortPoint, none, none⟩ jwk := by
  refine ⟨_, rfl, fun h => ?_⟩
  exact absurd (h.fullCoordinates rfl).2 (by decide)

end Trustmee.Broker
