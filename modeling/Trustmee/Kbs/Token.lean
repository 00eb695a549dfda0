import Trustmee.Foundations.JsonPointer
import Trustmee.Foundations.JsonText
import Trustmee.Foundations.Outcome

/-!
# Attestation tokens

The KBS accepts a token when its signature verifies under a key that is trusted: one of the trusted
key sets, which the token's header names, or a key in the header itself that a chain of certificates
endorses up to a trusted one. The header is the token's author's, and so is the algorithm it names;
the algorithm that counts is the one of the key (`verify_provenance`).
-/

namespace Trustmee.Kbs

/-- The number of bytes in network order, as `BigNum::from_slice` reads it. -/
def bigNum (b : Bytes) : ℕ := b.foldl (fun n x => n * 256 + x.toNat) 0

/-! ## Keys -/

/-- `EllipticCurve`. -/
inductive EllipticCurve
  | P256 | P384 | P521 | Ed25519
  deriving DecidableEq

/-- `AlgorithmParameters`. -/
inductive AlgorithmParameters
  | EllipticCurve (curve : EllipticCurve) (x y : String)
  | RSA (n e : String)
  | OctetKey (value : String)
  | OctetKeyPair (curve : EllipticCurve) (x : String)

/-- `Jwk`, with the parameters of its `common` that are read. -/
structure Jwk (KeyAlgorithm : Type) where
  keyAlgorithm : Option KeyAlgorithm
  keyId : Option String
  x509Chain : Option (List String)
  algorithm : AlgorithmParameters

/-- `Header`, with the members that are read. -/
structure Header (KeyAlgorithm Algorithm : Type) where
  alg : Algorithm
  jwk : Option (Jwk KeyAlgorithm)
  kid : Option String

/-- A public key of OpenSSL. -/
inductive PKey
  | rsa (n e : ℕ)
  | p256 (x y : ℕ)
  | other (der : Bytes)
  deriving DecidableEq

/-- What the verifier takes from `jsonwebtoken` and `openssl`. -/
structure Jwt where
  KeyAlgorithm : Type
  /-- `KeyAlgorithm::to_string`. -/
  keyAlgorithmToString : KeyAlgorithm → String
  Algorithm : Type
  /-- `Algorithm::from_str`. -/
  algorithmFromStr : String → Except String Algorithm
  /-- `decode_header`. -/
  decodeHeader : String → Except String (Header KeyAlgorithm Algorithm)
  DecodingKey : Type
  /-- `DecodingKey::from_jwk`. -/
  decodingKeyFromJwk : Jwk KeyAlgorithm → Except String DecodingKey
  /-- `decode::<Value>`, with `Validation::new` of the algorithm. -/
  decode : String → DecodingKey → Algorithm → Except String Json
  /-- `Rsa::from_public_components`, and the key of it. -/
  checkRsa : ℕ → ℕ → Except String Unit
  /-- `set_affine_coordinates_gfp` and `EcKey::from_public_key`, on P-256. -/
  checkP256 : ℕ → ℕ → Except String Unit
  X509 : Type
  /-- `X509::from_der`. -/
  fromDer : Bytes → Except String X509
  /-- `X509::public_key`. -/
  publicKey : X509 → Except String PKey
  /-- `verify_cert`, of the trusted certificates, the leaf and the chain. -/
  verifyCert : List X509 → X509 → List X509 → Except String Bool
  /-- `get_jwks_from_file_or_url`. -/
  getJwksFromFileOrUrl : String → Except String (List (Jwk KeyAlgorithm))
  /-- `fs::read` of a path, and `X509::from_pem`. -/
  readCert : String → Outcome X509
  TeePubKey : Type
  /-- `TeePubKey::deserialize`. -/
  teePubKeyFromValue : Json → Except String TeePubKey

variable {J : Jwt}

/-- `JwkSet::find`. -/
def findJwk (keys : List (Jwk J.KeyAlgorithm)) (kid : String) : Option (Jwk J.KeyAlgorithm) :=
  keys.find? fun key => key.keyId == some kid

/-! ## The verifier -/

/-- `JwkAttestationTokenVerifier`. -/
structure JwkAttestationTokenVerifier (J : Jwt) where
  trustedJwkSets : List (Jwk J.KeyAlgorithm)
  trustedCerts : List J.X509
  insecureKey : Bool

/-- The public key of a key of the header. -/
def endorsedKey (key : Jwk J.KeyAlgorithm) : Outcome PKey :=
  match key.algorithm with
  | .RSA n e => do
    let n ← (decodeUrlSafeNoPad n).context "decode RSA public key parameter n"
    let e ← (decodeUrlSafeNoPad e).context "decode RSA public key parameter e"
    Outcome.ofExcept (J.checkRsa (bigNum n) (bigNum e))
    return .rsa (bigNum n) (bigNum e)
  | .EllipticCurve curve x y => do
    let x ← decodeUrlSafeNoPad x
    let y ← decodeUrlSafeNoPad y
    Outcome.ensure (curve = .P256) "Unsupported elliptic curve"
    Outcome.ofExcept (J.checkP256 (bigNum x) (bigNum y))
    return .p256 (bigNum x) (bigNum y)
  | _ => .bail "Only RSA or EC JWKs are supported."

variable (J) in
/-- A certificate of an `x5c`. -/
def certificate (cert : String) : Outcome J.X509 := do
  let pem := String.ofList (cert.toList.filter (· ≠ '\n'))
  let der ← (decodeUrlSafeNoPad pem).context "Illegal x5c cert"
  (Outcome.ofExcept (J.fromDer der)).context "Invalid x509 in x5c"

/-- `AttestationTokenVerifierConfig`. -/
structure AttestationTokenVerifierConfig where
  extraTeekeyPaths : List String
  trustedCertsPaths : List String
  trustedJwkSets : List String
  insecureKey : Bool

namespace JwkAttestationTokenVerifier

variable (J) in
/-- `JwkAttestationTokenVerifier::new`. -/
def new (config : AttestationTokenVerifierConfig) : Outcome (JwkAttestationTokenVerifier J) := do
  let jwkSets ← Outcome.traverse (fun path => (Outcome.ofExcept (J.getJwksFromFileOrUrl path)).mapErr
    fun e => ["error getting JWKS: " ++ e.headD ""]) config.trustedJwkSets
  let trustedCerts ← Outcome.traverse J.readCert config.trustedCertsPaths
  return {
    trustedJwkSets := jwkSets.flatten
    trustedCerts
    insecureKey := config.insecureKey }

variable (V : JwkAttestationTokenVerifier J)

/-- `verify_jwk_endorsement`. -/
def verifyJwkEndorsement (key : Jwk J.KeyAlgorithm) : Outcome Unit := do
  let publicKey ← endorsedKey key
  let x5c ← Outcome.okOr key.x509Chain "No x5c extension inside JWK. Invalid public key."
  match x5c with
  | [] => .bail "Empty x5c extension inside JWK. Invalid public key."
  | first :: rest => do
    let leafCert ← certificate J first
    let leafKey ← Outcome.ofExcept (J.publicKey leafCert)
    Outcome.ensure (publicKey = leafKey) "jwk does not match x5c"
    let certChain ← Outcome.traverse (certificate J) rest
    let verified ← Outcome.ofExcept (J.verifyCert V.trustedCerts leafCert certChain)
    Outcome.ensure verified "JWK cannot be validated by trust anchor"

/-- `get_verification_jwk`. -/
def getVerificationJwk (header : Header J.KeyAlgorithm J.Algorithm) :
    Outcome (Jwk J.KeyAlgorithm) :=
  match header.jwk with
  | some key =>
    if V.insecureKey then .ok key
    else if V.trustedCerts.isEmpty then .bail "Cannot verify token since trusted cert is empty"
    else do
      verifyJwkEndorsement V key
      return key
  | none =>
    if V.trustedJwkSets.isEmpty then .bail "Cannot verify token since trusted JWK Set is empty"
    else do
      let kid ← Outcome.okOr header.kid "Failed to decode kid in the token header"
      .okOr (findJwk V.trustedJwkSets kid) ("Failed to find Jwk with kid " ++ kid ++ " in JwkSet")

/-- `verify`. -/
def verify (token : String) : Outcome Json := do
  let header ← (Outcome.ofExcept (J.decodeHeader token)).context
    "Failed to decode attestation token header"
  let key ← getVerificationJwk V header
  let keyAlg ← Outcome.okOr key.keyAlgorithm "Failed to find key_algorithm in Jwk"
  let alg ← Outcome.ofExcept (J.algorithmFromStr (J.keyAlgorithmToString keyAlg))
  let dkey ← Outcome.ofExcept (J.decodingKeyFromJwk key)
  (Outcome.ofExcept (J.decode token dkey alg)).context "Failed to decode attestation token"

end JwkAttestationTokenVerifier

/-! ## The public key of the TEE -/

def TOKEN_TEE_PUBKEY_PATH_ITA : String := "/tdx/attester_runtime_data/tee-pubkey"
def TOKEN_TEE_PUBKEY_PATH_ITA_VTPM : String := "/tdx/attester_user_data/tee-pubkey"
def TOKEN_TEE_PUBKEY_PATH_COCO : String := "/customized_claims/runtime_data/tee-pubkey"
def TOKEN_TEE_PUBKEY_PATH_EAR : String :=
  "/submods/cpu0/ear.veraison.annotated-evidence/runtime_data_claims/tee-pubkey"
def TOKEN_TEE_PUBKEY_PATH_VALUE : String := "/tee-pubkey"

/-- `TokenVerifier`. -/
structure TokenVerifier (J : Jwt) where
  verifier : JwkAttestationTokenVerifier J
  extraTeekeyPaths : List String

namespace TokenVerifier

variable (J) in
/-- `TokenVerifier::from_config`: the configured paths come before the built-in ones. -/
def fromConfig (config : AttestationTokenVerifierConfig) : Outcome (TokenVerifier J) := do
  let verifier ← (JwkAttestationTokenVerifier.new J config).context
    "Failed to initialize Token Verifier"
  return {
    verifier
    extraTeekeyPaths := config.extraTeekeyPaths ++ [TOKEN_TEE_PUBKEY_PATH_ITA,
      TOKEN_TEE_PUBKEY_PATH_ITA_VTPM, TOKEN_TEE_PUBKEY_PATH_COCO, TOKEN_TEE_PUBKEY_PATH_EAR,
      TOKEN_TEE_PUBKEY_PATH_VALUE] }

variable (V : TokenVerifier J)

/-- `TokenVerifier::verify`. -/
def verify (token : String) : Outcome Json :=
  (V.verifier.verify token).context "Failed to verify Attestation Token"

variable (J) in
/-- The key at the first of the paths that leads to a value. -/
def extractFrom (claim : Json) : List String → Outcome J.TeePubKey
  | [] => .bail "Tee public key not found in Attestation Token"
  | path :: paths =>
    match claim.pointer path with
    | some pkeyValue =>
      match J.teePubKeyFromValue pkeyValue with
      | .ok pkey => .ok pkey
      | .error _ => .bail "Failed to parse Tee public key"
    | none => extractFrom claim paths

/-- `extract_tee_public_key`. -/
def extractTeePublicKey (claim : Json) : Outcome J.TeePubKey :=
  extractFrom J claim V.extraTeekeyPaths

end TokenVerifier

/-! ## Where the key comes from -/

/-- The RSA or P-256 public key of a key. -/
def publicKeyOf : AlgorithmParameters → Option PKey
  | .RSA n e => do
    let n ← Base64.decodeUrlSafeNoPad n
    let e ← Base64.decodeUrlSafeNoPad e
    some (.rsa (bigNum n) (bigNum e))
  | .EllipticCurve .P256 x y => do
    let x ← Base64.decodeUrlSafeNoPad x
    let y ← Base64.decodeUrlSafeNoPad y
    some (.p256 (bigNum x) (bigNum y))
  | _ => none

theorem endorsedKey_eq_ok {key : Jwk J.KeyAlgorithm} {publicKey : PKey}
    (h : endorsedKey key = .ok publicKey) : publicKeyOf key.algorithm = some publicKey := by
  unfold endorsedKey at h
  cases hparams : key.algorithm with
  | RSA n e =>
    simp only [hparams, Outcome.bind_eq_ok, Outcome.context_eq_ok, decodeUrlSafeNoPad_eq_ok,
      Outcome.pure_eq, Outcome.ok.injEq] at h
    obtain ⟨n', hn, e', he, _, -, rfl⟩ := h
    simp only [publicKeyOf, hn, he, Option.bind_eq_bind, Option.bind_some]
  | EllipticCurve curve x y =>
    simp only [hparams, Outcome.bind_eq_ok, decodeUrlSafeNoPad_eq_ok, Outcome.ensure_eq_ok,
      decide_eq_true_eq, Outcome.pure_eq, Outcome.ok.injEq] at h
    obtain ⟨x', hx, y', hy, _, rfl, _, -, rfl⟩ := h
    simp only [publicKeyOf, hx, hy, Option.bind_eq_bind, Option.bind_some]
  | OctetKey value =>
    rw [hparams] at h
    exact absurd h Outcome.bail_ne_ok
  | OctetKeyPair curve x =>
    rw [hparams] at h
    exact absurd h Outcome.bail_ne_ok

section Provenance

variable (Verifies : String → Jwk J.KeyAlgorithm → J.Algorithm → Prop)
  (SignedBy : J.X509 → J.X509 → Prop)

/-- The certificate chains through intermediate ones to a trusted one. -/
inductive ChainsTo (trusted intermediates : List J.X509) : J.X509 → Prop
  | anchor {cert : J.X509} (h : cert ∈ trusted) : ChainsTo trusted intermediates cert
  | trusted {cert issuer : J.X509} (hsigned : SignedBy cert issuer) (h : issuer ∈ trusted) :
    ChainsTo trusted intermediates cert
  | intermediate {cert issuer : J.X509} (hsigned : SignedBy cert issuer)
    (hmem : issuer ∈ intermediates) (h : ChainsTo trusted intermediates issuer) :
    ChainsTo trusted intermediates cert

variable (J) in
/-- What the proofs assume: `decode` returns claims only when the signature of the token verifies
under the key, with the algorithm, which is then the header's, and `verify_cert` accepts only a
certificate that chains to a trusted one. -/
structure Jwt.Correct : Prop where
  decode : ∀ token header key dkey alg claims, J.decodeHeader token = .ok header →
    J.decodingKeyFromJwk key = .ok dkey → J.decode token dkey alg = .ok claims →
      header.alg = alg ∧ Verifies token key alg
  verifyCert : ∀ trusted leaf chain, J.verifyCert trusted leaf chain = .ok true →
    ChainsTo SignedBy trusted chain leaf

variable (V : JwkAttestationTokenVerifier J)

/-- The public key of the key is the one of its first certificate, which chains through the others
to a trusted certificate. -/
def Endorsed (key : Jwk J.KeyAlgorithm) : Prop :=
  ∃ publicKey first rest leaf chain, publicKeyOf key.algorithm = some publicKey ∧
    key.x509Chain = some (first :: rest) ∧ certificate J first = .ok leaf ∧
    J.publicKey leaf = .ok publicKey ∧
    List.Forall₂ (fun cert x509 => certificate J cert = .ok x509) rest chain ∧
    ChainsTo SignedBy V.trustedCerts chain leaf

/-- The key is one of the trusted sets, by the header's `kid`, or an endorsed key in the header. -/
inductive Provenance (header : Header J.KeyAlgorithm J.Algorithm) (key : Jwk J.KeyAlgorithm) : Prop
  | trusted {kid : String} (hjwk : header.jwk = none) (hkid : header.kid = some kid)
    (hfind : findJwk V.trustedJwkSets kid = some key)
  | endorsed (hjwk : header.jwk = some key) (hendorsed : Endorsed SignedBy V key)

variable {Verifies SignedBy V}

theorem verifyJwkEndorsement_eq_ok (hJ : J.Correct Verifies SignedBy) {key : Jwk J.KeyAlgorithm}
    (h : V.verifyJwkEndorsement key = .ok ()) : Endorsed SignedBy V key := by
  simp only [JwkAttestationTokenVerifier.verifyJwkEndorsement, Outcome.bind_eq_ok,
    Outcome.okOr_eq_ok] at h
  obtain ⟨publicKey, hpublicKey, x5c, hx5c, h⟩ := h
  cases x5c with
  | nil => exact absurd h Outcome.bail_ne_ok
  | cons first rest =>
    simp only [Outcome.bind_eq_ok, Outcome.ofExcept_eq_ok, Outcome.ensure_eq_ok,
      decide_eq_true_eq] at h
    obtain ⟨leaf, hleaf, leafKey, hleafKey, _, rfl, chain, hchain, verified, hverified, rfl⟩ := h
    exact ⟨publicKey, first, rest, leaf, chain, endorsedKey_eq_ok hpublicKey, hx5c, hleaf, hleafKey,
      Outcome.traverse_eq_ok.1 hchain, hJ.verifyCert _ _ _ hverified⟩

theorem getVerificationJwk_eq_ok (hJ : J.Correct Verifies SignedBy)
    (hinsecure : V.insecureKey = false) {header : Header J.KeyAlgorithm J.Algorithm}
    {key : Jwk J.KeyAlgorithm} (h : V.getVerificationJwk header = .ok key) :
    Provenance SignedBy V header key := by
  unfold JwkAttestationTokenVerifier.getVerificationJwk at h
  cases hjwk : header.jwk with
  | some headerKey =>
    simp only [hjwk, hinsecure, Bool.false_eq_true, if_false] at h
    split_ifs at h with hempty
    · exact absurd h Outcome.bail_ne_ok
    · obtain ⟨_, hendorsed, hkey⟩ := Outcome.bind_eq_ok.1 h
      cases hkey
      exact .endorsed hjwk (verifyJwkEndorsement_eq_ok hJ hendorsed)
  | none =>
    simp only [hjwk] at h
    split_ifs at h with hempty
    · exact absurd h Outcome.bail_ne_ok
    · simp only [Outcome.bind_eq_ok, Outcome.okOr_eq_ok] at h
      obtain ⟨kid, hkid, hfind⟩ := h
      exact .trusted hjwk hkid hfind

/-- **A token is accepted under a trusted or an endorsed key alone**, with the algorithm that the
key names. -/
theorem verify_provenance (hJ : J.Correct Verifies SignedBy) (hinsecure : V.insecureKey = false)
    {token : String} {claims : Json} (h : V.verify token = .ok claims) :
    ∃ header key keyAlg alg, J.decodeHeader token = .ok header ∧
      key.keyAlgorithm = some keyAlg ∧
      J.algorithmFromStr (J.keyAlgorithmToString keyAlg) = .ok alg ∧ header.alg = alg ∧
      Verifies token key alg ∧ Provenance SignedBy V header key := by
  simp only [JwkAttestationTokenVerifier.verify, Outcome.bind_eq_ok, Outcome.context_eq_ok,
    Outcome.ofExcept_eq_ok, Outcome.okOr_eq_ok] at h
  obtain ⟨header, hheader, key, hkey, keyAlg, hkeyAlg, alg, halg, dkey, hdkey, hdecode⟩ := h
  obtain ⟨hheaderAlg, hverifies⟩ := hJ.decode _ _ _ _ _ _ hheader hdkey hdecode
  exact ⟨header, key, keyAlg, alg, hheader, hkeyAlg, halg, hheaderAlg, hverifies,
    getVerificationJwk_eq_ok hJ hinsecure hkey⟩

end Provenance

/-- An RSA key with a certificate of its own. -/
def exampleJwk : Jwk Unit := ⟨some (), none, some ["AAAA"], .RSA "AQ" "AQAB"⟩

/-- A token that is signed by the key of its header. -/
def exampleJwt : Jwt where
  KeyAlgorithm := Unit
  keyAlgorithmToString _ := "RS256"
  Algorithm := String
  algorithmFromStr := .ok
  decodeHeader token :=
    if token = "token" then .ok ⟨"RS256", some exampleJwk, none⟩ else .error "InvalidToken"
  DecodingKey := Option PKey
  decodingKeyFromJwk key := .ok (publicKeyOf key.algorithm)
  decode token key alg :=
    if token = "token" ∧ key = some (.rsa 1 65537) ∧ alg = "RS256" then .ok (.object [])
    else .error "InvalidSignature"
  checkRsa _ _ := .ok ()
  checkP256 _ _ := .ok ()
  X509 := Bytes
  fromDer := .ok
  publicKey _ := .ok (.rsa 1 65537)
  verifyCert trusted leaf _ := .ok (decide (leaf ∈ trusted))
  getJwksFromFileOrUrl _ := .error "unavailable"
  readCert _ := .bail "unavailable"
  TeePubKey := Json
  teePubKeyFromValue := .ok

def exampleVerifies (token : String) (key : Jwk Unit) (alg : String) : Prop :=
  token = "token" ∧ publicKeyOf key.algorithm = some (.rsa 1 65537) ∧ alg = "RS256"

theorem mem_of_verifyCert {trusted : List Bytes} {leaf : Bytes} {chain : List Bytes}
    (h : exampleJwt.verifyCert trusted leaf chain = .ok true) : leaf ∈ trusted :=
  of_decide_eq_true (Except.ok.inj h)

theorem exampleJwt_correct :
    Jwt.Correct exampleJwt exampleVerifies fun _ _ => False where
  decode token header key dkey alg claims hheader hdkey hdecode := by
    cases hdkey
    simp only [exampleJwt] at hheader hdecode
    split_ifs at hheader hdecode with htoken hsigned
    cases hheader
    exact ⟨hsigned.2.2.symm, hsigned⟩
  verifyCert trusted leaf chain h := by
    exact .anchor (mem_of_verifyCert h)

/-- The token is accepted under its endorsed key. -/
theorem verify_provenance_example :
    JwkAttestationTokenVerifier.verify (J := exampleJwt) ⟨[], [[0, 0, 0]], false⟩ "token" =
      .ok (.object []) ∧
    ∃ header key, exampleJwt.decodeHeader "token" = .ok header ∧
      exampleVerifies "token" key header.alg ∧
      Provenance (J := exampleJwt) (fun _ _ => False) ⟨[], [[0, 0, 0]], false⟩ header key := by
  have htoken : JwkAttestationTokenVerifier.verify (J := exampleJwt) ⟨[], [[0, 0, 0]], false⟩
      "token" = .ok (.object []) := by
    rfl
  obtain ⟨header, key, _, _, hheader, -, -, rfl, hverifies, hprovenance⟩ :=
    verify_provenance exampleJwt_correct rfl htoken
  exact ⟨htoken, header, key, hheader, hverifies, hprovenance⟩

end Trustmee.Kbs
