import Trustmee.Verifier.Nvidia

/-!
# The tokens of the remote service

`validate_jwt` and the claims of a validated response. The signature is checked by the
`jsonwebtoken` crate, which reads the payload in the URL-safe alphabet; `get_jwt_payload` reads the
same payload in the standard one.
-/

namespace Trustmee.Nvidia

/-- What is taken from the `jsonwebtoken` crate. -/
structure JsonWebToken where
  Jwk : Type
  DecodingKey : Type
  /-- The `kid` of `decode_header`. -/
  decodeHeader : String → Except String (Option String)
  /-- `DecodingKey::from_jwk`. -/
  fromJwk : Jwk → Except String DecodingKey
  /-- `decode::<Claims>`, with `Validation::new(Algorithm::ES384)`. -/
  decode : String → DecodingKey → Except String Unit

variable (J : JsonWebToken)

/-- `get_jwt_kid`. -/
def getJwtKid (jwt : String) : Except String String :=
  match J.decodeHeader jwt with
  | .ok (some kid) => .ok kid
  | .ok none => .error "Could not find KID"
  | .error e => .error e

/-- `validate_jwt`, given `NrasJwks::get`. -/
def validateJwt (get : String → Option J.Jwk) (jwt : String) : Except String Unit := do
  let kid ← getJwtKid J jwt
  let jwk ← (get kid).elim (.error "Could not find KID in JWKs") .ok
  let decodingKey ← J.fromJwk jwk
  J.decode jwt decodingKey

/-! ## Payloads -/

/-- The token has three parts, and its payload is decoded in the URL-safe alphabet. -/
def HasPayload (jwt : String) (payloadBytes : Bytes) : Prop :=
  ∃ header payload signature, splitChar jwt '.' = [header, payload, signature] ∧
    Base64.decodeUrlSafeNoPad payload = some payloadBytes

/-- The crate accepts tokens in the compact form alone: three parts in base64url without padding. -/
def JsonWebToken.Compact : Prop :=
  ∀ jwt decodingKey, J.decode jwt decodingKey = .ok () → ∃ payloadBytes, HasPayload jwt payloadBytes

/-- The payload of a token, as the crate reads it. -/
def IsPayload (serde : SerdeJson) (jwt : String) (payload : Json) : Prop :=
  ∃ payloadBytes, HasPayload jwt payloadBytes ∧ serde.fromSlice .ok payloadBytes = .ok payload

/-- The payload has neither of the symbols that the URL-safe alphabet alone has. -/
def Plain (jwt : String) : Prop :=
  ∀ header payload signature, splitChar jwt '.' = [header, payload, signature] →
    '-' ∉ payload.toList ∧ '_' ∉ payload.toList

variable {J} {E : Env} {jwt : String} {payloadBytes : Bytes} {v : Json}

theorem HasPayload.unique (h : HasPayload jwt payloadBytes) {payloadBytes' : Bytes}
    (h' : HasPayload jwt payloadBytes') : payloadBytes = payloadBytes' := by
  obtain ⟨header, payload, signature, hsplit, hdecode⟩ := h
  obtain ⟨header', payload', signature', hsplit', hdecode'⟩ := h'
  rw [hsplit] at hsplit'
  obtain ⟨-, rfl, -⟩ : header = header' ∧ payload = payload' ∧ signature = signature' := by
    simpa using hsplit'
  rw [hdecode] at hdecode'
  exact Option.some.inj hdecode'

theorem exceptBind_eq_ok {α β : Type} {x : Except String α} {f : α → Except String β} {b : β} :
    (x >>= f) = .ok b ↔ ∃ a, x = .ok a ∧ f a = .ok b := by
  cases x with
  | ok a => exact ⟨fun h => ⟨a, rfl, h⟩, fun ⟨_, ha, h⟩ => by cases ha; exact h⟩
  | error e => exact iff_of_false nofun fun ⟨_, ha, _⟩ => nomatch ha

/-- A token that is validated has a payload. -/
theorem exists_hasPayload (hcompact : J.Compact) {get : String → Option J.Jwk}
    (h : validateJwt J get jwt = .ok ()) : ∃ payloadBytes, HasPayload jwt payloadBytes := by
  obtain ⟨kid, -, h⟩ := exceptBind_eq_ok.1 h
  obtain ⟨jwk, -, h⟩ := exceptBind_eq_ok.1 h
  obtain ⟨decodingKey, -, h⟩ := exceptBind_eq_ok.1 h
  exact hcompact jwt decodingKey h

/-- `get_jwt_payload` of a token with a payload. -/
theorem getJwtPayload_of_hasPayload (h : HasPayload jwt payloadBytes) :
    getJwtPayload E jwt = .ok v ↔
      Plain jwt ∧ E.serde.fromStr .ok (fromUtf8Lossy payloadBytes) = .ok v := by
  obtain ⟨header, payload, signature, hsplit, hdecode⟩ := h
  have hplain : Plain jwt ↔ ¬ ('-' ∈ payload.toList ∨ '_' ∈ payload.toList) := by
    rw [not_or]
    constructor
    · intro hplain
      exact hplain header payload signature hsplit
    · intro hsymbols header' payload' signature' hsplit'
      rw [hsplit] at hsplit'
      obtain ⟨-, rfl, -⟩ : header = header' ∧ payload = payload' ∧ signature = signature' := by
        simpa using hsplit'
      exact hsymbols
  simp only [getJwtPayload, hsplit, Base64.decodeNoPad_of_urlSafe hdecode, hplain]
  by_cases hsymbols : '-' ∈ payload.toList ∨ '_' ∈ payload.toList
  · rw [if_pos hsymbols]
    exact iff_of_false Outcome.bail_ne_ok fun hand => hand.1 hsymbols
  · rw [if_neg hsymbols, and_iff_right hsymbols, Outcome.okOr, Outcome.ok_bind,
      Outcome.ofExcept_eq_ok]

/-- A payload that is read in both alphabets is the same value. -/
theorem IsPayload.getJwtPayload_iff (h : IsPayload E.serde jwt v) :
    getJwtPayload E jwt = .ok v ↔ Plain jwt := by
  obtain ⟨payloadBytes, hpayload, hread⟩ := h
  rw [getJwtPayload_of_hasPayload hpayload, and_iff_left]
  unfold SerdeJson.fromSlice at hread
  cases htext : fromUtf8 payloadBytes with
  | none =>
    rw [htext] at hread
    cases hread
  | some text =>
    rw [htext] at hread
    rw [fromUtf8_eq_some.1 htext, fromUtf8Lossy_toUtf8]
    exact hread

/-! ## Claims -/

/-- The payload of the EAT, with the overall result of the token. -/
def withOverallResult (m : Json.Map) (jwtClaims : Json) : Json.Map :=
  match jwtClaims.get "x-nvidia-overall-att-result" with
  | some overallResult => m.insert "x-nvidia-overall-att-result" overallResult
  | none => m

variable (E) in
/-- The claims of a response are made of the payloads that its tokens were validated with. -/
def ClaimsValidated (response : NrasResponse) : Prop :=
  ∃ (m : Json.Map) (jwtClaims : Json), IsPayload E.serde response.eat (.object m) ∧
    IsPayload E.serde response.jwt jwtClaims ∧
      getJwtPayload E response.eat = .ok (.object m) ∧
        getJwtPayload E response.jwt = .ok jwtClaims ∧
          NrasResponse.claims E response = .ok (.object (withOverallResult m jwtClaims))

variable (E) in
/-- The payloads are in the symbols that both alphabets have, and they are values of `serde_json`,
the EAT's an object. -/
structure PlainResponse (response : NrasResponse) : Prop where
  eat : Plain response.eat
  jwt : Plain response.jwt
  eatObject : ∀ payloadBytes, HasPayload response.eat payloadBytes →
    ∃ m : Json.Map, E.serde.fromSlice .ok payloadBytes = .ok (.object m)
  jwtValue : ∀ payloadBytes, HasPayload response.jwt payloadBytes →
    ∃ v, E.serde.fromSlice .ok payloadBytes = .ok v

theorem claims_of_payloads {response : NrasResponse} {m : Json.Map} {jwtClaims : Json}
    (heat : getJwtPayload E response.eat = .ok (.object m))
    (hjwt : getJwtPayload E response.jwt = .ok jwtClaims) :
    NrasResponse.claims E response = .ok (.object (withOverallResult m jwtClaims)) := by
  rw [NrasResponse.claims, heat, Outcome.ok_bind, hjwt, Outcome.ok_bind, addOverallResult,
    withOverallResult]
  cases jwtClaims.get "x-nvidia-overall-att-result" <;> rfl

theorem ClaimsValidated.plainResponse {response : NrasResponse} (h : ClaimsValidated E response) :
    PlainResponse E response := by
  obtain ⟨m, jwtClaims, heat, hjwt, heatPayload, hjwtPayload, -⟩ := h
  refine ⟨heat.getJwtPayload_iff.1 heatPayload, hjwt.getJwtPayload_iff.1 hjwtPayload, ?_, ?_⟩
  · intro payloadBytes hpayload
    obtain ⟨payloadBytes', hpayload', hread⟩ := heat
    obtain rfl := hpayload.unique hpayload'
    exact ⟨m, hread⟩
  · intro payloadBytes hpayload
    obtain ⟨payloadBytes', hpayload', hread⟩ := hjwt
    obtain rfl := hpayload.unique hpayload'
    exact ⟨jwtClaims, hread⟩

/-- A validated response with plain payloads has their claims. -/
theorem PlainResponse.claimsValidated (hcompact : J.Compact) {jwks : E.NrasJwks}
    {get : String → Option J.Jwk} (hE : E.validateJwt jwks = validateJwt J get)
    {response : NrasResponse} (h : NrasResponse.validate E jwks response = .ok ())
    (hplain : PlainResponse E response) : ClaimsValidated E response := by
  obtain ⟨hjwt, heat⟩ := Outcome.check_eq_ok.1 h
  rw [Outcome.ofExcept_eq_ok, hE] at hjwt heat
  obtain ⟨eatBytes, heat⟩ := exists_hasPayload hcompact heat
  obtain ⟨jwtBytes, hjwt⟩ := exists_hasPayload hcompact hjwt
  obtain ⟨m, hm⟩ := hplain.eatObject eatBytes heat
  obtain ⟨jwtClaims, hclaims⟩ := hplain.jwtValue jwtBytes hjwt
  have heat : IsPayload E.serde response.eat (.object m) := ⟨eatBytes, heat, hm⟩
  have hjwt : IsPayload E.serde response.jwt jwtClaims := ⟨jwtBytes, hjwt, hclaims⟩
  have heatPayload := heat.getJwtPayload_iff.2 hplain.eat
  have hjwtPayload := hjwt.getJwtPayload_iff.2 hplain.jwt
  exact ⟨m, jwtClaims, heat, hjwt, heatPayload, hjwtPayload,
    claims_of_payloads heatPayload hjwtPayload⟩

/-- **The claims of a validated response are the validated claims exactly where its payloads are
plain**, and `get_jwt_payload` finds the payload of a token exactly where it is plain. -/
theorem claimsValidated_iff (hcompact : J.Compact) {jwks : E.NrasJwks}
    {get : String → Option J.Jwk} (hE : E.validateJwt jwks = validateJwt J get) :
    (∀ jwt payload, IsPayload E.serde jwt payload →
      (getJwtPayload E jwt = .ok payload ↔ Plain jwt)) ∧
    ∀ response, NrasResponse.validate E jwks response = .ok () →
      (ClaimsValidated E response ↔ PlainResponse E response) := by
  refine ⟨fun jwt payload h => h.getJwtPayload_iff, fun response h => ?_⟩
  exact ⟨ClaimsValidated.plainResponse, PlainResponse.claimsValidated hcompact hE h⟩

/-! ## Tokens of some issuer -/

/-- The claims of a token of `iss` that expires in the year 2100. -/
def issuedClaims (iss : String) : Json := .object
  [("exp", .number (.int 4102444800)), ("iat", .number (.int 1)), ("iss", .string iss),
    ("nbf", .number (.int 1))]

def claimsText (iss : String) : String :=
  "\x7b\"exp\":4102444800,\"iat\":1,\"iss\":\"" ++ iss ++ "\",\"nbf\":1\x7d"

/-- A deserializer of one text. -/
def issuedSerde (iss : String) : SerdeJson where
  fromStr deserialize s := if s = claimsText iss then deserialize (issuedClaims iss) else .error "EOF"

/-- The check of `exp`, with its leeway of a minute. -/
def validateExp (now : ℤ) (claims : Json) : Except String Unit :=
  match claims.get "exp" with
  | some (.number (.int exp)) => if exp < now - 60 then .error "ExpiredSignature" else .ok ()
  | _ => .error "Missing required claim: exp"

/-- A crate that accepts the compact form with any signature, before the token expires. -/
def anySignature (serde : SerdeJson) (now : ℤ) : JsonWebToken where
  Jwk := Unit
  DecodingKey := Unit
  decodeHeader _ := .ok (some "k")
  fromJwk := .ok
  decode jwt _ :=
    match splitChar jwt '.' with
    | [_, payload, _] =>
      match Base64.decodeUrlSafeNoPad payload with
      | some payloadBytes => serde.fromSlice .ok payloadBytes >>= validateExp now
      | none => .error "InvalidToken"
    | _ => .error "InvalidToken"

theorem compact_anySignature (serde : SerdeJson) (now : ℤ) :
    (anySignature serde now).Compact := by
  intro jwt _ h
  simp only [anySignature] at h
  split at h
  · next header payload signature hsplit =>
    split at h
    · next payloadBytes hdecode => exact ⟨payloadBytes, header, payload, signature, hsplit, hdecode⟩
    · cases h
  · cases h

/-- A token that has not expired is validated. -/
theorem validateJwt_anySignature {serde : SerdeJson} {now : ℤ} {claims : Json}
    (hpayload : HasPayload jwt payloadBytes) (hread : serde.fromSlice .ok payloadBytes = .ok claims)
    (hexp : validateExp now claims = .ok ()) :
    validateJwt (anySignature serde now) (fun _ => some ()) jwt = .ok () := by
  obtain ⟨header, payload, signature, hsplit, hdecode⟩ := hpayload
  change (anySignature serde now).decode jwt () = .ok ()
  simp only [anySignature, hsplit, hdecode]
  exact exceptBind_eq_ok.2 ⟨claims, hread, hexp⟩

/-- An environment where the claims of a token of `iss` are read, in the autumn of 2025. -/
def tokenEnv (iss : String) : Env where
  serde := issuedSerde iss
  archFromValue _ := .ok .Hopper
  tryNew _ _ _ _ := .bail "Attestation report data is too small"
  NrasJwks := Unit
  fetchJwks := .ok ()
  validateJwt _ := validateJwt (anySignature (issuedSerde iss) 1760000000) fun _ => some ()
  post _ _ := .error "no route to host"

/-- A token with a payload. -/
def tokenWith (payload : String) : String :=
  "eyJhbGciOiJFUzM4NCIsImtpZCI6ImsifQ" ++ "." ++ payload ++ "." ++ "c2ln"

theorem splitChar_dots {header payload signature : String} (hheader : '.' ∉ header.toList)
    (hpayload : '.' ∉ payload.toList) (hsignature : '.' ∉ signature.toList) :
    splitChar (header ++ "." ++ payload ++ "." ++ signature) '.' =
      [header, payload, signature] := by
  have htoList : (header ++ "." ++ payload ++ "." ++ signature).toList =
      List.intercalate ['.'] [header.toList, payload.toList, signature.toList] := by
    simp [List.intercalate, List.intersperse]
  rw [splitChar, htoList, List.splitOn_intercalate]
  · simp
  · simp only [List.mem_cons, List.not_mem_nil, or_false]
    rintro l (rfl | rfl | rfl)
    · exact hheader
    · exact hpayload
    · exact hsignature
  · simp

theorem splitChar_tokenWith {payload : String} (h : '.' ∉ payload.toList) :
    splitChar (tokenWith payload) '.' =
      ["eyJhbGciOiJFUzM4NCIsImtpZCI6ImsifQ", payload, "c2ln"] :=
  splitChar_dots (by decide) h (by decide)

theorem fromSlice_claimsText (iss : String) :
    (issuedSerde iss).fromSlice .ok (toUtf8 (claimsText iss)) = .ok (issuedClaims iss) := by
  rw [SerdeJson.fromSlice, fromUtf8_toUtf8]
  dsimp only [issuedSerde]
  rw [if_pos rfl]

/-- Tokens with the claims of an issuer are validated. -/
theorem validate_tokenWith {iss payload header signature : String}
    (hsplit : splitChar (tokenWith payload) '.' = [header, payload, signature])
    (hdecode : Base64.decodeUrlSafeNoPad payload = some (toUtf8 (claimsText iss))) :
    NrasResponse.validate (tokenEnv iss) () ⟨tokenWith payload, tokenWith payload⟩ = .ok () := by
  have hexp : validateExp 1760000000 (issuedClaims iss) = .ok () := by
    have hget : (issuedClaims iss).get "exp" = some (.number (.int 4102444800)) := rfl
    rw [validateExp, hget]
    exact if_neg (by decide)
  have hvalid : (tokenEnv iss).validateJwt () (tokenWith payload) = .ok () :=
    validateJwt_anySignature ⟨_, _, _, hsplit, hdecode⟩ (fromSlice_claimsText iss) hexp
  exact Outcome.check_eq_ok.2 ⟨Outcome.ofExcept_eq_ok.2 hvalid, Outcome.ofExcept_eq_ok.2 hvalid⟩

/-- The claims of a token whose payload is plain. -/
theorem claimsValidated_plain : ClaimsValidated (tokenEnv "n")
    ⟨tokenWith "eyJleHAiOjQxMDI0NDQ4MDAsImlhdCI6MSwiaXNzIjoibiIsIm5iZiI6MX0",
      tokenWith "eyJleHAiOjQxMDI0NDQ4MDAsImlhdCI6MSwiaXNzIjoibiIsIm5iZiI6MX0"⟩ := by
  have hsplit :
      splitChar (tokenWith "eyJleHAiOjQxMDI0NDQ4MDAsImlhdCI6MSwiaXNzIjoibiIsIm5iZiI6MX0") '.' =
        ["eyJhbGciOiJFUzM4NCIsImtpZCI6ImsifQ",
          "eyJleHAiOjQxMDI0NDQ4MDAsImlhdCI6MSwiaXNzIjoibiIsIm5iZiI6MX0", "c2ln"] :=
    splitChar_tokenWith (by decide)
  have hdecode :
      Base64.decodeUrlSafeNoPad "eyJleHAiOjQxMDI0NDQ4MDAsImlhdCI6MSwiaXNzIjoibiIsIm5iZiI6MX0" =
        some (toUtf8 (claimsText "n")) := by
    rw [toUtf8_eq_flatMap]
    decide
  have hplain :
      Plain (tokenWith "eyJleHAiOjQxMDI0NDQ4MDAsImlhdCI6MSwiaXNzIjoibiIsIm5iZiI6MX0") := by
    intro header payload signature h
    rw [hsplit] at h
    cases h
    decide
  have hread (payloadBytes : Bytes)
      (h : HasPayload (tokenWith "eyJleHAiOjQxMDI0NDQ4MDAsImlhdCI6MSwiaXNzIjoibiIsIm5iZiI6MX0")
        payloadBytes) :
      ∃ m : Json.Map, (tokenEnv "n").serde.fromSlice .ok payloadBytes = .ok (.object m) := by
    obtain rfl := h.unique ⟨_, _, _, hsplit, hdecode⟩
    exact ⟨_, fromSlice_claimsText "n"⟩
  refine ((claimsValidated_iff (compact_anySignature _ _) rfl).2 _
    (validate_tokenWith hsplit hdecode)).2 ⟨hplain, hplain, hread, ?_⟩
  intro payloadBytes h
  obtain ⟨m, hm⟩ := hread payloadBytes h
  exact ⟨_, hm⟩

/-- A validated response whose payloads have a symbol of the URL-safe alphabet does not have their
claims. -/
theorem not_claimsValidated_urlSafe :
    NrasResponse.validate (tokenEnv "~~~") ()
        ⟨tokenWith "eyJleHAiOjQxMDI0NDQ4MDAsImlhdCI6MSwiaXNzIjoifn5-IiwibmJmIjoxfQ",
          tokenWith "eyJleHAiOjQxMDI0NDQ4MDAsImlhdCI6MSwiaXNzIjoifn5-IiwibmJmIjoxfQ"⟩ = .ok () ∧
      ¬ ClaimsValidated (tokenEnv "~~~")
        ⟨tokenWith "eyJleHAiOjQxMDI0NDQ4MDAsImlhdCI6MSwiaXNzIjoifn5-IiwibmJmIjoxfQ",
          tokenWith "eyJleHAiOjQxMDI0NDQ4MDAsImlhdCI6MSwiaXNzIjoifn5-IiwibmJmIjoxfQ"⟩ := by
  have hsplit :
      splitChar (tokenWith "eyJleHAiOjQxMDI0NDQ4MDAsImlhdCI6MSwiaXNzIjoifn5-IiwibmJmIjoxfQ") '.' =
        ["eyJhbGciOiJFUzM4NCIsImtpZCI6ImsifQ",
          "eyJleHAiOjQxMDI0NDQ4MDAsImlhdCI6MSwiaXNzIjoifn5-IiwibmJmIjoxfQ", "c2ln"] :=
    splitChar_tokenWith (by decide)
  have hdecode :
      Base64.decodeUrlSafeNoPad "eyJleHAiOjQxMDI0NDQ4MDAsImlhdCI6MSwiaXNzIjoifn5-IiwibmJmIjoxfQ" =
        some (toUtf8 (claimsText "~~~")) := by
    rw [toUtf8_eq_flatMap]
    decide
  refine ⟨validate_tokenWith hsplit hdecode, fun h => ?_⟩
  have hminus := (h.plainResponse.eat _ _ _ hsplit).1
  exact absurd hminus (by decide)

end Trustmee.Nvidia
