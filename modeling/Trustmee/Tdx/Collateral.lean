import Trustmee.Foundations.FileSystem
import Trustmee.Foundations.JsonText
import Trustmee.Foundations.Traced
import Trustmee.Tdx.Backends

/-!
# The cache of collateral

`dcap_qvl` verifies a quote with collateral that the native verifier and the component keep in a
file for each kind of platform. Both return what the file has when it is fresh, and else fetch the
collateral and write the file. Fresh is what the TCB info says: its next update has not passed. The
collateral counts as expired when the next update of the TCB info or of the QE identity has passed,
so collateral that is expired by its QE identity stays in use (`servesUnexpired_iff`).
-/

namespace Trustmee.Tdx

/-- `QuoteCollateralV3`. -/
structure QuoteCollateralV3 extends QuoteCollateral where
  pckCrlIssuerChain : String
  rootCaCrl : Bytes
  pckCrl : Bytes
  tcbInfoIssuerChain : String
  tcbInfoSignature : Bytes
  qeIdentityIssuerChain : String
  qeIdentitySignature : Bytes
  pckCertificateChain : Option String

namespace Collateral

/-- The calls that leave the verifier. -/
inductive Call
  | read (path : String)
  | write (path : String)
  | fetch
  deriving DecidableEq

/-- A computation over the files, with its calls. -/
abbrev CacheM (α : Type) := Traced FileSystem Call Error α

/-- What both verifiers use of other crates and of their surroundings. -/
structure Env where
  serde : SerdeJson
  Quote : Type
  /-- `Quote::parse`. -/
  parseQuote : Bytes → Except String Quote
  /-- `Quote::ca`. -/
  ca : Quote → Except String String
  /-- `Quote::fmspc`. -/
  fmspc : Quote → Except String Bytes
  /-- `Header::is_sgx`. -/
  isSgx : Quote → Bool
  sha256 : Bytes → Bytes
  /-- The time that a text of RFC 3339 says, in seconds, as `time` or `chrono` reads it. -/
  parseRfc3339 : String → Option ℤ
  /-- `serde_json::to_vec` of collateral. -/
  toVec : QuoteCollateralV3 → Except String Bytes
  /-- `fs::create_dir_all` of the directory of a path. -/
  createParent : FileSystem → String → Except Error FileSystem
  /-- `DCAP_QVL_DISABLE_CACHE`. -/
  disableCache : Option String
  /-- `now_secs`. -/
  now : ℕ

variable (E : Env)

/-! ## The times -/

/-- `max(0) as u64`. -/
def unixSecs (timestamp : ℤ) : ℕ := (max timestamp 0).toNat

/-- `cached_collateral_is_fresh`. -/
def cachedCollateralIsFresh (collateral : QuoteCollateralV3) (nowSecs : ℕ) : Bool :=
  match E.serde.fromStr .ok collateral.tcbInfo with
  | .error _ => false
  | .ok tcbInfoJson =>
    let nextUpdate := ((tcbInfoJson.get "nextUpdate").bind Json.asStr).getD ""
    match E.parseRfc3339 nextUpdate with
    | some timestamp => nowSecs ≤ unixSecs timestamp
    | none => false

/-- `parse_next_update_secs`. -/
def parseNextUpdateSecs (json : String) : Option ℕ := do
  let value ← (E.serde.fromStr .ok json).toOption
  let nextUpdate ← (value.get "nextUpdate").bind Json.asStr
  let parsed ← E.parseRfc3339 nextUpdate
  return unixSecs parsed

/-- `collateral_expired`. -/
def collateralExpired (collateral : QuoteCollateralV3) (now : ℕ) : Bool :=
  [parseNextUpdateSecs E collateral.tcbInfo, parseNextUpdateSecs E collateral.qeIdentity].any
    fun nextUpdate => nextUpdate.any fun nextUpdate => decide (nextUpdate < now)

/-! ## The cache file -/

/-- `cache_disabled`. -/
def cacheDisabled : Bool :=
  E.disableCache.any fun v =>
    String.ofList (v.toList.map Char.toLower) ∈ ["1", "true", "yes", "on"]

/-- `cache_key`. -/
def cacheKey (baseUrl tee fmspc ca : String) : String :=
  "collateral_" ++ hexEncode ((E.sha256 (toUtf8 baseUrl)).take 4) ++ "_" ++ tee ++ "_" ++ fmspc ++
    "_" ++ ca ++ ".json"

/-- `trim`. -/
def trim (s : String) : String :=
  String.ofList (((s.toList.dropWhile isWhitespace).reverse.dropWhile isWhitespace).reverse)

/-- What is left behind the repetitions of a pattern; there are at most as many as characters. -/
def dropPattern (pattern : List Char) : ℕ → List Char → List Char
  | 0, text => text
  | n + 1, text =>
    if pattern.isPrefixOf text then dropPattern pattern n (text.drop pattern.length) else text

/-- `trim_end_matches` of a text that is not empty. -/
def trimEndPattern (s pattern : String) : String :=
  String.ofList (dropPattern pattern.toList.reverse s.length s.toList.reverse).reverse

/-- `normalize_base_url`, and the URL that `PcsEndpoints::new` keeps. -/
def normalizeBaseUrl (pccsUrl : String) : String :=
  trimEndPattern (trimEndPattern (trimEndMatches (trim pccsUrl) '/') "/sgx/certification/v4")
    "/tdx/certification/v4"

def defaultPcsUrl : String := "https://api.trustedservices.intel.com"

/-- `PcsEndpoints`. -/
structure PcsEndpoints where
  baseUrl : String
  tee : String
  fmspc : String
  ca : String

/-- A result of another crate with its context. -/
def withContext {α : Type} (x : Except String α) (msg : String) : Except Error α :=
  x.mapError fun e => [msg, e]

/-- What the collateral of a quote is found by. -/
def endpoints (pccsUrl : String) (quote : Bytes) : Except Error PcsEndpoints := do
  let quoteObj ← withContext (E.parseQuote quote) "parse quote"
  let ca ← withContext (E.ca quoteObj) "get CA"
  let fmspc ← withContext (E.fmspc quoteObj) "get FMSPC"
  return {
    baseUrl := normalizeBaseUrl pccsUrl
    tee := if E.isSgx quoteObj then "sgx" else "tdx"
    fmspc := String.ofList ((hexEncode fmspc).toList.map Char.toUpper)
    ca := ca }

/-- The path of the cache file. -/
def cachePath (cacheDir : String) (e : PcsEndpoints) : String :=
  FileSystem.join cacheDir (cacheKey E e.baseUrl e.tee e.fmspc e.ca)

/-- `read_cache`, given how the file's bytes are read. -/
def readCache (parse : Bytes → Option QuoteCollateralV3) (path : String) :
    CacheM (Option QuoteCollateralV3) := fun fs =>
  ⟨.ok ((fs.read path).toOption.bind parse), [.read path], fs⟩

/-- `write_cache`. -/
def writeCache (path : String) (collateral : QuoteCollateralV3) : CacheM Unit := do
  Traced.call (fun fs =>
    match E.createParent fs path with
    | .ok fs' => (.ok (), fs')
    | .error e => (.error e, fs)) fun _ => .write path
  let data ← Traced.lift (withContext (E.toVec collateral) "serialize collateral")
  Traced.call (fun fs =>
    match fs.write path data with
    | .ok fs' => (.ok (), fs')
    | .error e => (.error ["write " ++ path, e.display], fs)) fun _ => .write path

/-- The collateral from the network. -/
def fetchCollateral (fetched : Except Error QuoteCollateralV3) : CacheM QuoteCollateralV3 :=
  Traced.call (fun fs => (fetched, fs)) fun _ => .fetch

/-- What `get_collateral_cached` does with the path of the cache file. -/
def cachedOrFetched (parse : Bytes → Option QuoteCollateralV3)
    (fetched : Except Error QuoteCollateralV3) (path : String) : CacheM QuoteCollateralV3 := do
  let cached ← readCache parse path
  match cached.filter fun cached => cachedCollateralIsFresh E cached E.now with
  | some cached => return cached
  | none =>
    let collateral ← fetchCollateral fetched
    writeCache E path collateral
    return collateral

/-! ## The native verifier -/

/-- The native verifier. -/
structure Native extends Env where
  /-- `serde_json::from_slice::<QuoteCollateralV3>`. -/
  collateralFromSlice : Bytes → Option QuoteCollateralV3
  /-- `get_collateral_with_backoff`. -/
  getCollateralWithBackoff : String → Bytes → Except Error QuoteCollateralV3

/-- The URL that is asked, without a choice of its own the default. -/
def Native.pccsUrl (pccsUrl : Option String) : String :=
  ((pccsUrl.map trim).filter fun s => s ≠ "").getD defaultPcsUrl

/-- `get_collateral_cached` of the native verifier. -/
def Native.getCollateralCached (N : Native) (pccsUrl : Option String) (quote : Bytes)
    (cacheDir : String) : CacheM QuoteCollateralV3 :=
  let pccsUrl := Native.pccsUrl pccsUrl
  if cacheDisabled N.toEnv then fetchCollateral (N.getCollateralWithBackoff pccsUrl quote)
  else do
    let e ← Traced.lift (endpoints N.toEnv pccsUrl quote)
    cachedOrFetched N.toEnv N.collateralFromSlice (N.getCollateralWithBackoff pccsUrl quote)
      (cachePath N.toEnv cacheDir e)

/-! ## The component -/

/-- The component. -/
structure Component extends Env where
  /-- `pem::parse_many`: the tags and the contents of the blocks. -/
  pemParseMany : String → Option (List (String × Bytes))
  /-- `fetch_collateral_uncached`. -/
  fetchCollateralUncached : PcsEndpoints → Except Error QuoteCollateralV3

/-- `decode_hex_string`. -/
def decodeHexString (s : String) : Option Bytes :=
  let filtered := s.toList.filter fun c => !isWhitespace c
  if filtered = [] ∨ (toUtf8 (String.ofList filtered)).length % 2 ≠ 0 ∨
      ¬ filtered.all fun c => (hexValue c).isSome then none
  else hexDecodeChars filtered

/-- `decode_base64_string`. -/
def decodeBase64String (s : String) : Option Bytes :=
  let filtered := s.toList.filter fun c => !isWhitespace c
  if filtered = [] then none
  else (Base64.decode (String.ofList filtered)).filter fun bytes => bytes.head? == some 0x30

/-- `as_u64` of an element, where it fits in a byte. -/
def byteOf : Json → Option UInt8
  | .number (.int n) => if 0 ≤ n ∧ n < 256 then some (UInt8.ofNat n.toNat) else none
  | _ => none

/-- `der_total_len`. -/
def derTotalLen : Bytes → Option ℕ
  | tag :: n :: rest =>
    if tag ≠ 0x30 then none
    else if n = 0x81 then rest.head?.map fun b => 3 + b.toNat
    else if n = 0x82 then
      match rest with
      | high :: low :: _ => some (4 + (high.toNat * 256 + low.toNat))
      | _ => none
    else if n < 0x80 then some (2 + n.toNat)
    else none
  | _ => none

/-- `looks_like_der_crl`. -/
def looksLikeDerCrl (bytes : Bytes) : Bool := derTotalLen bytes == some bytes.length

/-- `trim_der_trailing`, where the bytes do not look like a CRL. -/
def trimDerTrailing (bytes : Bytes) : Bytes :=
  match derTotalLen bytes with
  | some total => if total ≤ bytes.length ∧ 0 < total then bytes.take total else bytes
  | none => bytes

namespace Component

variable (C : Component)

/-- `decode_pem_crl`. -/
def decodePemCrl (s : String) : Option Bytes :=
  if s.toList.tails.any fun text => "BEGIN".toList.isPrefixOf text then do
    let blocks ← C.pemParseMany s
    let block ← blocks.find? fun block => block.1 == "X509 CRL" || block.1 == "CRL"
    return block.2
  else none

/-- What both readers of a CRL make of a text. -/
def decodeText (s : String) : Option Bytes :=
  (C.decodePemCrl s).or ((decodeHexString s).or (decodeBase64String s))

/-- `decode_bytes_value`. -/
def decodeBytesValue : Json → Option Bytes
  | .string s => C.decodeText s
  | .array list => list.mapM byteOf
  | _ => none

/-- `decode_crl_bytes`, and `normalize_crl_bytes`. -/
def normalizeCrlBytes (bytes : Bytes) : Bytes :=
  ((fromUtf8 bytes).bind C.decodeText).getD bytes

/-- What is made of the bytes of a CRL. -/
def crlOf (bytes : Bytes) : Bytes :=
  let bytes := C.normalizeCrlBytes bytes
  if looksLikeDerCrl bytes then bytes else trimDerTrailing bytes

/-- A member that is a text. -/
def textOf (obj : Json.Map) (name : String) : Option String :=
  (Json.Map.get obj name).bind Json.asStr

/-- A member that is bytes. -/
def bytesOf (obj : Json.Map) (name : String) : Option Bytes :=
  (Json.Map.get obj name).bind C.decodeBytesValue

/-- What `read_cache` makes of the file. -/
def parseCache (data : Bytes) : Option QuoteCollateralV3 := do
  let value ← (C.serde.fromSlice .ok data).toOption
  let obj ← value.asObject
  let pckCrlIssuerChain ← textOf obj "pck_crl_issuer_chain"
  let rootCaCrl ← C.bytesOf obj "root_ca_crl"
  let pckCrl ← C.bytesOf obj "pck_crl"
  let tcbInfoIssuerChain ← textOf obj "tcb_info_issuer_chain"
  let tcbInfo ← textOf obj "tcb_info"
  let tcbInfoSignature ← C.bytesOf obj "tcb_info_signature"
  let qeIdentityIssuerChain ← textOf obj "qe_identity_issuer_chain"
  let qeIdentity ← textOf obj "qe_identity"
  let qeIdentitySignature ← C.bytesOf obj "qe_identity_signature"
  let rootCaCrl := C.crlOf rootCaCrl
  let pckCrl := C.crlOf pckCrl
  if looksLikeDerCrl rootCaCrl && looksLikeDerCrl pckCrl then
    some { tcbInfo, qeIdentity, pckCrlIssuerChain, rootCaCrl, pckCrl, tcbInfoIssuerChain,
           tcbInfoSignature, qeIdentityIssuerChain, qeIdentitySignature,
           pckCertificateChain := textOf obj "pck_certificate_chain" }
  else none

/-- `get_collateral_cached` of the component. -/
def getCollateralCached (pccsUrl : Option String) (quote : Bytes) (cacheDir : String) :
    CacheM QuoteCollateralV3 := do
  let e ← Traced.lift (endpoints C.toEnv (pccsUrl.getD defaultPcsUrl) quote)
  if cacheDisabled C.toEnv then fetchCollateral (C.fetchCollateralUncached e)
  else
    cachedOrFetched C.toEnv C.parseCache (C.fetchCollateralUncached e)
      (cachePath C.toEnv cacheDir e)

end Component

/-! ## Fresh and expired -/

/-- An update that is not there, or is not read, has not passed. -/
theorem any_lt_eq_false_iff (nextUpdate : Option ℕ) (now : ℕ) :
    (nextUpdate.any fun nextUpdate => decide (nextUpdate < now)) = false ↔
      ∀ t, nextUpdate = some t → now ≤ t := by
  cases nextUpdate <;> simp

variable {E} in
/-- Collateral is not expired when neither of its updates has passed. -/
theorem collateralExpired_eq_false_iff {collateral : QuoteCollateralV3} {now : ℕ} :
    collateralExpired E collateral now = false ↔
      (∀ t, parseNextUpdateSecs E collateral.tcbInfo = some t → now ≤ t) ∧
        ∀ t, parseNextUpdateSecs E collateral.qeIdentity = some t → now ≤ t := by
  simp [collateralExpired, any_lt_eq_false_iff]

variable {E} in
/-- Collateral is fresh when the update of its TCB info is to come. -/
theorem le_of_cachedCollateralIsFresh {collateral : QuoteCollateralV3} {now t : ℕ}
    (hfresh : cachedCollateralIsFresh E collateral now = true)
    (ht : parseNextUpdateSecs E collateral.tcbInfo = some t) : now ≤ t := by
  simp only [parseNextUpdateSecs, Option.bind_eq_bind, Option.bind_eq_some_iff] at ht
  obtain ⟨value, hvalue, nextUpdate, hnext, parsed, hparsed, hsecs⟩ := ht
  cases hsecs
  cases hread : E.serde.fromStr .ok collateral.tcbInfo with
  | error e =>
    rw [hread] at hvalue
    cases hvalue
  | ok v =>
    obtain rfl : v = value := by simpa [hread, Except.toOption] using hvalue
    have hnext' : ((v.get "nextUpdate").bind Json.asStr).getD "" = nextUpdate := by
      rw [Option.bind_eq_some_iff.2 hnext, Option.getD_some]
    simpa [cachedCollateralIsFresh, hread, hnext', hparsed] using hfresh

/-! ## Calls of either verifier -/

/-- A verifier that keeps collateral. -/
inductive Backend
  | native (N : Native)
  | component (C : Component)

namespace Backend

def env : Backend → Env
  | native N => N.toEnv
  | component C => C.toEnv

/-- The URL that is asked. -/
def url : Backend → Option String → String
  | native _, pccsUrl => Native.pccsUrl pccsUrl
  | component _, pccsUrl => pccsUrl.getD defaultPcsUrl

/-- How the bytes of the cache file are read. -/
def parse : Backend → Bytes → Option QuoteCollateralV3
  | native N => N.collateralFromSlice
  | component C => C.parseCache

/-- `get_collateral_cached`. -/
def getCollateralCached : Backend → Option String → Bytes → String → CacheM QuoteCollateralV3
  | native N => N.getCollateralCached
  | component C => C.getCollateralCached

/-- The path of the cache file for a quote. -/
def path (b : Backend) (pccsUrl : Option String) (quote : Bytes) (cacheDir : String) :
    Except Error String :=
  (endpoints b.env (b.url pccsUrl) quote).map (cachePath b.env cacheDir)

/-- What the cache file has. -/
def cached (b : Backend) (fs : FileSystem) (path : String) : Option QuoteCollateralV3 :=
  (fs.read path).toOption.bind b.parse

end Backend

variable {E} {parse : Bytes → Option QuoteCollateralV3}
  {fetched : Except Error QuoteCollateralV3} {path : String} {fs : FileSystem}

theorem run_readCache :
    (readCache parse path).run fs =
      ⟨.ok ((fs.read path).toOption.bind parse), [.read path], fs⟩ := rfl

/-- Fresh collateral is returned as it is. -/
theorem run_cachedOrFetched_of_fresh {collateral : QuoteCollateralV3}
    (hcached : (fs.read path).toOption.bind parse = some collateral)
    (hfresh : cachedCollateralIsFresh E collateral E.now = true) :
    (cachedOrFetched E parse fetched path).run fs = ⟨.ok collateral, [.read path], fs⟩ := by
  rw [cachedOrFetched, Traced.run_bind_of_ok run_readCache, hcached, Option.filter_some,
    if_pos hfresh]
  rfl

/-- Without fresh collateral it is fetched. -/
theorem fetch_mem_calls
    (hstale : ∀ collateral, (fs.read path).toOption.bind parse = some collateral →
      cachedCollateralIsFresh E collateral E.now = false) :
    .fetch ∈ ((cachedOrFetched E parse fetched path).run fs).calls := by
  have hnone : ((fs.read path).toOption.bind parse).filter
      (fun collateral => cachedCollateralIsFresh E collateral E.now) = none := by
    rw [Option.filter_eq_none_iff]
    intro collateral hcached
    simp [hstale collateral hcached]
  rw [cachedOrFetched, Traced.run_bind_of_ok run_readCache, hnone]
  apply List.mem_append_right
  have hfetch : (fetchCollateral fetched).run fs = ⟨fetched, [.fetch], fs⟩ := rfl
  cases fetched with
  | error e =>
    rw [Traced.run_bind_of_error hfetch]
    exact List.mem_singleton_self _
  | ok collateral =>
    rw [Traced.run_bind_of_ok hfetch]
    exact List.mem_append_left _ (List.mem_singleton_self _)

section Run

variable {b : Backend} {pccsUrl : Option String} {quote : Bytes} {cacheDir : String}

theorem Backend.path_eq_ok :
    b.path pccsUrl quote cacheDir = .ok path ↔
      ∃ e, endpoints b.env (b.url pccsUrl) quote = .ok e ∧ cachePath b.env cacheDir e = path := by
  unfold Backend.path
  cases endpoints b.env (b.url pccsUrl) quote <;> simp [Except.map]

/-- What is found without a call only leads on. -/
theorem run_lift_bind_of_ok {α β : Type} {x : Except Error α} {f : α → CacheM β} {a : α}
    (h : x = .ok a) : (Traced.lift x >>= f).run fs = (f a).run fs := by
  rw [h, Traced.run_bind_of_ok (Traced.run_lift _), List.nil_append]

theorem run_lift_bind_of_error {α β : Type} {x : Except Error α} {f : α → CacheM β} {e : Error}
    (h : x = .error e) : (Traced.lift x >>= f).run fs = ⟨.error e, [], fs⟩ := by
  rw [h, Traced.run_bind_of_error (Traced.run_lift _)]

/-- For a quote that is read, the call goes to the cache, or fetches where the cache is disabled. -/
theorem Backend.exists_run_eq {e : PcsEndpoints}
    (he : endpoints b.env (b.url pccsUrl) quote = .ok e) :
    ∃ fetched, (b.getCollateralCached pccsUrl quote cacheDir).run fs =
      if cacheDisabled b.env then (fetchCollateral fetched).run fs
      else (cachedOrFetched b.env b.parse fetched (cachePath b.env cacheDir e)).run fs := by
  cases b with
  | native N =>
    have hlift : endpoints N.toEnv (Native.pccsUrl pccsUrl) quote = .ok e := he
    refine ⟨N.getCollateralWithBackoff (Native.pccsUrl pccsUrl) quote, ?_⟩
    rw [Backend.getCollateralCached, Native.getCollateralCached, Backend.env, Backend.parse]
    by_cases hdisabled : cacheDisabled N.toEnv = true
    · rw [if_pos hdisabled, if_pos hdisabled]
    · rw [if_neg hdisabled, if_neg hdisabled, run_lift_bind_of_ok hlift]
  | component C =>
    have hlift : endpoints C.toEnv (pccsUrl.getD defaultPcsUrl) quote = .ok e := he
    refine ⟨C.fetchCollateralUncached e, ?_⟩
    rw [Backend.getCollateralCached, Component.getCollateralCached, Backend.env, Backend.parse,
      run_lift_bind_of_ok hlift]
    by_cases hdisabled : cacheDisabled C.toEnv = true
    · rw [if_pos hdisabled, if_pos hdisabled]
    · rw [if_neg hdisabled, if_neg hdisabled]

/-- For a quote that is not read, the call fails, but that the native verifier fetches where the
cache is disabled. -/
theorem Backend.fetch_or_error {e : Error}
    (he : endpoints b.env (b.url pccsUrl) quote = .error e) :
    .fetch ∈ ((b.getCollateralCached pccsUrl quote cacheDir).run fs).calls ∨
      ((b.getCollateralCached pccsUrl quote cacheDir).run fs).result = .error e := by
  cases b with
  | native N =>
    have hlift : endpoints N.toEnv (Native.pccsUrl pccsUrl) quote = .error e := he
    rw [Backend.getCollateralCached, Native.getCollateralCached]
    by_cases hdisabled : cacheDisabled N.toEnv = true
    · rw [if_pos hdisabled]
      exact .inl (List.mem_singleton_self _)
    · rw [if_neg hdisabled, run_lift_bind_of_error hlift]
      exact .inr rfl
  | component C =>
    have hlift : endpoints C.toEnv (pccsUrl.getD defaultPcsUrl) quote = .error e := he
    rw [Backend.getCollateralCached, Component.getCollateralCached,
      run_lift_bind_of_error hlift]
    exact .inr rfl

/-- What a call returns without a fetch is fresh in the cache file. -/
theorem Backend.exists_cached {collateral : QuoteCollateralV3} {calls : List Call}
    {fs' : FileSystem}
    (h : (b.getCollateralCached pccsUrl quote cacheDir).run fs = ⟨.ok collateral, calls, fs'⟩)
    (hfetch : .fetch ∉ calls) :
    cacheDisabled b.env = false ∧ ∃ path, b.path pccsUrl quote cacheDir = .ok path ∧
      b.cached fs path = some collateral ∧
      cachedCollateralIsFresh b.env collateral b.env.now = true := by
  have hnotmem : .fetch ∉ ((b.getCollateralCached pccsUrl quote cacheDir).run fs).calls := by
    rwa [h]
  cases he : endpoints b.env (b.url pccsUrl) quote with
  | error e =>
    rcases b.fetch_or_error he with hmem | herror
    · exact absurd hmem hnotmem
    · rw [h] at herror
      cases herror
  | ok e =>
    obtain ⟨fetched, hrun⟩ := b.exists_run_eq he
    rw [hrun] at hnotmem
    by_cases hdisabled : cacheDisabled b.env = true
    · rw [if_pos hdisabled] at hnotmem
      exact absurd (List.mem_singleton_self _) hnotmem
    · rw [if_neg hdisabled] at hnotmem hrun
      refine ⟨by simpa using hdisabled, _, Backend.path_eq_ok.2 ⟨e, he, rfl⟩, ?_⟩
      by_cases hfresh : ∃ c, b.cached fs (cachePath b.env cacheDir e) = some c ∧
          cachedCollateralIsFresh b.env c b.env.now = true
      · obtain ⟨c, hcached, hfresh⟩ := hfresh
        rw [h, run_cachedOrFetched_of_fresh hcached hfresh] at hrun
        cases hrun
        exact ⟨hcached, hfresh⟩
      · refine absurd (fetch_mem_calls fun c hcached => ?_) hnotmem
        by_contra hnot
        exact hfresh ⟨c, hcached, by simpa using hnot⟩

/-- Collateral that is fresh in the cache file is returned without a fetch. -/
theorem Backend.run_of_fresh {collateral : QuoteCollateralV3}
    (hdisabled : cacheDisabled b.env = false)
    (hpath : b.path pccsUrl quote cacheDir = .ok path)
    (hcached : b.cached fs path = some collateral)
    (hfresh : cachedCollateralIsFresh b.env collateral b.env.now = true) :
    (b.getCollateralCached pccsUrl quote cacheDir).run fs =
      ⟨.ok collateral, [.read path], fs⟩ := by
  obtain ⟨e, he, rfl⟩ := Backend.path_eq_ok.1 hpath
  obtain ⟨fetched, hrun⟩ := b.exists_run_eq he
  rw [hrun, if_neg (by simp [hdisabled]), run_cachedOrFetched_of_fresh hcached hfresh]

/-- Collateral that is stale in the cache file is fetched. -/
theorem Backend.fetch_of_stale {collateral : QuoteCollateralV3}
    (hdisabled : cacheDisabled b.env = false)
    (hpath : b.path pccsUrl quote cacheDir = .ok path)
    (hcached : b.cached fs path = some collateral)
    (hstale : cachedCollateralIsFresh b.env collateral b.env.now = false) :
    .fetch ∈ ((b.getCollateralCached pccsUrl quote cacheDir).run fs).calls := by
  obtain ⟨e, he, rfl⟩ := Backend.path_eq_ok.1 hpath
  obtain ⟨fetched, hrun⟩ := b.exists_run_eq he
  rw [hrun, if_neg (by simp [hdisabled])]
  apply fetch_mem_calls
  intro c hc
  rw [Backend.cached] at hcached
  rw [hcached, Option.some.injEq] at hc
  rw [← hc, hstale]

/-! ## Expired collateral -/

/-- Collateral that is returned without a fetch is not expired, and collateral of the cache file
that is expired is fetched again. -/
structure ServesUnexpired (b : Backend) (pccsUrl : Option String) (quote : Bytes)
    (cacheDir : String) (fs : FileSystem) : Prop where
  unexpired : ∀ collateral calls fs',
    (b.getCollateralCached pccsUrl quote cacheDir).run fs = ⟨.ok collateral, calls, fs'⟩ →
    .fetch ∉ calls → collateralExpired b.env collateral b.env.now = false
  refetched : ∀ path collateral, cacheDisabled b.env = false →
    b.path pccsUrl quote cacheDir = .ok path → b.cached fs path = some collateral →
    collateralExpired b.env collateral b.env.now = true →
    .fetch ∈ ((b.getCollateralCached pccsUrl quote cacheDir).run fs).calls

/-- Where the cache is read, and the TCB info of what it has is to be updated later, the QE identity
is not to have been updated before now. -/
def QeIdentityCurrent (b : Backend) (pccsUrl : Option String) (quote : Bytes) (cacheDir : String)
    (fs : FileSystem) : Prop :=
  ∀ path collateral, cacheDisabled b.env = false → b.path pccsUrl quote cacheDir = .ok path →
    b.cached fs path = some collateral →
    cachedCollateralIsFresh b.env collateral b.env.now = true →
    ∀ t, parseNextUpdateSecs b.env collateral.qeIdentity = some t → b.env.now ≤ t

theorem servesUnexpired_of_current (h : QeIdentityCurrent b pccsUrl quote cacheDir fs) :
    ServesUnexpired b pccsUrl quote cacheDir fs := by
  have hcurrent : ∀ path collateral, cacheDisabled b.env = false →
      b.path pccsUrl quote cacheDir = .ok path → b.cached fs path = some collateral →
      cachedCollateralIsFresh b.env collateral b.env.now = true →
      collateralExpired b.env collateral b.env.now = false := by
    intro path collateral hdisabled hpath hcached hfresh
    rw [collateralExpired_eq_false_iff]
    exact ⟨fun t ht => le_of_cachedCollateralIsFresh hfresh ht,
      h path collateral hdisabled hpath hcached hfresh⟩
  refine ⟨fun collateral calls fs' hrun hfetch => ?_,
    fun path collateral hdisabled hpath hcached hexpired => ?_⟩
  · obtain ⟨hdisabled, path, hpath, hcached, hfresh⟩ := Backend.exists_cached hrun hfetch
    exact hcurrent path collateral hdisabled hpath hcached hfresh
  · apply Backend.fetch_of_stale hdisabled hpath hcached
    by_contra hfresh
    rw [hcurrent path collateral hdisabled hpath hcached (by simpa using hfresh)] at hexpired
    cases hexpired

theorem current_of_servesUnexpired (h : ServesUnexpired b pccsUrl quote cacheDir fs) :
    QeIdentityCurrent b pccsUrl quote cacheDir fs := by
  intro path collateral hdisabled hpath hcached hfresh
  have hrun := Backend.run_of_fresh hdisabled hpath hcached hfresh
  have hexpired := h.unexpired collateral [.read path] fs hrun (by simp)
  exact (collateralExpired_eq_false_iff.1 hexpired).2

/-- **Cached collateral is not expired** exactly when its QE identity is current while its TCB info
is, in the native verifier and in the component, for every content of the files and every time. -/
theorem servesUnexpired_iff (b : Backend) (pccsUrl : Option String) (quote : Bytes)
    (cacheDir : String) (fs : FileSystem) :
    ServesUnexpired b pccsUrl quote cacheDir fs ↔ QeIdentityCurrent b pccsUrl quote cacheDir fs :=
  ⟨current_of_servesUnexpired, servesUnexpired_of_current⟩

end Run

/-! ## Its use in a verification -/

/-- `dcap_qvl` with the collateral of a verifier. -/
def Backend.toDcapQvl (b : Backend) (pccsUrl : Option String) (cacheDir : String) (fs : FileSystem)
    (verify : Bytes → QuoteCollateral → ℕ → Except String VerifiedReport) : DcapQvl where
  getCollateralCached quote :=
    match ((b.getCollateralCached pccsUrl quote cacheDir).run fs).result with
    | .ok collateral => .ok collateral.toQuoteCollateral
    | .error e => .err e
  now := b.env.now
  verify := verify
  parseNextUpdateSecs := parseNextUpdateSecs b.env

/-- A quote that is verified with collateral of the cache file has claims that say whether it is
expired. -/
theorem ecdsaQuoteVerification_of_fresh {b : Backend} {pccsUrl : Option String} {quote : Bytes}
    {cacheDir : String} {verify : Bytes → QuoteCollateral → ℕ → Except String VerifiedReport}
    {collateral : QuoteCollateralV3} {report : VerifiedReport}
    (hdisabled : cacheDisabled b.env = false)
    (hpath : b.path pccsUrl quote cacheDir = .ok path)
    (hcached : b.cached fs path = some collateral)
    (hfresh : cachedCollateralIsFresh b.env collateral b.env.now = true)
    (hverify : verify quote collateral.toQuoteCollateral b.env.now = .ok report) :
    (b.toDcapQvl pccsUrl cacheDir fs verify).ecdsaQuoteVerification quote =
      .ok (.fromVerifiedReport report (collateralExpired b.env collateral b.env.now)) := by
  have hget : (b.toDcapQvl pccsUrl cacheDir fs verify).getCollateralCached quote =
      .ok collateral.toQuoteCollateral := by
    simp only [Backend.toDcapQvl, Backend.run_of_fresh hdisabled hpath hcached hfresh]
  have hreport : (b.toDcapQvl pccsUrl cacheDir fs verify).verify quote
      collateral.toQuoteCollateral (b.toDcapQvl pccsUrl cacheDir fs verify).now = .ok report :=
    hverify
  simp only [DcapQvl.ecdsaQuoteVerification, hget, hreport, Outcome.context, Outcome.ofExcept,
    Outcome.ok_bind]
  rfl

/-! ## The members of the cache file -/

/-- An object with the fields of collateral, the byte fields as hexadecimal texts. -/
structure HasFields (obj : Json.Map) (c : QuoteCollateralV3) : Prop where
  pckCrlIssuerChain : Component.textOf obj "pck_crl_issuer_chain" = some c.pckCrlIssuerChain
  rootCaCrl : Json.Map.get obj "root_ca_crl" = some (.string (hexEncode c.rootCaCrl))
  pckCrl : Json.Map.get obj "pck_crl" = some (.string (hexEncode c.pckCrl))
  tcbInfoIssuerChain : Component.textOf obj "tcb_info_issuer_chain" = some c.tcbInfoIssuerChain
  tcbInfo : Component.textOf obj "tcb_info" = some c.tcbInfo
  tcbInfoSignature :
    Json.Map.get obj "tcb_info_signature" = some (.string (hexEncode c.tcbInfoSignature))
  qeIdentityIssuerChain :
    Component.textOf obj "qe_identity_issuer_chain" = some c.qeIdentityIssuerChain
  qeIdentity : Component.textOf obj "qe_identity" = some c.qeIdentity
  qeIdentitySignature :
    Json.Map.get obj "qe_identity_signature" = some (.string (hexEncode c.qeIdentitySignature))
  pckCertificateChain : Component.textOf obj "pck_certificate_chain" = c.pckCertificateChain

/-- The members that `serde_json` writes for collateral. -/
def fieldsOf (c : QuoteCollateralV3) : List (String × Json) :=
  [("pck_crl_issuer_chain", .string c.pckCrlIssuerChain),
   ("root_ca_crl", .string (hexEncode c.rootCaCrl)),
   ("pck_crl", .string (hexEncode c.pckCrl)),
   ("tcb_info_issuer_chain", .string c.tcbInfoIssuerChain),
   ("tcb_info", .string c.tcbInfo),
   ("tcb_info_signature", .string (hexEncode c.tcbInfoSignature)),
   ("qe_identity_issuer_chain", .string c.qeIdentityIssuerChain),
   ("qe_identity", .string c.qeIdentity),
   ("qe_identity_signature", .string (hexEncode c.qeIdentitySignature)),
   ("pck_certificate_chain", c.pckCertificateChain.elim .null .string)]

/-- The object that they are read as. -/
def objectOf (c : QuoteCollateralV3) : Json.Map := .ofList (fieldsOf c)

theorem hasFields_objectOf (c : QuoteCollateralV3) : HasFields (objectOf c) c := by
  constructor <;>
    simp [objectOf, fieldsOf, Component.textOf, Json.Map.ofList, Json.Map.extend_cons,
      Json.Map.get_insert, Json.asStr]
  cases c.pckCertificateChain <;> rfl

theorem third_fieldsOf (c : QuoteCollateralV3) :
    ((Json.object (fieldsOf c)).print.toList)[2]? = some 'p' := by
  rw [Json.toList_print]
  rfl

/-- What the native verifier reads of a text of collateral. -/
def readCollateral (serde : SerdeJson) (data : Bytes) : Option QuoteCollateralV3 := do
  let value ← (serde.fromSlice .ok data).toOption
  let obj ← value.asObject
  let pckCrlIssuerChain ← Component.textOf obj "pck_crl_issuer_chain"
  let rootCaCrl ← (Component.textOf obj "root_ca_crl").bind hexDecode
  let pckCrl ← (Component.textOf obj "pck_crl").bind hexDecode
  let tcbInfoIssuerChain ← Component.textOf obj "tcb_info_issuer_chain"
  let tcbInfo ← Component.textOf obj "tcb_info"
  let tcbInfoSignature ← (Component.textOf obj "tcb_info_signature").bind hexDecode
  let qeIdentityIssuerChain ← Component.textOf obj "qe_identity_issuer_chain"
  let qeIdentity ← Component.textOf obj "qe_identity"
  let qeIdentitySignature ← (Component.textOf obj "qe_identity_signature").bind hexDecode
  some { tcbInfo, qeIdentity, pckCrlIssuerChain, rootCaCrl, pckCrl, tcbInfoIssuerChain,
         tcbInfoSignature, qeIdentityIssuerChain, qeIdentitySignature,
         pckCertificateChain := Component.textOf obj "pck_certificate_chain" }

theorem bind_textOf_hexEncode {obj : Json.Map} {name : String} {b : Bytes}
    (h : Json.Map.get obj name = some (.string (hexEncode b))) :
    (Component.textOf obj name).bind hexDecode = some b := by
  rw [Component.textOf, h]
  exact hexDecode_hexEncode b

/-- A text of collateral is read as the collateral. -/
theorem readCollateral_of_hasFields {serde : SerdeJson} {data : Bytes} {obj : Json.Map}
    {c : QuoteCollateralV3} (hread : serde.fromSlice .ok data = .ok (.object obj))
    (hfields : HasFields obj c) : readCollateral serde data = some c := by
  simp only [readCollateral, hread, Except.toOption, Json.asObject, hfields.pckCrlIssuerChain,
    bind_textOf_hexEncode hfields.rootCaCrl, bind_textOf_hexEncode hfields.pckCrl,
    hfields.tcbInfoIssuerChain, hfields.tcbInfo, bind_textOf_hexEncode hfields.tcbInfoSignature,
    hfields.qeIdentityIssuerChain, hfields.qeIdentity,
    bind_textOf_hexEncode hfields.qeIdentitySignature, hfields.pckCertificateChain,
    Option.bind_eq_bind, Option.bind_some]

/-! ## A QE identity that is out of date -/

def staleCollateral : QuoteCollateralV3 where
  tcbInfo := "\x7b\"nextUpdate\":\"2030-01-01T00:00:00Z\"\x7d"
  qeIdentity := "\x7b\"nextUpdate\":\"2020-01-01T00:00:00Z\"\x7d"
  pckCrlIssuerChain := ""
  rootCaCrl := [0x30, 0]
  pckCrl := [0x30, 0]
  tcbInfoIssuerChain := ""
  tcbInfoSignature := [1]
  qeIdentityIssuerChain := ""
  qeIdentitySignature := [1]
  pckCertificateChain := none

/-- The text that the collateral is cached as. -/
@[irreducible] def staleText : String := (Json.object (fieldsOf staleCollateral)).print

/-- The texts of the collateral, read as JSON. -/
def staleSerde : SerdeJson where
  fromStr deserialize text :=
    if text = staleText then deserialize (.object (objectOf staleCollateral))
    else if text = staleCollateral.tcbInfo then
      deserialize (.object [("nextUpdate", .string "2030-01-01T00:00:00Z")])
    else if text = staleCollateral.qeIdentity then
      deserialize (.object [("nextUpdate", .string "2020-01-01T00:00:00Z")])
    else .error "expected value"

/-- A native verifier in the year 2023. -/
def staleNative : Native where
  serde := staleSerde
  Quote := Unit
  parseQuote _ := .ok ()
  ca _ := .ok "platform"
  fmspc _ := .ok [0xAB]
  isSgx _ := false
  sha256 _ := [0, 0, 0, 0]
  parseRfc3339 text :=
    if text = "2030-01-01T00:00:00Z" then some 1893456000
    else if text = "2020-01-01T00:00:00Z" then some 1577836800
    else none
  toVec c := .ok (toUtf8 (Json.object (fieldsOf c)).print)
  createParent fs _ := .ok fs
  disableCache := none
  now := 1700000000
  collateralFromSlice := readCollateral staleSerde
  getCollateralWithBackoff _ _ := .error ["unavailable"]

def staleName : String := "collateral_00000000_tdx_AB_platform.json"

/-- A directory with a cache file. -/
def cacheTree (data : Bytes) : FileSystem where
  isDir p := p = [] ∨ p = ["cache"]
  files p := if p = ["cache", staleName] then some data else none
  current := []
  isDir_root := rfl
  isDir_dropLast p h := by
    rcases of_decide_eq_true h with rfl | rfl <;> rfl
  isDir_of_file p b h := by
    split at h
    · next hp =>
      rw [hp]
      decide
    · cases h

theorem resolve_cacheTree (data : Bytes) :
    (cacheTree data).resolve (FileSystem.join "/cache" staleName) = .ok ["cache", staleName] := by
  have hpieces : FileSystem.pieces "/cache" = ["", "cache"] := by decide
  have hdir : (cacheTree data).resolve "/cache" = .ok ["cache"] := by
    refine FileSystem.resolve_eq_ok.2 ⟨by decide, by decide, ?_⟩
    change (cacheTree data).walk [] (FileSystem.pieces "/cache") = _
    rw [hpieces]
    rfl
  exact FileSystem.resolve_join_name hdir rfl (by decide) (by decide)

theorem read_cacheTree (data : Bytes) :
    (cacheTree data).read (FileSystem.join "/cache" staleName) = .ok data := by
  rw [FileSystem.read_eq_ok (resolve_cacheTree data)]
  rfl

theorem third_staleText : staleText.toList[2]? = some 'p' := by
  unfold staleText
  exact third_fieldsOf staleCollateral

theorem staleText_ne {text : String} (h : text.toList[2]? ≠ some 'p') : text ≠ staleText :=
  fun heq => h (heq ▸ third_staleText)

theorem fromStr_tcbInfo : (staleSerde.fromStr .ok staleCollateral.tcbInfo : Except String Json) =
    .ok (.object [("nextUpdate", .string "2030-01-01T00:00:00Z")]) :=
  (if_neg (staleText_ne (by decide))).trans (if_pos rfl)

theorem fromStr_qeIdentity :
    (staleSerde.fromStr .ok staleCollateral.qeIdentity : Except String Json) =
      .ok (.object [("nextUpdate", .string "2020-01-01T00:00:00Z")]) :=
  (if_neg (staleText_ne (by decide))).trans ((if_neg (by decide)).trans (if_pos rfl))

/-- The native verifier reads the cache file. -/
theorem collateralFromSlice_staleText :
    staleNative.collateralFromSlice (toUtf8 staleText) = some staleCollateral := by
  refine readCollateral_of_hasFields ?_ (hasFields_objectOf _)
  rw [SerdeJson.fromSlice, fromUtf8_toUtf8]
  exact if_pos rfl

/-- The collateral of the cache is returned with a QE identity of 2020. -/
theorem not_servesUnexpired_stale :
    ¬ ServesUnexpired (.native staleNative) none [] "/cache" (cacheTree (toUtf8 staleText)) := by
  intro h
  have hcached : (Backend.native staleNative).cached (cacheTree (toUtf8 staleText))
      (FileSystem.join "/cache" staleName) = some staleCollateral := by
    rw [Backend.cached, read_cacheTree]
    exact collateralFromSlice_staleText
  have hfresh : cachedCollateralIsFresh staleNative.toEnv staleCollateral 1700000000 = true := by
    have hread : (staleNative.serde.fromStr .ok staleCollateral.tcbInfo : Except String Json) = _ :=
      fromStr_tcbInfo
    rw [cachedCollateralIsFresh, hread]
    rfl
  have hnext : parseNextUpdateSecs staleNative.toEnv staleCollateral.qeIdentity =
      some 1577836800 := by
    have hread : (staleNative.serde.fromStr .ok staleCollateral.qeIdentity :
        Except String Json) = _ := fromStr_qeIdentity
    rw [parseNextUpdateSecs, hread]
    rfl
  have hle := current_of_servesUnexpired h (FileSystem.join "/cache" staleName) staleCollateral rfl
    (by rfl) hcached hfresh 1577836800 hnext
  exact absurd hle (by decide)

end Collateral

end Trustmee.Tdx
