import Trustmee.Tdx.Fetched

/-!
# Collateral that stays in the cache

A call that fetched collateral has written it. A later call returns it from the cache without a
fetch, as long as it is valid, when the file can be read back: both CRLs have to look like one and
be no text, and both signatures have to be there.
-/

namespace Trustmee.Tdx.Collateral

variable {C : Component} {N : Network} {e : PcsEndpoints} {c : QuoteCollateralV3}
  {pccsUrl : Option String} {quote : Bytes} {cacheDir : String} {calls : List Call}
  {fs fs' : FileSystem}

/-- The component at another time. -/
def Component.later (C : Component) (now : ℕ) : Component := { C with now := now }

/-! ## The call that fetched -/

theorem run_fetchCollateral_eq_ok {fetched : Except Error QuoteCollateralV3}
    (h : (fetchCollateral fetched).run fs = ⟨.ok c, calls, fs'⟩) : fetched = .ok c :=
  congrArg Ending.result h

/-- A call that fetched has written what it returns. -/
theorem exists_writeCache (he : endpoints C.toEnv (pccsUrl.getD defaultPcsUrl) quote = .ok e)
    (henabled : cacheDisabled C.toEnv = false)
    (hrun : (C.getCollateralCached pccsUrl quote cacheDir).run fs = ⟨.ok c, calls, fs'⟩)
    (hfetch : .fetch ∈ calls) :
    C.fetchCollateralUncached e = .ok c ∧ ∃ fs₁ calls',
      (writeCache C.toEnv (cachePath C.toEnv cacheDir e) c).run fs₁ = ⟨.ok (), calls', fs'⟩ := by
  rw [Component.getCollateralCached, run_lift_bind_of_ok he, if_neg (by simp [henabled]),
    cachedOrFetched] at hrun
  obtain ⟨cached, _, _, l, hread, hrest, rfl⟩ := Traced.run_bind_eq_ok.1 hrun
  rw [run_readCache] at hread
  injection hread with _ hcalls hfs
  subst hcalls hfs
  cases hfilter : cached.filter fun cached => cachedCollateralIsFresh C.toEnv cached C.now with
  | some found =>
    rw [hfilter] at hrest
    cases hrest
    simp at hfetch
  | none =>
    rw [hfilter] at hrest
    obtain ⟨collateral, _, _, _, hfetched, hstored, -⟩ := Traced.run_bind_eq_ok.1 hrest
    obtain ⟨_, calls', _, _, hwrite, hreturn, -⟩ := Traced.run_bind_eq_ok.1 hstored
    cases hreturn
    exact ⟨run_fetchCollateral_eq_ok hfetched, _, calls', hwrite⟩

/-- Without a file that can be read, the call fetches and writes. -/
theorem run_cachedOrFetched_of_miss {E : Env} {parse : Bytes → Option QuoteCollateralV3}
    {fetched : Except Error QuoteCollateralV3} {path : String}
    (hmiss : (fs.read path).toOption.bind parse = none) (hfetched : fetched = .ok c)
    (hwrite : (writeCache E path c).run fs = ⟨.ok (), calls, fs'⟩) :
    (cachedOrFetched E parse fetched path).run fs =
      ⟨.ok c, .read path :: .fetch :: calls, fs'⟩ := by
  subst hfetched
  rw [cachedOrFetched, Traced.run_bind_of_ok run_readCache, hmiss]
  dsimp only [Option.filter_none]
  have hfetch : (fetchCollateral (.ok c)).run fs = ⟨.ok c, [.fetch], fs⟩ := rfl
  rw [Traced.run_bind_of_ok hfetch, Traced.run_bind_of_ok hwrite]
  simp

/-! ## The next call -/

/-- The next call returns the collateral without a fetch. -/
def HitsCache (C : Component) (pccsUrl : Option String) (quote : Bytes) (cacheDir : String)
    (c : QuoteCollateralV3) (fs : FileSystem) : Prop :=
  ∃ path, (C.getCollateralCached pccsUrl quote cacheDir).run fs = ⟨.ok c, [.read path], fs⟩

/-- A call hits the cache when the file is read as the collateral. -/
theorem hitsCache_iff {path : String} {data : Bytes}
    (hpath : (Backend.component C).path pccsUrl quote cacheDir = .ok path)
    (henabled : cacheDisabled C.toEnv = false) (hread : fs.read path = .ok data)
    (hfresh : cachedCollateralIsFresh C.toEnv c C.now = true) :
    HitsCache C pccsUrl quote cacheDir c fs ↔ C.parseCache data = some c := by
  have hcached : (Backend.component C).cached fs path = C.parseCache data := by
    rw [Backend.cached, hread]
    rfl
  rw [← hcached]
  constructor
  · rintro ⟨path', hrun⟩
    obtain ⟨-, path₁, hpath₁, hfound, -⟩ :=
      Backend.exists_cached (b := .component C) hrun (by simp)
    obtain rfl : path = path₁ := Except.ok.inj (hpath.symm.trans hpath₁)
    exact hfound
  · intro hfound
    exact ⟨path, Backend.run_of_fresh (b := .component C) henabled hpath hfound hfresh⟩

/-- The collateral has both CRLs, and the calls that come while it is valid hit the cache. -/
structure Cacheable (C : Component) (pccsUrl : Option String) (quote : Bytes) (cacheDir : String)
    (c : QuoteCollateralV3) (fs : FileSystem) (pckContent rootContent : Bytes) : Prop where
  pckCrl : HasCrl c.pckCrl pckContent
  rootCaCrl : HasCrl c.rootCaCrl rootContent
  hits : ∀ now, cachedCollateralIsFresh C.toEnv c now = true →
    HitsCache (C.later now) pccsUrl quote cacheDir c fs

/-- The answers are read as what they are, and what is stored is read as what it is. -/
structure Undisturbed (N : Network) (C : Component) (e : PcsEndpoints) (issuerChain : String)
    (pckContent rootContent : Bytes) : Prop where
  pck_length : pckContent.length < 65536
  root_length : rootContent.length < 65536
  reads : ReadsCrls N C e issuerChain (Der.sequence pckContent) (Der.sequence rootContent)
  pck_stored : ¬ C.IsTextOfCrl (Der.sequence pckContent)
  root_stored : ¬ C.IsTextOfCrl (Der.sequence rootContent)
  tcbInfo : N.Signs C e.urlTcb
  qeIdentity : N.Signs C e.urlQeIdentity

theorem hits_iff {path : String} {data : Bytes} {obj : Json.Map} (hpem : C.ShortensPem)
    (hpath : (Backend.component C).path pccsUrl quote cacheDir = .ok path)
    (henabled : cacheDisabled C.toEnv = false) (hread : fs.read path = .ok data)
    (hobj : C.serde.fromSlice .ok data = .ok (.object obj)) (hfields : HasFields obj c)
    (hvalid : ∃ now, cachedCollateralIsFresh C.toEnv c now = true)
    (hpck : looksLikeDerCrl c.pckCrl = true) (hroot : looksLikeDerCrl c.rootCaCrl = true) :
    (∀ now, cachedCollateralIsFresh C.toEnv c now = true →
        HitsCache (C.later now) pccsUrl quote cacheDir c fs) ↔
      (¬ C.IsTextOfCrl c.pckCrl ∧ ¬ C.IsTextOfCrl c.rootCaCrl) ∧
        c.tcbInfoSignature ≠ [] ∧ c.qeIdentitySignature ≠ [] := by
  have hlater (now : ℕ) (hfresh : cachedCollateralIsFresh C.toEnv c now = true) :
      HitsCache (C.later now) pccsUrl quote cacheDir c fs ↔ C.parseCache data = some c :=
    hitsCache_iff (C := C.later now) hpath henabled hread hfresh
  have hall : (∀ now, cachedCollateralIsFresh C.toEnv c now = true →
      HitsCache (C.later now) pccsUrl quote cacheDir c fs) ↔ C.parseCache data = some c := by
    constructor
    · intro h
      obtain ⟨now, hfresh⟩ := hvalid
      exact (hlater now hfresh).1 (h now hfresh)
    · intro h now hfresh
      exact (hlater now hfresh).2 h
  rw [hall]
  constructor
  · intro h
    obtain ⟨htcb, hqe⟩ := Component.signatures_of_parseCache hobj hfields h
    obtain ⟨hrootText, hpckText⟩ :=
      (Component.parseCache_eq_iff hpem hobj hfields ⟨hroot, hpck, htcb, hqe⟩).1 h
    exact ⟨⟨hpckText, hrootText⟩, htcb, hqe⟩
  · rintro ⟨⟨hpckText, hrootText⟩, htcb, hqe⟩
    exact (Component.parseCache_eq_iff hpem hobj hfields ⟨hroot, hpck, htcb, hqe⟩).2
      ⟨hrootText, hpckText⟩

/-- **Collateral that was fetched is cached** exactly when the answers are read as what they are. -/
theorem cacheable_iff {pckContent rootContent : Bytes} (hnet : C.FetchesFrom N)
    (hpem : C.ShortensPem) (hmarks : C.MarksPem) (hserde : C.WritesFields c)
    (he : endpoints C.toEnv (pccsUrl.getD defaultPcsUrl) quote = .ok e)
    (henabled : cacheDisabled C.toEnv = false)
    (hrun : (C.getCollateralCached pccsUrl quote cacheDir).run fs = ⟨.ok c, calls, fs'⟩)
    (hfetch : .fetch ∈ calls) (hvalid : ∃ now, cachedCollateralIsFresh C.toEnv c now = true)
    (hpckLength : pckContent.length < 256 ^ 126) (hrootLength : rootContent.length < 256 ^ 126)
    (hgives : GivesCrls N C e c.pckCrlIssuerChain (Der.sequence pckContent)
      (Der.sequence rootContent)) :
    Cacheable C pccsUrl quote cacheDir c fs' pckContent rootContent ↔
      Undisturbed N C e c.pckCrlIssuerChain pckContent rootContent := by
  obtain ⟨hfetched, fs₁, calls', hwrite⟩ := exists_writeCache he henabled hrun hfetch
  rw [hnet] at hfetched
  have hfetched := Network.fetched_of_eq_ok hfetched
  obtain ⟨data, hdata, hread⟩ := exists_read_of_writeCache hwrite
  obtain ⟨data', obj, hdata', hobj, hfields⟩ := hserde
  obtain rfl : data = data' := Except.ok.inj (hdata.symm.trans hdata')
  have hpath : (Backend.component C).path pccsUrl quote cacheDir =
      .ok (cachePath C.toEnv cacheDir e) := Backend.path_eq_ok.2 ⟨e, he, rfl⟩
  have hhits := hits_iff hpem hpath henabled hread hobj hfields hvalid
  have hpck := hasCrl_pck_iff hmarks hpckLength hfetched hgives
  have hroot := hasCrl_root_iff hmarks hrootLength hfetched hgives
  have htcb := Network.signature_ne_nil_iff hfetched.tcbInfoSignature
  have hqe := Network.signature_ne_nil_iff hfetched.qeIdentitySignature
  constructor
  · intro h
    obtain ⟨⟨hpckText, hrootText⟩, htcbSigned, hqeSigned⟩ :=
      (hhits h.pckCrl.2 h.rootCaCrl.2).1 h.hits
    obtain ⟨hpckShort, hpckReads⟩ := hpck.1 h.pckCrl
    obtain ⟨hrootShort, hpccs, hchain⟩ := hroot.1 h.rootCaCrl
    exact ⟨hpckShort, hrootShort, ⟨hpckReads, hpccs, hchain⟩, h.pckCrl.1 ▸ hpckText,
      h.rootCaCrl.1 ▸ hrootText, htcb.1 htcbSigned, hqe.1 hqeSigned⟩
  · intro h
    have hpckCrl := hpck.2 ⟨h.pck_length, h.reads.pck⟩
    have hrootCrl := hroot.2 ⟨h.root_length, h.reads.pccs, h.reads.chain⟩
    refine ⟨hpckCrl, hrootCrl, (hhits hpckCrl.2 hrootCrl.2).2 ⟨⟨?_, ?_⟩, htcb.2 h.tcbInfo,
      hqe.2 h.qeIdentity⟩⟩
    · rw [hpckCrl.1]
      exact h.pck_stored
    · rw [hrootCrl.1]
      exact h.root_stored

/-! ## A network -/

/-- What `url_tcb` is answered with. -/
def tcbInfoJson : Json := .object [("nextUpdate", .string "2030-01-01T00:00:00Z")]

def tcbAnswer : Json := .object [("signature", .string "01"), ("tcbInfo", tcbInfoJson)]

/-- What `url_qe_identity` is answered with. -/
def qeAnswer : Json := .object [("enclaveIdentity", .object []), ("signature", .string "01")]

def chainText : String :=
  "-----BEGIN CERTIFICATE-----\nMAA=\n-----END CERTIFICATE-----\n"

def pcsEndpoints : PcsEndpoints := ⟨defaultPcsUrl, "tdx", "AB", "platform"⟩

/-- Collateral with this CRL from both sources. -/
def pcsCollateral (crl : Bytes) : QuoteCollateralV3 where
  tcbInfo := tcbInfoJson.print
  qeIdentity := (Json.object []).print
  pckCrlIssuerChain := chainText
  rootCaCrl := crl
  pckCrl := crl
  tcbInfoIssuerChain := chainText
  tcbInfoSignature := [1]
  qeIdentityIssuerChain := chainText
  qeIdentitySignature := [1]
  pckCertificateChain := none

/-- A PCS that gives this CRL. -/
def pcs (crl : Bytes) : Network where
  httpGetBytes url := .ok {
    status := 200
    body :=
      if url = pcsEndpoints.urlTcb then toUtf8 tcbAnswer.print
      else if url = pcsEndpoints.urlQeIdentity then toUtf8 qeAnswer.print
      else crl
    headers := [("SGX-PCK-CRL-Issuer-Chain", chainText), ("TCB-Info-Issuer-Chain", chainText),
      ("SGX-Enclave-Identity-Issuer-Chain", chainText)] }
  urlDecode := .ok
  extractCrlUrl _ :=
    .ok (some "https://certificates.trustedservices.intel.com/IntelSGXRootCA.der")

/-- A component without a network. -/
def offline (crl : Bytes) : Component where
  serde := { fromStr := fun deserialize text =>
    if text = tcbAnswer.print then deserialize tcbAnswer
    else if text = qeAnswer.print then deserialize qeAnswer
    else if text = tcbInfoJson.print then deserialize tcbInfoJson
    else if text = (Json.object (fieldsOf (pcsCollateral crl))).print then
      deserialize (.object (objectOf (pcsCollateral crl)))
    else .error "EOF while parsing a value" }
  Quote := Unit
  parseQuote _ := .ok ()
  ca _ := .ok "platform"
  fmspc _ := .ok [0xAB]
  isSgx _ := false
  sha256 _ := [0, 0, 0, 0]
  parseRfc3339 text := if text = "2030-01-01T00:00:00Z" then some 1893456000 else none
  toVec c := .ok (toUtf8 (Json.object (fieldsOf c)).print)
  createParent fs _ := .ok fs
  disableCache := none
  now := 1700000000
  pemParseMany s := if s = chainText then some [("CERTIFICATE", [0x30, 0])] else some []
  fetchCollateralUncached _ := .error ["unavailable"]

/-- The component over the network of this PCS. -/
def online (crl : Bytes) : Component :=
  { offline crl with fetchCollateralUncached := (pcs crl).fetchCollateralUncached (offline crl) }

theorem fetchesFrom_online (crl : Bytes) : (online crl).FetchesFrom (pcs crl) := rfl

theorem endpoints_online (crl : Bytes) :
    endpoints (online crl).toEnv (Option.getD none defaultPcsUrl) [] = .ok pcsEndpoints := by
  rfl

theorem shortensPem_online (crl : Bytes) : (online crl).ShortensPem := by
  intro s blocks hblocks block hblock
  change (if s = chainText then some [("CERTIFICATE", [0x30, 0])] else some []) = some blocks
    at hblocks
  split_ifs at hblocks with hs <;> cases hblocks
  · obtain rfl := List.mem_singleton.1 hblock
    rw [hs]
    decide
  · cases hblock

theorem marksPem_online (crl : Bytes) : (online crl).MarksPem := by
  intro s blocks hblocks hne
  change (if s = chainText then some [("CERTIFICATE", [0x30, 0])] else some []) = some blocks
    at hblocks
  split_ifs at hblocks with hs
  · rw [hs]
    decide
  · cases hblocks
    exact absurd rfl hne

theorem decodeCrlBytes_of_not_text {C : Component} {crl : Bytes} (h : fromUtf8 crl = none) :
    C.decodeCrlBytes crl = none := by
  rw [Component.decodeCrlBytes, h, Option.bind_none]

theorem body_pcs {crl : Bytes} {url : String} (htcb : url ≠ pcsEndpoints.urlTcb)
    (hqe : url ≠ pcsEndpoints.urlQeIdentity) : (pcs crl).optionalBody url = some crl := by
  simp [Network.optionalBody, pcs, Response.isSuccess, Except.toOption, htcb, hqe]

/-- The headers of every answer of the PCS. -/
def pcsHeaders : List (String × String) :=
  [("SGX-PCK-CRL-Issuer-Chain", chainText), ("TCB-Info-Issuer-Chain", chainText),
    ("SGX-Enclave-Identity-Issuer-Chain", chainText)]

theorem getSuccess_pcs (crl : Bytes) (url what : String) :
    ∃ r, (pcs crl).getSuccess url what = .ok r ∧ r.headers = pcsHeaders ∧ r.body =
      if url = pcsEndpoints.urlTcb then toUtf8 tcbAnswer.print
      else if url = pcsEndpoints.urlQeIdentity then toUtf8 qeAnswer.print else crl :=
  ⟨_, rfl, rfl, rfl⟩

theorem fromStr_online (crl : Bytes) (text : String) :
    ((online crl).serde.fromStr .ok text : Except String Json) =
      if text = tcbAnswer.print then .ok tcbAnswer
      else if text = qeAnswer.print then .ok qeAnswer
      else if text = tcbInfoJson.print then .ok tcbInfoJson
      else if text = (Json.object (fieldsOf (pcsCollateral crl))).print then
        .ok (.object (objectOf (pcsCollateral crl)))
      else .error "EOF while parsing a value" := rfl

theorem pccsRootCrl_pcs (crl : Bytes) : (pcs crl).pccsRootCrl pcsEndpoints = none :=
  if_pos (by decide)

theorem extractRootCrlFromChain_pcs (crl : Bytes) :
    (pcs crl).extractRootCrlFromChain (online crl) chainText = .ok crl := by
  obtain ⟨r, hr, -, hbody⟩ := getSuccess_pcs crl
    "https://certificates.trustedservices.intel.com/IntelSGXRootCA.der"
    "https://certificates.trustedservices.intel.com/IntelSGXRootCA.der"
  rw [if_neg (by decide), if_neg (by decide)] at hbody
  unfold Network.extractRootCrlFromChain
  simp only [except_bind_eq_ok]
  refine ⟨[("CERTIFICATE", [0x30, 0])], rfl, _, rfl, _, rfl, _, rfl, r, hr, ?_⟩
  rw [hbody]
  rfl

theorem fetch_online {crl : Bytes} (htext : fromUtf8 crl = none)
    (htrim : trimDerTrailing crl = crl) :
    (pcs crl).fetchCollateralUncached (online crl) pcsEndpoints = .ok (pcsCollateral crl) := by
  have hnormal : (online crl).normalizeCrlBytes crl = crl :=
    Component.normalizeCrlBytes_of_none (decodeCrlBytes_of_not_text htext)
  have hanswer : (pcs crl).pckAnswer (online crl) pcsEndpoints crl = crl := by
    rw [Network.pckAnswer, body_pcs (by decide) (by decide)]
    dsimp only
    split_ifs <;> rfl
  have hpck : (pcs crl).pckCrlOf (online crl) pcsEndpoints crl = crl := by
    rw [Network.pckCrlOf_eq, hanswer, hnormal, htrim]
  have hroot : (online crl).crlOf crl = crl := by rw [Component.crlOf_eq, hnormal, htrim]
  obtain ⟨pckAnswer, hpckAnswer, hpckHeaders, hpckBody⟩ :=
    getSuccess_pcs crl pcsEndpoints.urlPckcrl "PCK CRL"
  obtain ⟨tcb, htcb, htcbHeaders, htcbBody⟩ := getSuccess_pcs crl pcsEndpoints.urlTcb "TCB info"
  obtain ⟨qe, hqe, hqeHeaders, hqeBody⟩ :=
    getSuccess_pcs crl pcsEndpoints.urlQeIdentity "QE identity"
  rw [if_neg (by decide), if_neg (by decide)] at hpckBody
  rw [if_pos rfl] at htcbBody
  rw [if_neg (by decide), if_pos rfl] at hqeBody
  have htcbText : Network.textOf tcb "TCB info" = .ok tcbAnswer.print := by
    rw [Network.textOf, htcbBody, fromUtf8_toUtf8]
    rfl
  have hqeText : Network.textOf qe "QE identity" = .ok qeAnswer.print := by
    rw [Network.textOf, hqeBody, fromUtf8_toUtf8]
    rfl
  have htcbJson : withContext ((online crl).serde.fromStr .ok tcbAnswer.print)
      "TCB info should be valid JSON" = .ok tcbAnswer := by
    rw [fromStr_online, if_pos rfl]
    rfl
  have hqeJson : withContext ((online crl).serde.fromStr .ok qeAnswer.print)
      "QE identity should be valid JSON" = .ok qeAnswer := by
    rw [fromStr_online, if_neg (by decide), if_pos rfl]
    rfl
  have hchain : (pcs crl).rootCaCrl (online crl) pcsEndpoints chainText = .ok crl := by
    rw [Network.rootCaCrl, pccsRootCrl_pcs]
    exact extractRootCrlFromChain_pcs crl
  have hpckChain : (pcs crl).getHeader pckAnswer.headers "SGX-PCK-CRL-Issuer-Chain" =
      .ok chainText := by
    rw [hpckHeaders]
    rfl
  have htcbChain : (pcs crl).tcbInfoIssuerChain tcb.headers = .ok chainText := by
    rw [htcbHeaders]
    rfl
  have hqeChain : (pcs crl).getHeader qe.headers "SGX-Enclave-Identity-Issuer-Chain" =
      .ok chainText := by
    rw [hqeHeaders]
    rfl
  unfold Network.fetchCollateralUncached
  simp only [except_bind_eq_ok]
  refine ⟨pckAnswer, hpckAnswer, chainText, hpckChain, tcb, htcb, chainText, htcbChain, _, htcbText,
    qe, hqe, chainText, hqeChain, _, hqeText, crl, hchain, tcbAnswer, htcbJson, [1], rfl, qeAnswer,
    hqeJson, .object [], rfl, [1], rfl, ?_⟩
  rw [hpckBody, hpck, hroot]
  rfl

/-- The text that is written is none of the answers. -/
theorem writesFields_online (crl : Bytes) : (online crl).WritesFields (pcsCollateral crl) := by
  have hthird := third_fieldsOf (pcsCollateral crl)
  refine ⟨_, objectOf (pcsCollateral crl), rfl, ?_, hasFields_objectOf _⟩
  rw [SerdeJson.fromSlice, fromUtf8_toUtf8]
  dsimp only
  rw [fromStr_online, if_neg, if_neg, if_neg, if_pos rfl]
  · intro h
    rw [h] at hthird
    exact absurd hthird (by decide)
  · intro h
    rw [h] at hthird
    exact absurd hthird (by decide)
  · intro h
    rw [h] at hthird
    exact absurd hthird (by decide)

theorem valid_online (crl : Bytes) :
    cachedCollateralIsFresh (online crl).toEnv (pcsCollateral crl) 1700000000 = true := by
  have hread : ((online crl).serde.fromStr .ok (pcsCollateral crl).tcbInfo :
      Except String Json) = .ok tcbInfoJson := by
    change ((online crl).serde.fromStr .ok tcbInfoJson.print : Except String Json) = _
    rw [fromStr_online, if_neg (by decide), if_neg (by decide), if_pos rfl]
  rw [cachedCollateralIsFresh, hread]
  rfl

theorem enabled_online (crl : Bytes) : cacheDisabled (online crl).toEnv = false := rfl

theorem cachePath_online (crl : Bytes) :
    cachePath (online crl).toEnv "/cache" pcsEndpoints = FileSystem.join "/cache" staleName := by
  rfl

/-- The call fetches, and writes the cache file. -/
theorem run_online {crl : Bytes} (htext : fromUtf8 crl = none)
    (htrim : trimDerTrailing crl = crl) :
    ∃ calls fs', ((online crl).getCollateralCached none [] "/cache").run (cacheTree []) =
      ⟨.ok (pcsCollateral crl), calls, fs'⟩ ∧ .fetch ∈ calls := by
  have hfetch : (online crl).fetchCollateralUncached pcsEndpoints = .ok (pcsCollateral crl) :=
    fetch_online htext htrim
  have hwrite := FileSystem.write_eq (resolve_cacheTree []) rfl
    (toUtf8 (Json.object (fieldsOf (pcsCollateral crl))).print)
  have hstore : (writeCache (online crl).toEnv (FileSystem.join "/cache" staleName)
      (pcsCollateral crl)).run (cacheTree []) = _ := run_writeCache rfl rfl hwrite
  have hmiss : ((cacheTree []).read (FileSystem.join "/cache" staleName)).toOption.bind
      (online crl).parseCache = none := by
    have hempty : fromUtf8 [] = some "" := fromUtf8_toUtf8 ""
    have hread : ((online crl).serde.fromStr .ok "" : Except String Json) =
        .error "EOF while parsing a value" := by
      rw [fromStr_online, if_neg (by decide), if_neg (by decide), if_neg (by decide), if_neg]
      intro h
      have hthird := third_fieldsOf (pcsCollateral crl)
      rw [← h] at hthird
      cases hthird
    rw [read_cacheTree]
    change (online crl).parseCache [] = none
    rw [Component.parseCache, SerdeJson.fromSlice, hempty]
    dsimp only
    rw [hread]
    rfl
  have hrun := run_cachedOrFetched_of_miss hmiss hfetch hstore
  have hcached : ((online crl).getCollateralCached none [] "/cache").run (cacheTree []) =
      (cachedOrFetched (online crl).toEnv (online crl).parseCache
        ((online crl).fetchCollateralUncached pcsEndpoints)
        (FileSystem.join "/cache" staleName)).run (cacheTree []) := by
    rw [Component.getCollateralCached,
      run_lift_bind_of_ok (endpoints_online crl), if_neg (by simp [enabled_online]),
      cachePath_online]
  exact ⟨_, _, hcached.trans hrun, by simp⟩

theorem givesCrls_online (crl : Bytes) :
    GivesCrls (pcs crl) (online crl) pcsEndpoints chainText crl crl := by
  have hraw : (online crl).Encodes crl crl := by
    have hempty : (online crl).Encodes crl (crl ++ []) := .raw []
    rwa [List.append_nil] at hempty
  refine ⟨fun body hbody => ?_, fun body hbody => ?_, fun body hbody => ?_,
    fun body _ hbody => ?_⟩
  · rw [body_pcs (by decide) (by decide)] at hbody
    cases hbody
    exact hraw
  · rw [body_pcs (by decide) (by decide)] at hbody
    cases hbody
    exact hraw
  · rw [pccsRootCrl_pcs] at hbody
    cases hbody
  · rw [extractRootCrlFromChain_pcs] at hbody
    cases hbody
    exact hraw

theorem signs_online {crl : Bytes} : (pcs crl).Signs (online crl) pcsEndpoints.urlTcb ∧
    (pcs crl).Signs (online crl) pcsEndpoints.urlQeIdentity := by
  constructor
  · rintro json ⟨r, text, hr, htext, hjson⟩
    cases hr
    rw [if_pos rfl, fromUtf8_toUtf8, Option.some.injEq] at htext
    rw [← htext, fromStr_online, if_pos rfl] at hjson
    cases hjson
    exact fun h => absurd (congrArg (Option.bind · Json.asStr) h) (by decide)
  · rintro json ⟨r, text, hr, htext, hjson⟩
    cases hr
    rw [if_neg (by decide), if_pos rfl, fromUtf8_toUtf8, Option.some.injEq] at htext
    rw [← htext, fromStr_online, if_neg (by decide), if_pos rfl] at hjson
    cases hjson
    exact fun h => absurd (congrArg (Option.bind · Json.asStr) h) (by decide)

/-! ## CRLs of 128 and of 65536 bytes -/

/-- The content of a CRL. -/
def zeros (n : ℕ) : Bytes := List.replicate n 0

theorem length_zeros (n : ℕ) : (zeros n).length = n := List.length_replicate

section Zeros

variable {n : ℕ}

theorem fromUtf8_zeros (h : 128 ≤ n) (h' : n < 256 ^ 63) :
    fromUtf8 (Der.sequence (zeros n)) = none := by
  have hnone : fromUtf8 (Der.sequence (zeros n) ++ []) = none :=
    fromUtf8_sequence (by rwa [length_zeros]) (by rwa [length_zeros]) []
  rwa [List.append_nil] at hnone

theorem trimDerTrailing_zeros (h : n < 256 ^ 63) :
    trimDerTrailing (Der.sequence (zeros n)) = Der.sequence (zeros n) := by
  apply trimDerTrailing_sequence
  rw [length_zeros]
  exact h.trans (by decide)

theorem not_isTextOfCrl_zeros (C : Component) (h : 128 ≤ n) (h' : n < 256 ^ 63) :
    ¬ C.IsTextOfCrl (Der.sequence (zeros n)) := by
  rintro ⟨s, hs, -⟩
  rw [fromUtf8_zeros h h'] at hs
  cases hs

end Zeros

/-- Collateral with CRLs of 128 bytes is cached. -/
theorem cacheable_middle : ∃ calls fs',
    ((online (Der.sequence (zeros 128))).getCollateralCached none [] "/cache").run (cacheTree []) =
      ⟨.ok (pcsCollateral (Der.sequence (zeros 128))), calls, fs'⟩ ∧
    Cacheable (online (Der.sequence (zeros 128))) none [] "/cache"
      (pcsCollateral (Der.sequence (zeros 128))) fs' (zeros 128) (zeros 128) := by
  have hlength := length_zeros 128
  have hpow : (zeros 128).length < 256 ^ 63 := by
    rw [hlength]
    decide
  obtain ⟨calls, fs', hrun, hfetch⟩ :=
    run_online (fromUtf8_zeros (n := 128) (by decide) (by decide)) (trimDerTrailing_zeros (by decide))
  have hstored := not_isTextOfCrl_zeros (n := 128) (online (Der.sequence (zeros 128))) (by decide)
    (by decide)
  have hgives := givesCrls_online (Der.sequence (zeros 128))
  have hmarks := marksPem_online (Der.sequence (zeros 128))
  have hreads := readsCrls_of_long hmarks hgives (by omega) hpow (by omega) hpow
  have hbound : (zeros 128).length < 256 ^ 126 := hpow.trans (by decide)
  have hvalid := valid_online (Der.sequence (zeros 128))
  have hundisturbed : Undisturbed (pcs (Der.sequence (zeros 128)))
      (online (Der.sequence (zeros 128))) pcsEndpoints chainText (zeros 128) (zeros 128) :=
    ⟨by omega, by omega, hreads, hstored, hstored, signs_online.1, signs_online.2⟩
  have hiff := cacheable_iff (fetchesFrom_online _) (shortensPem_online _) hmarks
    (writesFields_online _) (endpoints_online _) (enabled_online _) hrun hfetch ⟨_, hvalid⟩ hbound
    hbound hgives
  exact ⟨calls, fs', hrun, hiff.2 hundisturbed⟩

/-- Collateral with CRLs of 65536 bytes is fetched, and its CRLs do not look like any. -/
theorem not_cacheable_large : ∃ calls fs',
    ((online (Der.sequence (zeros 65536))).getCollateralCached none [] "/cache").run (cacheTree []) =
      ⟨.ok (pcsCollateral (Der.sequence (zeros 65536))), calls, fs'⟩ ∧
    GivesCrls (pcs (Der.sequence (zeros 65536))) (online (Der.sequence (zeros 65536))) pcsEndpoints
      chainText (Der.sequence (zeros 65536)) (Der.sequence (zeros 65536)) ∧
    ¬ Cacheable (online (Der.sequence (zeros 65536))) none [] "/cache"
      (pcsCollateral (Der.sequence (zeros 65536))) fs' (zeros 65536) (zeros 65536) := by
  have hlength := length_zeros 65536
  have hpow : (zeros 65536).length < 256 ^ 126 := by
    rw [hlength]
    decide
  obtain ⟨calls, fs', hrun, -⟩ := run_online (fromUtf8_zeros (n := 65536) (by decide) (by decide))
    (trimDerTrailing_zeros (by decide))
  refine ⟨calls, fs', hrun, givesCrls_online _, fun h => ?_⟩
  have hshort := (looksLikeDerCrl_sequence_iff hpow).1 h.pckCrl.2
  omega

end Trustmee.Tdx.Collateral
