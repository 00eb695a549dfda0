import Trustmee.Tdx.CacheFile
import Trustmee.Foundations.Der

/-!
# Fetching collateral

What the component asks of a PCS or a PCCS, and what it makes of the answers. The CRLs come as they
are, or as texts of them; the component reads an answer as a text when it can, the one of a PCCS
with the root CRL twice.
-/

namespace Trustmee.Tdx.Collateral

/-- An answer. -/
structure Response where
  status : ℕ
  body : Bytes
  headers : List (String × String)

/-- The server has the answer. -/
def Response.isSuccess (r : Response) : Bool := 200 ≤ r.status && r.status < 300

/-- The network, and the crates that an answer is taken apart with. -/
structure Network where
  /-- `http_get_bytes`. -/
  httpGetBytes : String → Except Error Response
  /-- `urlencoding::decode`. -/
  urlDecode : String → Except String String
  /-- `extract_crl_url`, the CRL distribution point of a certificate. -/
  extractCrlUrl : Bytes → Except Error (Option String)

/-- A value that has to be there. -/
def okOr {α : Type} (o : Option α) (msg : String) : Except Error α :=
  match o with
  | some a => .ok a
  | none => .error [msg]

theorem okOr_eq_ok {α : Type} {o : Option α} {msg : String} {a : α} :
    okOr o msg = .ok a ↔ o = some a := by
  cases o <;> simp [okOr]

namespace PcsEndpoints

variable (e : PcsEndpoints)

/-- `mk_url`. -/
def mkUrl (tee path : String) : String := e.baseUrl ++ "/" ++ tee ++ "/certification/v4/" ++ path

/-- `url_pckcrl`. -/
def urlPckcrl : String := e.mkUrl "sgx" ("pckcrl?ca=" ++ e.ca ++ "&encoding=der")

/-- `url_pckcrl_pem`. -/
def urlPckcrlPem : String := e.mkUrl "sgx" ("pckcrl?ca=" ++ e.ca ++ "&encoding=pem")

/-- `url_rootcacrl`. -/
def urlRootcacrl : String := e.mkUrl "sgx" "rootcacrl"

/-- `url_tcb`. -/
def urlTcb : String := e.mkUrl e.tee ("tcb?fmspc=" ++ e.fmspc)

/-- `url_qe_identity`. -/
def urlQeIdentity : String := e.mkUrl e.tee "qe/identity?update=standard"

end PcsEndpoints

namespace Network

variable (N : Network)

/-- `get_header`. -/
def getHeader (headers : List (String × String)) (name : String) : Except Error String :=
  match headers.find? fun header =>
      header.1.toList.map Char.toLower == name.toList.map Char.toLower with
  | some (_, value) => (N.urlDecode value).mapError fun e => [e]
  | none => .error ["Missing " ++ name]

/-- An answer that has to be there. -/
def getSuccess (url what : String) : Except Error Response := do
  let r ← N.httpGetBytes url
  if r.isSuccess then return r
  else throw ["Failed to fetch " ++ what ++ ": HTTP " ++ toString r.status]

/-- The body of an answer that may be missing. -/
def optionalBody (url : String) : Option Bytes :=
  ((N.httpGetBytes url).toOption.filter Response.isSuccess).map Response.body

/-- `extract_root_crl_from_chain`. -/
def extractRootCrlFromChain (C : Component) (pckCrlIssuerChain : String) : Except Error Bytes := do
  let blocks ← okOr (C.pemParseMany pckCrlIssuerChain) "parse issuer chain PEM"
  let root ← okOr blocks.getLast? "no certs in issuer chain"
  let url ← N.extractCrlUrl root.2
  let url ← okOr url "Could not find CRL distribution point in root certificate"
  let r ← N.getSuccess url url
  return r.body

/-- The PCK CRL. When the answer that should be DER is not, the one that should be PEM is tried. -/
def pckCrlOf (C : Component) (e : PcsEndpoints) (body : Bytes) : Bytes :=
  let pckCrl := C.normalizeCrlBytes body
  let pckCrl :=
    if looksLikeDerCrl pckCrl then pckCrl
    else match N.optionalBody e.urlPckcrlPem with
      | some pemCrl =>
        if looksLikeDerCrl (C.normalizeCrlBytes pemCrl) then C.normalizeCrlBytes pemCrl else pckCrl
      | none => pckCrl
  if looksLikeDerCrl pckCrl then pckCrl else trimDerTrailing pckCrl

/-- The answer of a PCCS with the root CRL. -/
def pccsRootCrl (e : PcsEndpoints) : Option Bytes :=
  if defaultPcsUrl.toList.isPrefixOf e.baseUrl.toList then none
  else N.optionalBody e.urlRootcacrl

/-- The bytes of the root CRL, from the PCCS or from where the root certificate says. -/
def rootCaCrl (C : Component) (e : PcsEndpoints) (pckCrlIssuerChain : String) :
    Except Error Bytes :=
  match N.pccsRootCrl e with
  | some bytes => .ok (C.normalizeCrlBytes bytes)
  | none => N.extractRootCrlFromChain C pckCrlIssuerChain

/-- The `signature` of an answer, which is hexadecimal. -/
def signatureOf (json : Json) (what : String) : Except Error Bytes := do
  let text ← okOr ((json.get "signature").bind Json.asStr) (what ++ " missing 'signature'")
  okOr (hexDecode text) (what ++ " signature must be hex")

/-- The text of an answer. -/
def textOf (r : Response) (what : String) : Except Error String :=
  okOr (fromUtf8 r.body) (what ++ " must be UTF-8")

/-- The issuer chain of the TCB info, which has two names. -/
def tcbInfoIssuerChain (headers : List (String × String)) : Except Error String :=
  match N.getHeader headers "SGX-TCB-Info-Issuer-Chain" with
  | .ok chain => .ok chain
  | .error _ => N.getHeader headers "TCB-Info-Issuer-Chain"

/-- `fetch_collateral_uncached`. -/
def fetchCollateralUncached (C : Component) (e : PcsEndpoints) :
    Except Error QuoteCollateralV3 := do
  let pckAnswer ← N.getSuccess e.urlPckcrl "PCK CRL"
  let pckCrlIssuerChain ← N.getHeader pckAnswer.headers "SGX-PCK-CRL-Issuer-Chain"
  let pckCrl := N.pckCrlOf C e pckAnswer.body
  let tcbAnswer ← N.getSuccess e.urlTcb "TCB info"
  let tcbInfoIssuerChain ← N.tcbInfoIssuerChain tcbAnswer.headers
  let rawTcbInfo ← textOf tcbAnswer "TCB info"
  let qeAnswer ← N.getSuccess e.urlQeIdentity "QE identity"
  let qeIdentityIssuerChain ← N.getHeader qeAnswer.headers "SGX-Enclave-Identity-Issuer-Chain"
  let rawQeIdentity ← textOf qeAnswer "QE identity"
  let rootCaCrl ← N.rootCaCrl C e pckCrlIssuerChain
  let rootCaCrl := C.crlOf rootCaCrl
  let tcbInfoJson ← withContext (C.serde.fromStr .ok rawTcbInfo) "TCB info should be valid JSON"
  let tcbInfo := ((tcbInfoJson.get "tcbInfo").getD .null).print
  let tcbInfoSignature ← signatureOf tcbInfoJson "TCB info"
  let qeIdentityJson ←
    withContext (C.serde.fromStr .ok rawQeIdentity) "QE identity should be valid JSON"
  let identity ←
    okOr (qeIdentityJson.get "enclaveIdentity") "QE identity missing 'enclaveIdentity'"
  let qeIdentity := identity.print
  let qeIdentitySignature ← signatureOf qeIdentityJson "QE identity"
  return { tcbInfo, qeIdentity, pckCrlIssuerChain, rootCaCrl, pckCrl, tcbInfoIssuerChain,
           tcbInfoSignature, qeIdentityIssuerChain, qeIdentitySignature,
           pckCertificateChain := none }

end Network

/-- The component fetches over this network. -/
def Component.FetchesFrom (C : Component) (N : Network) : Prop :=
  C.fetchCollateralUncached = N.fetchCollateralUncached C

end Trustmee.Tdx.Collateral
