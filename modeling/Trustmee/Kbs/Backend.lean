import Trustmee.Kbs.Session
import Trustmee.Foundations.Transition

/-!
# The attestation service of the KBS

The handlers of `AttestationService` run concurrently over one session map. Between two of its
await points a handler runs alone, so each stretch of code is a function, and a step of the system
runs one stretch of one handler:

* `auth` waits for the attestation service to make a challenge (`authFinish`);
* `attest` waits for the session (`attestLookup`), releases it, assembles the evidence
  (`assembleEvidence`), waits for the session again (`attestLookupAgain`), holds its entry while
  the attestation service verifies the evidence, and then updates it (`attestFinish`);
* the token lookup waits for the session (`getAttestTokenFromSession`);
* the sweeper removes expired entries, each as it comes to it (`Step.sweep`).

An entry that a handler holds is closed to all the others. The clock is read anew at every step and
may give any value. Session ids are fresh: `State.issued` holds all those ever made.
`State.history` records the events the handshake is about, for the statements only; no step reads
it.
-/

namespace Trustmee.Kbs

/-- A semantic version. -/
structure Version where
  major : ℕ
  minor : ℕ
  patch : ℕ
  pre : String
  build : String
  deriving DecidableEq

def KBS_MAJOR_VERSION : ℕ := 0
def KBS_MINOR_VERSION : ℕ := 4
def KBS_PATCH_VERSION : ℕ := 0

/-- `VERSION_REQ.matches`, for the requirement `=0.4.0`: build metadata is not compared. -/
def versionMatches (v : Version) : Bool :=
  v.major == KBS_MAJOR_VERSION && v.minor == KBS_MINOR_VERSION && v.patch == KBS_PATCH_VERSION &&
    v.pre == ""

/-- One set of evidence from one attester. -/
structure IndependentEvidence where
  tee : Tee
  teeEvidence : Json
  runtimeData : Json
  initData : Option InitData

/-- What the handlers take from elsewhere: the parsers of other crates, and the configured session
timeout. -/
structure Env where
  /-- `Version::parse`. -/
  parseVersion : String → Except String Version
  /-- `serde_json::from_str::<HashMap<Tee, TeeEvidence>>`, in some order. -/
  parseAdditional : String → Except String (List (Tee × Json))
  timeout : ℤ

/-- The body of a response. -/
inductive Body
  | challenge (c : Challenge)
  | token (t : String)

/-- `HttpResponse::Ok`, with its cookie. -/
structure Response where
  cookie : Option Cookie
  body : Body

/-- A request in progress, by where it waits. -/
inductive Handler
  /-- `__auth`, for the challenge. -/
  | auth (request : Request)
  /-- `__attest`, for the session. -/
  | attest (sessionId : String) (attestation : Attestation)
  /-- `__attest`, with the session read and released. -/
  | attestChecked (sessionId : String) (attestation : Attestation) (tee : Tee) (nonce : String)
  /-- `__attest`, for the session again. -/
  | attestAssembled (sessionId : String) (attestation : Attestation)
      (evidenceToVerify : List IndependentEvidence)
  /-- `__attest`, for `inner.verify`, the session's entry in its hands. -/
  | attestVerifying (sessionId : String) (attestation : Attestation)
      (evidenceToVerify : List IndependentEvidence)
  /-- `get_attest_token_from_session`, for the session. -/
  | getToken (sessionId : String)
  /-- The handler has ended. -/
  | done (result : Outcome Response)
  /-- The client has gone and the handler was dropped. -/
  | dropped

/-! ## The stretches of code between await points -/

/-- `__auth` up to `generate_challenge`. -/
def authStart (env : Env) (body : Except String Request) : Outcome Request := do
  let request ← (Outcome.ofExcept body).context "deserialize Request"
  let version ← (Outcome.ofExcept (env.parseVersion request.version)).context
    "failed to parse KBS version"
  Outcome.ensure (versionMatches version)
    ("KBS Client Protocol Version Mismatch: expect =0.4.0 while the request is " ++ request.version)
  return request

/-- `__auth` from the challenge on: the new session, and the response. -/
def authFinish (env : Env) (request : Request) (challenge : Except String Challenge) (now : Time)
    (id : String) : Outcome (SessionStatus × Response) := do
  let challenge ← (Outcome.ofExcept challenge).context
    "Attestation Service generate challenge failed"
  let session := SessionStatus.auth request env.timeout challenge now id
  let challenge ← session.challenge
  return (session, ⟨some session.cookie, .challenge challenge⟩)

/-- `__attest` up to the first session lookup. -/
def attestStart (cookie : Option String) (attestation : Except String Attestation) :
    Outcome (String × Attestation) := do
  let sessionId ← Outcome.okOr cookie "cookie not found"
  let attestation ← (Outcome.ofExcept attestation).context "deserialize Attestation"
  return (sessionId, attestation)

/-- The first session lookup of `__attest`: the old token of an attested session, or the TEE and the
nonce of one to attest. -/
def attestLookup (sessions : SessionMap) (now : Time) (sessionId : String) :
    Outcome (Response ⊕ Tee × String) := do
  let session ← Outcome.okOr (sessions sessionId) "No cookie found"
  Outcome.ensure (!session.isExpired now) "session expired."
  match session with
  | .Attested token _ _ => return .inl ⟨some session.cookie, .token token⟩
  | .Authed .. =>
    let request ← session.request
    let challenge ← session.challenge
    return .inr (request.tee, challenge.nonce)

/-- The runtime data of a piece of additional evidence. -/
def kbsEvidenceRuntimeData (attestation : Attestation) (nonce : String) : Json :=
  .object (Json.Map.ofList [("tee-pubkey", attestation.runtimeData.teePubkey),
    ("nonce", .string nonce)])

/-- The runtime data of the primary evidence. -/
def primaryRuntimeData (attestation : Attestation) (nonce : String) : Json :=
  .object (Json.Map.ofList [("tee-pubkey", attestation.runtimeData.teePubkey),
    ("nonce", .string nonce),
    ("additional-evidence", .string attestation.teeEvidence.additionalEvidence)])

/-- The nonce check of `__attest`, and the evidence to verify. The map of additional evidence is
iterated in the order `iterate`. -/
def assembleEvidence (env : Env) (iterate : List (Tee × Json) → List (Tee × Json))
    (attestation : Attestation) (tee : Tee) (nonce : String) :
    Outcome (List IndependentEvidence) := do
  Outcome.ensure (nonce == attestation.runtimeData.nonce)
    ("the nonce in the handshake session is different from the client side in KBS protocol's " ++
      "Attestation message")
  let primaryEvidence : IndependentEvidence :=
    { tee
      teeEvidence := attestation.teeEvidence.primaryEvidence
      runtimeData := primaryRuntimeData attestation nonce
      initData := attestation.initData }
  if attestation.teeEvidence.additionalEvidence == "" then
    return [primaryEvidence]
  else
    let additionalEvidence ← Outcome.ofExcept
      (env.parseAdditional attestation.teeEvidence.additionalEvidence)
    return primaryEvidence :: (iterate additionalEvidence).map fun (tee, teeEvidence) =>
      { tee, teeEvidence, runtimeData := kbsEvidenceRuntimeData attestation nonce, initData := none }

/-- The second session lookup of `__attest`, up to `inner.verify`: the label of the metrics is the
TEE of `session.request()`. -/
def attestLookupAgain (sessions : SessionMap) (sessionId : String) : Outcome Tee := do
  let session ← Outcome.okOr (sessions sessionId) "session not found"
  let request ← session.request
  return request.tee

/-- `__attest` from the result of `inner.verify` on: the session as it leaves it, and the
response. -/
def attestFinish (session : SessionStatus) (token : Except String String) :
    SessionStatus × Outcome Response :=
  match token with
  | .error e => (session, .err ["verify TEE evidence failed", e])
  | .ok token =>
    let session := session.attest token
    (session, .ok ⟨some session.cookie, .token token⟩)

/-- `get_attest_token_from_session`, from the lookup on. -/
def getAttestTokenFromSession (sessions : SessionMap) (now : Time) (sessionId : String) :
    Outcome String := do
  let session ← Outcome.okOr (sessions sessionId) "session not found"
  Outcome.ensure (!session.isExpired now) "The session is expired"
  match session with
  | .Attested token _ _ => return token
  | .Authed .. => .bail "The session is not authorized"

/-! ## The system -/

/-- What happened, for the statements about runs. -/
inductive Event
  /-- `auth` made the session `id`. -/
  | auth (request : Request) (challenge : Challenge) (id : String) (timeout : Time)
  /-- An attestation message came in, with the cookie of the session `id`. -/
  | attestation (id : String) (attestation : Attestation)
  /-- `inner.verify` returned the token for the evidence. -/
  | verify (evidenceToVerify : List IndependentEvidence) (token : String)

/-- The number of a request. -/
abbrev ReqId := ℕ

/-- The state of the service. -/
structure State where
  sessions : SessionMap
  /-- The request that holds a session's entry. -/
  held : Table String ReqId
  handlers : Table ReqId Handler
  issued : List String
  history : List Event

namespace State

/-- The service starts with an empty session map. -/
def init : State := ⟨.empty, .empty, .empty, [], []⟩

def setHandler (s : State) (r : ReqId) (h : Handler) : State :=
  { s with handlers := s.handlers.insert r h }

def record (s : State) (e : Event) : State := { s with history := s.history ++ [e] }

def hold (s : State) (id : String) (r : ReqId) : State := { s with held := s.held.insert id r }

def release (s : State) (id : String) : State := { s with held := s.held.erase id }

def setSession (s : State) (id : String) (session : SessionStatus) : State :=
  { s with sessions := Table.insert s.sessions id session }

def removeSession (s : State) (id : String) : State :=
  { s with sessions := s.sessions.erase id }

end State

/-- The steps of the service. -/
inductive Label
  | recvAuth (r : ReqId) (body : Except String Request)
  | authFinish (r : ReqId) (challenge : Except String Challenge) (now : Time) (id : String)
  | recvAttest (r : ReqId) (cookie : Option String) (attestation : Except String Attestation)
  | attestLookup (r : ReqId) (now : Time)
  | assembleEvidence (r : ReqId)
  | attestLookupAgain (r : ReqId)
  | attestFinish (r : ReqId) (token : Except String String)
  | recvGetToken (r : ReqId) (cookie : Option String)
  | getToken (r : ReqId) (now : Time)
  | sweep (id : String) (now : Time)
  | drop (r : ReqId)

/-- The handler a call of `f` goes on as. -/
def Handler.ofOutcome {α : Type} (x : Outcome α) (f : α → Handler) : Handler :=
  match x with
  | .ok a => f a
  | .err e => .done (.err e)
  | .panic m => .done (.panic m)

/-- The handler after the first session lookup. -/
def Handler.afterLookup (sessionId : String) (attestation : Attestation) :
    Response ⊕ Tee × String → Handler
  | .inl response => .done (.ok response)
  | .inr (tee, nonce) => .attestChecked sessionId attestation tee nonce

/-- The state after `authFinish`. -/
def State.afterAuth (s : State) (r : ReqId) (request : Request)
    (result : Outcome (SessionStatus × Response)) : State :=
  match result with
  | .ok (session, response) =>
    { s with
      sessions := SessionMap.insert s.sessions session
      handlers := s.handlers.insert r (.done (.ok response))
      issued := session.id :: s.issued
      history := match session with
        | .Authed _ challenge id timeout => s.history ++ [.auth request challenge id timeout]
        | .Attested .. => s.history }
  | .err e => s.setHandler r (.done (.err e))
  | .panic m => s.setHandler r (.done (.panic m))

/-- The state after `attestStart`. -/
def State.afterRecvAttest (s : State) (r : ReqId) (result : Outcome (String × Attestation)) :
    State :=
  match result with
  | .ok (sessionId, attestation) =>
    (s.setHandler r (.attest sessionId attestation)).record (.attestation sessionId attestation)
  | .err e => s.setHandler r (.done (.err e))
  | .panic m => s.setHandler r (.done (.panic m))

/-- The state after the second session lookup: the entry is held while the evidence is verified, and
given up when there is no session, or on a panic. -/
def State.afterLookupAgain (s : State) (r : ReqId) (sessionId : String) (attestation : Attestation)
    (evidence : List IndependentEvidence) (result : Outcome Tee) : State :=
  match result with
  | .ok _ => (s.setHandler r (.attestVerifying sessionId attestation evidence)).hold sessionId r
  | .err e => s.setHandler r (.done (.err e))
  | .panic m => s.setHandler r (.done (.panic m))

/-- The event of a result of `inner.verify`. -/
def State.recordVerify (s : State) (evidence : List IndependentEvidence) :
    Except String String → State
  | .ok token => s.record (.verify evidence token)
  | .error _ => s

/-- A dropped handler lets go of the entry it holds. -/
def State.letGo (s : State) : Handler → State
  | .attestVerifying sessionId _ _ => s.release sessionId
  | _ => s

/-- One stretch of one handler, or of the sweeper. -/
inductive Step (env : Env) : State → Label → State → Prop
  | recvAuth {s : State} {r : ReqId} {body : Except String Request} (hr : s.handlers r = none) :
    Step env s (.recvAuth r body) (s.setHandler r (.ofOutcome (authStart env body) .auth))
  | authFinish {s : State} {r : ReqId} {request : Request} {challenge : Except String Challenge}
      {now : Time} {id : String} (hr : s.handlers r = some (.auth request))
      (hid : id ∉ s.issued) :
    Step env s (.authFinish r challenge now id)
      (s.afterAuth r request (authFinish env request challenge now id))
  | recvAttest {s : State} {r : ReqId} {cookie : Option String}
      {attestation : Except String Attestation} (hr : s.handlers r = none) :
    Step env s (.recvAttest r cookie attestation)
      (s.afterRecvAttest r (attestStart cookie attestation))
  | attestLookup {s : State} {r : ReqId} {now : Time} {sessionId : String}
      {attestation : Attestation} (hr : s.handlers r = some (.attest sessionId attestation))
      (hfree : s.held sessionId = none) :
    Step env s (.attestLookup r now) (s.setHandler r
      (.ofOutcome (attestLookup s.sessions now sessionId)
        (Handler.afterLookup sessionId attestation)))
  | assembleEvidence {s : State} {r : ReqId} {sessionId : String} {attestation : Attestation}
      {tee : Tee} {nonce : String} {iterate : List (Tee × Json) → List (Tee × Json)}
      (hr : s.handlers r = some (.attestChecked sessionId attestation tee nonce))
      (hiter : ∀ l, (iterate l).Perm l) :
    Step env s (.assembleEvidence r) (s.setHandler r
      (.ofOutcome (assembleEvidence env iterate attestation tee nonce)
        (.attestAssembled sessionId attestation)))
  | attestLookupAgain {s : State} {r : ReqId} {sessionId : String} {attestation : Attestation}
      {evidence : List IndependentEvidence}
      (hr : s.handlers r = some (.attestAssembled sessionId attestation evidence))
      (hfree : s.held sessionId = none) :
    Step env s (.attestLookupAgain r) (s.afterLookupAgain r sessionId attestation evidence
      (attestLookupAgain s.sessions sessionId))
  | attestFinish {s : State} {r : ReqId} {sessionId : String} {attestation : Attestation}
      {evidence : List IndependentEvidence} {session : SessionStatus}
      {token : Except String String}
      (hr : s.handlers r = some (.attestVerifying sessionId attestation evidence))
      (hs : s.sessions sessionId = some session) :
    Step env s (.attestFinish r token)
      ((((s.setSession sessionId (attestFinish session token).1).release sessionId).setHandler r
        (.done (attestFinish session token).2)).recordVerify evidence token)
  | recvGetToken {s : State} {r : ReqId} {cookie : Option String} (hr : s.handlers r = none) :
    Step env s (.recvGetToken r cookie) (s.setHandler r
      (.ofOutcome (Outcome.okOr cookie "KBS session cookie not found") .getToken))
  | getToken {s : State} {r : ReqId} {now : Time} {sessionId : String}
      (hr : s.handlers r = some (.getToken sessionId)) (hfree : s.held sessionId = none) :
    Step env s (.getToken r now) (s.setHandler r
      (.ofOutcome (getAttestTokenFromSession s.sessions now sessionId)
        fun token => .done (.ok ⟨none, .token token⟩)))
  | sweep {s : State} {id : String} {now : Time} {session : SessionStatus}
      (hs : s.sessions id = some session) (hexp : session.isExpired now = true)
      (hfree : s.held id = none) :
    Step env s (.sweep id now) (s.removeSession id)
  | drop {s : State} {r : ReqId} {h : Handler} (hr : s.handlers r = some h)
      (hdone : ∀ x, h ≠ .done x) :
    Step env s (.drop r) ((s.letGo h).setHandler r .dropped)

/-- The service, from its start. -/
def service (env : Env) : Transition.System State Label where
  Init s := s = State.init
  Step := Step env

end Trustmee.Kbs
