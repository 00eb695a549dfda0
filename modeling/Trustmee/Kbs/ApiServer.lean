import Trustmee.Foundations.Traced
import Trustmee.Kbs.Backend
import Trustmee.Kbs.Jwe
import Trustmee.Kbs.Plugins

/-!
# The KBS as an HTTP server

Every request goes through `api`. A few paths are the KBS's own, each for some methods; everything
else is for the plugin that the path names first. What a plugin does for a request, it does in
`handle`, and this is called for an administrator, or for the holder of a token that the resource
policy lets in. The calls that a request makes are recorded with their answers, so that the order of
checks and effects is a fact about the record.
-/

namespace Trustmee.Kbs

/-! ## Errors and responses -/

/-- The members of `Error` that `api` gives. -/
inductive ApiError
  | AdminAuth (source : String)
  | AttestationError (source : String)
  | InvalidRequestPath (path : String)
  | JweError (source : Error)
  | PluginNotFound (pluginName : String)
  | PluginInternalError (source : Error)
  | PolicyDeny
  | PolicyEngine (source : Error)
  | RvpsError (message : String)
  | SerdeError (source : String)
  | TokenNotFound
  | TokenVerifierError (source : Error)

namespace ApiError

/-- `AsRefStr`. -/
def asRef : ApiError → String
  | AdminAuth _ => "AdminAuth"
  | AttestationError _ => "AttestationError"
  | InvalidRequestPath _ => "InvalidRequestPath"
  | JweError _ => "JweError"
  | PluginNotFound _ => "PluginNotFound"
  | PluginInternalError _ => "PluginInternalError"
  | PolicyDeny => "PolicyDeny"
  | PolicyEngine _ => "PolicyEngine"
  | RvpsError _ => "RvpsError"
  | SerdeError _ => "SerdeError"
  | TokenNotFound => "TokenNotFound"
  | TokenVerifierError _ => "TokenVerifierError"

/-- `Display`: most sources are not shown. -/
def display : ApiError → String
  | AdminAuth source => "Admin auth error: " ++ source
  | AttestationError source => "Attestation error: " ++ source
  | InvalidRequestPath path => "Request path " ++ path ++ " is invalid"
  | JweError _ => "JWE failed"
  | PluginNotFound pluginName => "Plugin " ++ pluginName ++ " not found"
  | PluginInternalError _ => "Plugin internal error"
  | PolicyDeny => "Access denied by policy"
  | PolicyEngine _ => "Policy engine error"
  | RvpsError message => "RVPS configuration failed: " ++ message
  | SerdeError _ => "Serialize/Deserialize failed"
  | TokenNotFound => "Attestation Token not found"
  | TokenVerifierError _ => "Token Verifier error"

end ApiError

/-- `HttpResponse`, by what a client sees of it. -/
structure HttpResponse where
  status : ℕ
  cookie : Option Cookie
  contentType : Option String
  body : Bytes

def ERROR_TYPE_PREFIX : String := "https://github.com/confidential-containers/kbs/errors"

/-- `error_response`. -/
def errorResponse (e : ApiError) : HttpResponse where
  status := match e with
    | .InvalidRequestPath _ | .PluginNotFound _ => 404
    | _ => 401
  cookie := none
  contentType := none
  body := toUtf8 (Json.object [("type", .string (ERROR_TYPE_PREFIX ++ "/" ++ e.asRef)),
    ("detail", .string e.display)]).print

/-- `HttpResponse::Ok()` with a body. -/
def okResponse (contentType : String) (body : Bytes) : HttpResponse :=
  ⟨200, none, some contentType, body⟩

/-- How a handler stops: with an error, or with a panic. -/
inductive Halt
  | error (e : ApiError)
  | panic (msg : String)

/-- The result of a call with the error of the API that an error of it becomes. -/
def halting {α : Type} (x : Outcome α) (f : Error → ApiError) : Except Halt α :=
  match x with
  | .ok a => .ok a
  | .err e => .error (.error (f e))
  | .panic m => .error (.panic m)

/-- What a client gets: nothing after a panic. -/
def respond : Except Halt HttpResponse → Option HttpResponse
  | .ok response => some response
  | .error (.error e) => some (errorResponse e)
  | .error (.panic _) => none

/-! ## The server -/

/-- `HttpRequest`, by what the KBS reads of it. -/
structure HttpRequest where
  method : String
  /-- The value of the cookie `kbs-session-id`. -/
  cookie : Option String
  /-- `Authorization::<Bearer>::parse`: the token. -/
  bearer : Except String String

/-- The handlers of the attestation service that `api` hands requests on to. -/
structure AttestationHandlers (σ : Type) where
  auth : Bytes → σ → Outcome HttpResponse × σ
  attest : Bytes → HttpRequest → σ → Outcome HttpResponse × σ
  setPolicy : Bytes → σ → Outcome Unit × σ
  queryReferenceValue : String → σ → Outcome String × σ
  registerReferenceValue : String → σ → Outcome Unit × σ
  /-- The sessions and the clock, for `get_attest_token_from_session`. -/
  sessions : σ → SessionMap
  now : σ → Time

/-- `PolicyEngine`. -/
structure PolicyEngine (σ : Type) where
  evaluate : String → String → σ → Outcome Bool × σ
  setPolicy : Bytes → σ → Outcome Unit × σ
  getPolicy : σ → Outcome String × σ

/-- `ApiServer`, and what of its surroundings `api` uses. -/
structure ApiServer (σ : Type) (J : Jwt) (K : Jwe.Crypto) where
  pluginManager : PluginManager σ
  attestationService : AttestationHandlers σ
  policyEngine : PolicyEngine σ
  /-- `Admin::validate_admin_token`. -/
  validateAdminToken : HttpRequest → Except String Unit
  tokenVerifier : TokenVerifier J
  /-- The key as `jwe` takes it apart. -/
  teePubKey : J.TeePubKey → TeePubKey
  /-- The random number generator. -/
  draw : σ → Jwe.Draws K × σ
  /-- `serde_json::to_string` of a `Response`. -/
  responseToString : Jwe.Response → Except String String

/-- The requests that `api` has an arm of its own for. -/
inductive Route
  | auth | attest | attestationPolicy | getReferenceValue | postReferenceValue
  | postResourcePolicy | getResourcePolicy
  deriving DecidableEq

/-- The arms of the `match` of `api`, but for the last. -/
def route (plugin method : String) : Option Route :=
  if plugin = "auth" ∧ method = "POST" then some .auth
  else if plugin = "attest" ∧ method = "POST" then some .attest
  else if plugin = "attestation-policy" ∧ method = "POST" then some .attestationPolicy
  else if plugin = "reference-value" ∧ method = "GET" then some .getReferenceValue
  else if plugin = "reference-value" ∧ method = "POST" then some .postReferenceValue
  else if plugin = "resource-policy" ∧ method = "POST" then some .postResourcePolicy
  else if plugin = "resource-policy" ∧ method = "GET" then some .getResourcePolicy
  else none

/-- The calls of a request, with their answers. -/
inductive Call (J : Jwt)
  /-- A call of a handler that is not a plugin's. -/
  | service (route : Route)
  | validateAdminToken (answer : Except Halt Unit)
  | validateAuth (plugin : String) (request : PluginRequest) (answer : Except Halt Bool)
  | getAttestationToken (answer : Except Halt String)
  | verify (token : String) (answer : Except Halt Json)
  | evaluate (data inputClaims : String) (answer : Except Halt Bool)
  | handle (plugin : String) (request : PluginRequest) (answer : Except Halt Bytes)
  | encrypted (plugin : String) (request : PluginRequest) (answer : Except Halt Bool)
  | extractTeePublicKey (claims : Json) (answer : Except Halt J.TeePubKey)
  | jwe (key : J.TeePubKey) (payload : Bytes) (answer : Except Halt Jwe.Response)

/-- The call is one of a plugin's `handle`. -/
def Call.IsHandle {J : Jwt} : Call J → Prop
  | .handle .. => True
  | _ => False

/-- A handler of the API server. -/
abbrev Handling (σ : Type) (J : Jwt) := Traced σ (Call J) Halt

/-- What the resource policy gets to know of a request. -/
def policyData (plugin : String) (resourcePath : List String) (query : Query) : Json :=
  .object (Json.Map.ofList [("plugin", .string plugin),
    ("resource-path", .array (resourcePath.map .string)),
    ("query", .object (Json.Map.ofList (query.entries.map fun p => (p.1, .string p.2))))])

namespace ApiServer

variable {σ : Type} {J : Jwt} {K : Jwe.Crypto} (core : ApiServer σ J K)

/-- A call with the error that an error of it becomes. -/
def calling {α : Type} (f : σ → Outcome α × σ) (toError : Error → ApiError)
    (record : Except Halt α → Call J) : Handling σ J α :=
  Traced.call (fun s => (halting (f s).1 toError, (f s).2)) record

/-- `get_attestation_token`, in a state of the server: the token of the session, or else the one
that the request bears. -/
def getAttestationToken (request : HttpRequest) (s : σ) : Outcome String :=
  let fromSession : Outcome String := do
    let cookie ← Outcome.okOr request.cookie "KBS session cookie not found"
    getAttestTokenFromSession (core.attestationService.sessions s) (core.attestationService.now s)
      cookie
  match fromSession with
  | .ok token => .ok token
  | .err _ => (Outcome.ofExcept request.bearer).context "parse Authorization header failed"
  | .panic m => .panic m

/-- `validate_admin_token`. -/
def validateAdmin (request : HttpRequest) : Handling σ J Unit :=
  calling (fun s => (Outcome.ofExcept (core.validateAdminToken request), s))
    (fun e => .AdminAuth (e.display)) .validateAdminToken

/-- The answer for the TEE: what the plugin gave, encrypted for the key in the claims. -/
def encryptedReply (claims : Json) (response : Bytes) : Handling σ J HttpResponse := do
  let publicKey ← calling (fun s => (core.tokenVerifier.extractTeePublicKey claims, s))
    .TokenVerifierError (.extractTeePublicKey claims)
  let jwe ← calling
    (fun s => (Jwe.jwe K (core.draw s).1 (core.teePubKey publicKey) response, (core.draw s).2))
    .JweError (.jwe publicKey response)
  let res ← Traced.lift (halting (Outcome.ofExcept (core.responseToString jwe))
    fun e => .SerdeError (e.display))
  return okResponse "application/json" (toUtf8 res)

/-- What `api` does for a plugin. -/
def pluginReply (request : HttpRequest) (name : String) (plugin : ClientPlugin σ)
    (args : PluginRequest) : Handling σ J HttpResponse := do
  if ← calling (plugin.validateAuth args) .PluginInternalError (.validateAuth name args) then
    core.validateAdmin request
    let response ← calling (plugin.handle args) .PluginInternalError (.handle name args)
    return okResponse "text/xml" response
  else
    let token ← calling (fun s => (core.getAttestationToken request s, s)) (fun _ => .TokenNotFound)
      .getAttestationToken
    let claims ← calling (fun s => (core.tokenVerifier.verify token, s)) .TokenVerifierError
      (.verify token)
    let policyDataStr := (policyData name args.path args.query).print
    if ← calling (core.policyEngine.evaluate policyDataStr claims.print) .PolicyEngine
        (.evaluate policyDataStr claims.print) then
      let response ← calling (plugin.handle args) .PluginInternalError (.handle name args)
      if ← calling (plugin.encrypted args) .PluginInternalError (.encrypted name args) then
        core.encryptedReply claims response
      else
        return okResponse "text/xml" response
    else
      Traced.lift (.error (.error .PolicyDeny))

/-- A call of a handler that is not a plugin's. -/
def serving {α : Type} (r : Route) (f : σ → Outcome α × σ) (toError : Error → ApiError) :
    Handling σ J α :=
  calling f toError fun _ => .service r

/-- The arms of `api` that are not the plugins'. -/
def builtInReply (request : HttpRequest) (body : Bytes) (resourcePath : List String) (r : Route) :
    Handling σ J HttpResponse := do
  match r with
  | .auth => serving r (core.attestationService.auth body) fun e => .AttestationError (e.display)
  | .attest =>
    serving r (core.attestationService.attest body request) fun e => .AttestationError (e.display)
  | .attestationPolicy =>
    core.validateAdmin request
    serving r (core.attestationService.setPolicy body) fun e => .AttestationError (e.display)
    return ⟨200, none, none, []⟩
  | .getReferenceValue =>
    core.validateAdmin request
    let referenceValues ← serving r
      (core.attestationService.queryReferenceValue (joinPath resourcePath))
      fun e => .RvpsError ("Failed to get reference_values: " ++ e.display)
    return okResponse "application/json" (toUtf8 referenceValues)
  | .postReferenceValue =>
    core.validateAdmin request
    let message ← Traced.lift (halting
      (Outcome.okOr (fromUtf8 body) "Failed to parse reference value message") fun e =>
        .RvpsError (e.display))
    serving r (core.attestationService.registerReferenceValue message)
      fun e => .RvpsError ("Failed to register reference value: " ++ e.display)
    return ⟨200, none, some "application/json", []⟩
  | .postResourcePolicy =>
    core.validateAdmin request
    serving r (core.policyEngine.setPolicy body) .PolicyEngine
    return ⟨200, none, none, []⟩
  | .getResourcePolicy =>
    core.validateAdmin request
    let policy ← serving r core.policyEngine.getPolicy .PolicyEngine
    return okResponse "text/xml" (toUtf8 policy)

/-- `api`. -/
def api (request : HttpRequest) (body : Bytes) (path : String) (query : Query) :
    Handling σ J HttpResponse :=
  match split path '/' with
  | [] => Traced.lift (.error (.error (.InvalidRequestPath path)))
  | pluginName :: resourcePath =>
    match route pluginName request.method with
    | some r => core.builtInReply request body resourcePath r
    | none =>
      match core.pluginManager pluginName with
      | none => Traced.lift (.error (.error (.PluginNotFound pluginName)))
      | some plugin =>
        core.pluginReply request pluginName plugin ⟨body, query, resourcePath, request.method⟩

end ApiServer

end Trustmee.Kbs
