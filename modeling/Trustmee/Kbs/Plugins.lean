import Trustmee.Foundations.Bytes
import Trustmee.Foundations.Json
import Trustmee.Foundations.Outcome
import Trustmee.Foundations.Table

/-!
# The plugins of the KBS

A plugin says for each request whether the administrator has to allow it, whether the answer is for
the TEE alone, and what the answer is. The plugin for secret resources takes resources in from the
administrator and gives them out to TEEs.
-/

namespace Trustmee.Kbs

/-- The pairs of a query, in the order in which its map is iterated. -/
structure Query where
  entries : List (String × String)
  nodup : (entries.map Prod.fst).Nodup

/-- What each method of a plugin is told of a request. -/
structure PluginRequest where
  body : Bytes
  query : Query
  path : List String
  method : String

/-- `ClientPlugin`. Its methods work on the state of the server. -/
structure ClientPlugin (σ : Type) where
  handle : PluginRequest → σ → Outcome Bytes × σ
  validateAuth : PluginRequest → σ → Outcome Bool × σ
  encrypted : PluginRequest → σ → Outcome Bool × σ

/-- `PluginManager`. -/
abbrev PluginManager (σ : Type) := Table String (ClientPlugin σ)

/-- `str::split` at a character. -/
def split (s : String) (c : Char) : List String := (s.toList.splitOn c).map String.ofList

/-- `[String]::join("/")`. -/
def joinPath (path : List String) : String := String.intercalate "/" path

/-! ## Secret resources -/

/-- `ResourceDesc`. -/
structure ResourceDesc where
  repositoryName : String
  resourceType : String
  resourceTag : String
  deriving DecidableEq

namespace ResourceDesc

/-- `[a-zA-Z0-9_\-]`. -/
def isFirst (c : Char) : Bool := c.isAlphanum || c == '_' || c == '-'

/-- `[a-zA-Z0-9_\-\.]`. -/
def isLater (c : Char) : Bool := isFirst c || c == '.'

/-- `[a-zA-Z0-9_\-]+[a-zA-Z0-9_\-\.]*`. -/
def matchesName (s : String) : Bool :=
  match s.toList with
  | [] => false
  | c :: l => isFirst c && l.all isLater

/-- `ResourceDesc::try_from`: the expression does not let a `/` into a name, so the parts that it
captures are those between the two slashes. -/
def tryFrom (value : String) : Outcome ResourceDesc :=
  match split value '/' with
  | [repo, type, tag] =>
    if matchesName repo && matchesName type && matchesName tag then .ok ⟨repo, type, tag⟩
    else .bail "illegal ResourceDesc format."
  | _ => .bail "illegal ResourceDesc format."

end ResourceDesc

/-- `StorageBackend`, which a `ResourceStorage` has one of. -/
structure StorageBackend (σ : Type) where
  readSecretResource : ResourceDesc → σ → Outcome Bytes × σ
  writeSecretResource : ResourceDesc → Bytes → σ → Outcome Unit × σ

namespace ResourceStorage

variable {σ : Type} (backend : StorageBackend σ)

/-- `handle`. -/
def handle (request : PluginRequest) (s : σ) : Outcome Bytes × σ :=
  let resourceDesc := ResourceDesc.tryFrom (joinPath request.path)
  if request.method = "POST" then
    match resourceDesc with
    | .ok description =>
      let (written, t) := backend.writeSecretResource description request.body s
      (written >>= fun _ => .ok [], t)
    | .err e => (.err e, s)
    | .panic m => (.panic m, s)
  else if request.method = "GET" then
    match resourceDesc with
    | .ok description => backend.readSecretResource description s
    | .err e => (.err e, s)
    | .panic m => (.panic m, s)
  else (.bail "Illegal HTTP method. Only supports `GET` and `POST`", s)

/-- `validate_auth`. -/
def validateAuth (request : PluginRequest) (s : σ) : Outcome Bool × σ :=
  (.ok (request.method == "POST"), s)

/-- `encrypted`. -/
def encrypted (request : PluginRequest) (s : σ) : Outcome Bool × σ :=
  (.ok (request.method == "GET"), s)

/-- The plugin. -/
def clientPlugin : ClientPlugin σ where
  handle := handle backend
  validateAuth := validateAuth
  encrypted := encrypted

end ResourceStorage

end Trustmee.Kbs
