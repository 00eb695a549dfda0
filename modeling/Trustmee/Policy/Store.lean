import Trustmee.Foundations.FileSystem
import Trustmee.Foundations.JsonText
import Trustmee.Foundations.Traced

/-!
# The store of policies

`OPA` keeps a policy in a file of its directory: the file of an identifier has its name and the
ending `.rego`. `set_policy` checks the identifier and the policy before it writes; `get_policy` and
`evaluate` take any identifier into the path of the file that they read. The parser of policies, the
letters and digits beyond ASCII and SHA-384 are parameters, and files are ideal: a write succeeds
where a file can be.
-/

namespace Trustmee.Policy

/-- `PolicyError`, of the store and of what reads it. A source of another crate is given by its
text. -/
inductive PolicyError
  | readPolicyFileFailed (source : IoError)
  | writePolicyFileFailed (source : IoError)
  | ioError (source : IoError)
  | base64DecodeFailed (source : String)
  | invalidPolicyId
  | invalidPolicy (source : String)
  | loadPolicyFailed (source : String)

/-- A call of the store that goes to the file system. -/
inductive FileCall
  | exists (path : String)
  | read (path : String)
  | write (path : String)

/-- The path that a call is about. -/
def FileCall.path : FileCall → String
  | .exists path | .read path | .write path => path

/-- `OPA`, by its directory, and what it uses of other crates and of the standard library. -/
structure Store where
  policyDirPath : String
  /-- `char::is_alphanumeric`. -/
  isAlphanumeric : Char → Bool
  /-- `add_policy` of a new engine. -/
  addPolicy : String → String → Except String Unit
  sha384 : Bytes → Bytes
  isAlphanumeric_ascii : ∀ c, c.toNat < 128 → isAlphanumeric c = c.isAlphanum

/-- A computation of the store: its file calls, and the files that are left. -/
abbrev StoreM (α : Type) := Traced FileSystem FileCall PolicyError α

/-- A call for a path. A path with a NUL is refused before the file system is asked. -/
def callFile {α : Type} (call : FileCall) (fail : IoError → PolicyError)
    (f : FileSystem → Except IoError α × FileSystem) : StoreM α := fun fs =>
  if Char.ofNat 0 ∈ call.path.toList then ⟨.error (fail .nulByte), [], fs⟩
  else ⟨(f fs).1.mapError fail, [call], (f fs).2⟩

/-- `Path::exists`. -/
def pathExists (path : String) : StoreM Bool := fun fs =>
  if Char.ofNat 0 ∈ path.toList then ⟨.ok false, [], fs⟩
  else ⟨.ok (fs.pathExists path), [.exists path], fs⟩

/-- `fs::read`. -/
def readFile (path : String) : StoreM Bytes :=
  callFile (.read path) .readPolicyFileFailed fun fs => (fs.read path, fs)

/-- `fs::write`. -/
def writeFile (path : String) (b : Bytes) : StoreM Unit :=
  callFile (.write path) .writePolicyFileFailed fun fs =>
    match fs.write path b with
    | .ok fs' => (.ok (), fs')
    | .error e => (.error e, fs)

namespace Store

variable (S : Store)

/-- `is_valid_policy_id`. -/
def isValidPolicyId (policyId : String) : Bool :=
  policyId.toList.all fun c => S.isAlphanumeric c || c == '_' || c == '-'

/-- The file of an identifier, for `set_policy` and `get_policy`. -/
def policyFilePath (policyId : String) : String :=
  FileSystem.join S.policyDirPath (policyId ++ ".rego")

/-- What `set_policy` checks before it goes to the file: the policy that it would write. -/
def checkPolicy (policyId policy : String) : Except PolicyError Bytes :=
  match Base64.decodeUrlSafeNoPad policy with
  | none => .error (.base64DecodeFailed "invalid base64")
  | some policyBytes =>
    if S.isValidPolicyId policyId then
      match fromUtf8 policyBytes with
      | none => .error (.invalidPolicy "invalid utf-8 sequence")
      | some policyContent =>
        match S.addPolicy policyId policyContent with
        | .error e => .error (.invalidPolicy e)
        | .ok () => .ok policyBytes
    else .error .invalidPolicyId

/-- `set_policy`. A policy that exists and is not overwritten is a success. -/
def setPolicy (policyId policy : String) (overwrite : Bool) : StoreM Unit := do
  let policyBytes ← Traced.lift (S.checkPolicy policyId policy)
  if overwrite then writeFile (S.policyFilePath policyId) policyBytes
  else
    let found ← pathExists (S.policyFilePath policyId)
    if found then return () else writeFile (S.policyFilePath policyId) policyBytes

/-- `get_policy`. -/
def getPolicy (policyId : String) : StoreM String := do
  let policy ← readFile (S.policyFilePath policyId)
  return Base64.encodeUrlSafeNoPad policy

/-- `evaluate`, with what the engine makes of the policy of an identifier. -/
def evaluate {α : Type} (engine : String → String → Except PolicyError α) (policyId : String) :
    StoreM α := do
  let policy ← readFile (S.policyDirPath ++ "/" ++ policyId ++ ".rego")
  match fromUtf8 policy with
  | none => Traced.lift (.error (.readPolicyFileFailed .invalidUtf8))
  | some policy => Traced.lift (engine policyId policy)

/-! ## Listing -/

/-- `Path::extension` and `Path::file_stem` of a file name: what stands behind the last dot, unless
nothing stands before it. -/
def splitExtension (name : String) : String × Option String :=
  if name = ".." then (name, none)
  else
    match name.toList.reverse.dropWhile (· ≠ '.') with
    | [] => (name, none)
    | [_] => (name, none)
    | _ :: before => (String.ofList before.reverse,
        some (String.ofList (name.toList.reverse.takeWhile (· ≠ '.')).reverse))

/-- The identifiers of file names. -/
def policyIds (names : List String) : List String :=
  names.filterMap fun name =>
    if (splitExtension name).2 = some "rego" then some (splitExtension name).1 else none

/-- The loop of `list_policies`. -/
def digestAll (fs : FileSystem) : List String → Table String String →
    Except PolicyError (Table String String)
  | [], policyList => .ok policyList
  | id :: ids, policyList =>
    match fs.read (S.policyFilePath id) with
    | .error e => .error (.readPolicyFileFailed e)
    | .ok policy =>
      digestAll fs ids (policyList.insert id (Base64.encodeUrlSafeNoPad (S.sha384 policy)))

/-- `list_policies`. -/
def listPolicies (listing : FileSystem.Listing) (fs : FileSystem) :
    Except PolicyError (Table String String) :=
  match fs.readDir listing S.policyDirPath with
  | .error e => .error (.ioError e)
  | .ok names => S.digestAll fs (policyIds names) .empty

end Store

end Trustmee.Policy
