import Trustmee.Foundations.FileSystem
import Trustmee.Kbs.ApiServer

/-!
# Administrators

Who may change what the KBS holds. The back end that is configured by default knows personas, each
by an Ed25519 key that it read at the start, and takes a token that verifies under one of their keys
(`validateAdminToken_eq_ok`). The two others let everyone in, or no one.
-/

namespace Trustmee.Kbs

/-- The members of the administrators' `Error` that the back ends give. -/
inductive AdminError
  | AdminAccessDenied
  | AdminEndpointsDisabled
  | ParsePublicKey (source : String)
  | ParseAuthHeaderFailed (source : String)
  | ReadPublicKey (source : IoError)

/-- `Display`: sources are not shown. -/
def AdminError.display : AdminError → String
  | AdminAccessDenied => "Admin Token could not be verified for any admin persona"
  | AdminEndpointsDisabled => "Admin endpoints disabled."
  | ParsePublicKey _ => "Failed to parse admin public key"
  | ParseAuthHeaderFailed _ => "Failed to parse HTTP Auth Bearer header"
  | ReadPublicKey _ => "Read admin public key failed"

/-- What the back ends take from `jwt_simple`. -/
structure JwtSimple where
  Ed25519PublicKey : Type
  /-- `Ed25519PublicKey::from_pem`. -/
  fromPem : String → Except String Ed25519PublicKey
  /-- `verify_token::<NoCustomClaims>` with the default options, at a time. -/
  verifyToken : Ed25519PublicKey → Time → String → Except String Unit

/-- `SimplePersonaConfig`. -/
structure SimplePersonaConfig where
  id : String
  publicKeyPath : String

/-- `AdminBackendType`. -/
inductive AdminBackendType
  | Simple (personas : List SimplePersonaConfig)
  | InsecureAllowAll
  | DenyAll

/-- `SimplePersona`. -/
structure SimplePersona (A : JwtSimple) where
  id : String
  publicKey : A.Ed25519PublicKey

/-- The back ends of `Admin`. -/
inductive AdminBackend (A : JwtSimple)
  | Simple (personas : List (SimplePersona A))
  | InsecureAllowAll
  | DenyAll

/-- `fs::read_to_string`. -/
def readToString (fs : FileSystem) (path : String) : Except IoError String :=
  match fs.read path with
  | .error e => .error e
  | .ok b =>
    match fromUtf8 b with
    | some s => .ok s
    | none => .error .invalidUtf8

namespace AdminBackend

variable {A : JwtSimple}

/-- A persona, with the key of its file. -/
def persona (fs : FileSystem) (config : SimplePersonaConfig) :
    Except AdminError (SimplePersona A) := do
  let userPublicKeyPem ← (readToString fs config.publicKeyPath).mapError .ReadPublicKey
  let publicKey ← (A.fromPem userPublicKeyPem).mapError .ParsePublicKey
  return ⟨config.id, publicKey⟩

/-- `SimpleAdminBackend::new`, and the back ends that need no set-up. -/
def tryFrom (fs : FileSystem) : AdminBackendType → Except AdminError (AdminBackend A)
  | .Simple configs => do
    let personas ← configs.mapM (persona fs)
    return .Simple personas
  | .InsecureAllowAll => .ok .InsecureAllowAll
  | .DenyAll => .ok .DenyAll

/-- `validate_admin_token`. The personas are tried in their order. -/
def validateAdminToken (backend : AdminBackend A) (now : Time) (request : HttpRequest) :
    Except AdminError Unit :=
  match backend with
  | .Simple personas => do
    let token ← request.bearer.mapError .ParseAuthHeaderFailed
    if personas.any fun persona => (A.verifyToken persona.publicKey now token).isOk then .ok ()
    else .error .AdminAccessDenied
  | .InsecureAllowAll => .ok ()
  | .DenyAll => .error .AdminEndpointsDisabled

/-- The token verifies under the key of a persona. -/
def Knows (personas : List (SimplePersona A)) (now : Time) (token : String) : Prop :=
  ∃ persona ∈ personas, A.verifyToken persona.publicKey now token = .ok ()

variable {now : Time} {request : HttpRequest}

theorem isOk_iff {ε : Type} {x : Except ε Unit} : x.isOk = true ↔ x = .ok () := by
  cases x with
  | error e => simp [Except.isOk, Except.toBool]
  | ok u => simp [Except.isOk, Except.toBool]

/-- Personas are let in by a token that one of them signed. -/
theorem validateAdminToken_eq_ok {personas : List (SimplePersona A)} :
    (Simple personas).validateAdminToken now request = .ok () ↔
      ∃ token, request.bearer = .ok token ∧ Knows personas now token := by
  unfold validateAdminToken
  cases hbearer : request.bearer with
  | error e => simp [Except.mapError, bind, Except.bind]
  | ok token =>
    have hany : (personas.any fun persona =>
        (A.verifyToken persona.publicKey now token).isOk) = true ↔ Knows personas now token := by
      simp only [List.any_eq_true, isOk_iff, Knows]
    simp only [Except.mapError, bind, Except.bind, Except.ok.injEq, exists_eq_left']
    by_cases hknows : Knows personas now token
    · rw [if_pos (hany.2 hknows)]
      exact iff_of_true rfl hknows
    · rw [if_neg (mt hany.1 hknows)]
      exact iff_of_false (fun h => by cases h) hknows

end AdminBackend

end Trustmee.Kbs
