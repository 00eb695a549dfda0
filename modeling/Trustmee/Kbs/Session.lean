import Trustmee.KbsTypes
import Trustmee.Foundations.Outcome
import Trustmee.Foundations.Table
import Mathlib.Algebra.Order.Ring.Int

/-!
# Sessions of the RCAR handshake

A session is created by `auth` in the state `Authed`, which holds the request and the challenge, and
moves to `Attested`, which holds the token, when its evidence has been verified. `request` and
`challenge` may only be called on an `Authed` session: on an `Attested` one they panic.
-/

namespace Trustmee.Kbs

/-- `OffsetDateTime`, in nanoseconds. -/
abbrev Time := ℤ

/-- `Duration::minutes`. -/
def minutes (n : ℤ) : Time := n * 60 * 10 ^ 9

/-- `kbs-session-id=<id>`, and when it expires. -/
structure Cookie where
  id : String
  expires : Time
  deriving DecidableEq

/-- The state machine of the handshake. -/
inductive SessionStatus
  | Authed (request : Request) (challenge : Challenge) (id : String) (timeout : Time)
  | Attested (token : String) (id : String) (timeout : Time)

namespace SessionStatus

/-- A new session: `id` is the fresh UUID, `minutes timeout` from now it expires. -/
def auth (request : Request) (timeout : ℤ) (challenge : Challenge) (now : Time) (id : String) :
    SessionStatus :=
  .Authed request challenge id (now + minutes timeout)

/-- `impl_member!(request, Request, Authed)`. -/
def request : SessionStatus → Outcome Request
  | .Authed request _ _ _ => .ok request
  | .Attested .. => .panic "unexpected status"

/-- `impl_member!(challenge, Challenge, Authed)`. -/
def challenge : SessionStatus → Outcome Challenge
  | .Authed _ challenge _ _ => .ok challenge
  | .Attested .. => .panic "unexpected status"

def id : SessionStatus → String
  | .Authed _ _ id _ => id
  | .Attested _ id _ => id

def timeout : SessionStatus → Time
  | .Authed _ _ _ timeout => timeout
  | .Attested _ _ timeout => timeout

def cookie (session : SessionStatus) : Cookie := ⟨session.id, session.timeout⟩

def isExpired (session : SessionStatus) (now : Time) : Bool := decide (session.timeout < now)

/-- An attested session keeps its token. -/
def attest (session : SessionStatus) (token : String) : SessionStatus :=
  match session with
  | .Authed _ _ id timeout => .Attested token id timeout
  | .Attested token' id timeout => .Attested token' id timeout

/-- The session is attested. -/
def IsAttested : SessionStatus → Prop
  | .Authed .. => False
  | .Attested .. => True

variable (session : SessionStatus) (token : String)

@[simp] theorem id_attest : (session.attest token).id = session.id := by cases session <;> rfl

@[simp] theorem timeout_attest : (session.attest token).timeout = session.timeout := by
  cases session <;> rfl

theorem isAttested_attest : (session.attest token).IsAttested := by cases session <;> trivial

variable {session token}

theorem attest_of_isAttested (h : session.IsAttested) : session.attest token = session := by
  cases session with
  | Authed => cases h
  | Attested => rfl

theorem request_eq_panic {m : String} (h : session.request = .panic m) : session.IsAttested := by
  cases session with
  | Authed => cases h
  | Attested => trivial

theorem request_panic (h : session.IsAttested) : session.request = .panic "unexpected status" := by
  cases session with
  | Authed => cases h
  | Attested => rfl

end SessionStatus

/-- `SessionMap`. -/
abbrev SessionMap := Table String SessionStatus

/-- `SessionMap::insert`: the result of `scc::HashMap::insert` is dropped. -/
def SessionMap.insert (sessions : SessionMap) (session : SessionStatus) : SessionMap :=
  sessions.insertNew session.id session

end Trustmee.Kbs
