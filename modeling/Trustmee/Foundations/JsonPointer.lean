import Trustmee.Foundations.Json

/-!
# JSON pointers

`Value::pointer`: a path of member names and array indices, each after a slash. In a name `~1`
stands for a slash and `~0` for a tilde. An index has no sign and no leading zeros.
-/

namespace Trustmee.Json

/-- `str::split` at a character. -/
def splitChars (sep : Char) : List Char → List (List Char)
  | [] => [[]]
  | c :: text =>
    if c = sep then [] :: splitChars sep text
    else match splitChars sep text with
      | [] => [[c]]
      | part :: parts => (c :: part) :: parts

/-- A part of a pointer as the name it stands for. -/
def unescape : List Char → List Char
  | '~' :: '1' :: text => '/' :: unescape text
  | '~' :: '0' :: text => '~' :: unescape text
  | c :: text => c :: unescape text
  | [] => []

/-- The names of a pointer. -/
def pointerTokens (pointer : String) : Option (List String) :=
  match pointer.toList with
  | [] => some []
  | '/' :: text => some ((splitChars '/' text).map fun part => String.ofList (unescape part))
  | _ => none

/-- `parse_index`. -/
def parseIndex (token : String) : Option ℕ :=
  match token.toList with
  | [] => none
  | ['0'] => some 0
  | '0' :: _ => none
  | digits =>
    if digits.all Char.isDigit then some (digits.foldl (fun n c => n * 10 + (c.toNat - 48)) 0)
    else none

/-- The value that a name leads to. -/
def follow (v : Json) (token : String) : Option Json :=
  match v with
  | object m => Map.get m token
  | array l => (parseIndex token).bind fun i => l[i]?
  | _ => none

/-- The value that names lead to, one after another. -/
def followAll (v : Json) (tokens : List String) : Option Json :=
  tokens.foldlM follow v

/-- `Value::pointer`. -/
def pointer (v : Json) (path : String) : Option Json :=
  (pointerTokens path).bind (followAll v)

/-- A name that is no index leads to members alone. -/
theorem follow_eq_get {token : String} (h : parseIndex token = none) (v : Json) :
    follow v token = v.get token := by
  cases v with
  | array l => simp only [follow, h, Option.bind_none, get]
  | _ => rfl

theorem followAll_cons (v : Json) (token : String) (tokens : List String) :
    followAll v (token :: tokens) = (follow v token).bind fun w => followAll w tokens := rfl

@[simp] theorem followAll_nil (v : Json) : followAll v [] = some v := rfl

/-- A pointer leads nowhere when its first name does not. -/
theorem pointer_eq_none {path token : String} {tokens : List String}
    (hpath : pointerTokens path = some (token :: tokens)) (htoken : parseIndex token = none)
    {v : Json} (h : v.get token = none) : v.pointer path = none := by
  rw [pointer, hpath, Option.bind_some, followAll_cons, follow_eq_get htoken, h, Option.bind_none]

end Trustmee.Json
