import Trustmee.Foundations.Encoding
import Trustmee.Foundations.Json
import Trustmee.Foundations.Utf8

/-!
# JSON texts

The compact text that `serde_json` writes for a value (`Json.print`), and its reader, `from_str`, as
a parameter: `from_str::<T>` reads a text as a value and deserialises it with what `T` derives. On a
text that `serde_json` wrote itself it finds what `from_value::<T>` finds in the value
(`SerdeJson.Reads`).
-/

namespace Trustmee

/-! ## Characters -/

/-- `char::is_whitespace`. -/
def isWhitespace (c : Char) : Bool :=
  c.toNat ∈ [0x20, 0x85, 0xA0, 0x1680, 0x2028, 0x2029, 0x202F, 0x205F, 0x3000] ||
    (0x9 ≤ c.toNat && c.toNat ≤ 0xD) || (0x2000 ≤ c.toNat && c.toNat ≤ 0x200A)

/-- `split(c)`. -/
def splitChar (s : String) (c : Char) : List String := (s.toList.splitOn c).map String.ofList

/-- `trim_end_matches(c)`. -/
def trimEndMatches (s : String) (c : Char) : String :=
  String.ofList (s.toList.reverse.dropWhile (· == c)).reverse

/-- `trim_start_matches(c)`. -/
def trimStartMatches (s : String) (c : Char) : String :=
  String.ofList (s.toList.dropWhile (· == c))

/-- `s.trim_start().starts_with('{')`. -/
def startsWithBrace (s : String) : Bool := (s.toList.dropWhile isWhitespace).head? == some '{'

namespace Json

/-! ## Writing -/

def escapeChar (c : Char) : List Char :=
  if c = '"' then ['\\', '"']
  else if c = '\\' then ['\\', '\\']
  else if c.toNat = 8 then ['\\', 'b']
  else if c.toNat = 9 then ['\\', 't']
  else if c.toNat = 10 then ['\\', 'n']
  else if c.toNat = 12 then ['\\', 'f']
  else if c.toNat = 13 then ['\\', 'r']
  else if c.toNat < 32 then
    ['\\', 'u', '0', '0', hexDigit (c.toNat / 16), hexDigit (c.toNat % 16)]
  else [c]

def quote (s : String) : List Char := '"' :: (s.toList.flatMap escapeChar ++ ['"'])

def Number.print : Number → String
  | .int n => toString n
  | .float text => text

mutual

def printChars : Json → List Char
  | null => "null".toList
  | bool b => (if b then "true" else "false").toList
  | number n => (Number.print n).toList
  | string s => quote s
  | array l => '[' :: printElements l
  | object m => '{' :: printMembers m

def printElements : List Json → List Char
  | [] => [']']
  | [v] => printChars v ++ [']']
  | v :: l => printChars v ++ ',' :: printElements l

def printMembers : List (String × Json) → List Char
  | [] => ['}']
  | [(k, v)] => quote k ++ ':' :: (printChars v ++ ['}'])
  | (k, v) :: m => quote k ++ ':' :: (printChars v ++ ',' :: printMembers m)

end

/-- `serde_json::to_string`. -/
def print (v : Json) : String := String.ofList (printChars v)

theorem toList_print (v : Json) : v.print.toList = printChars v := String.toList_ofList

/-- The text of an object starts with a brace. -/
theorem startsWithBrace_print (m : Map) : startsWithBrace (object m).print = true := by
  rw [startsWithBrace, toList_print]
  simp [printChars, isWhitespace]

/-- The text of an object is not the one of `null`. -/
theorem print_object_ne_null (m : Map) : (object m).print ≠ "null" := by
  intro h
  have hlist := congrArg String.toList h
  rw [toList_print] at hlist
  have hhead := congrArg List.head? hlist
  rcases m with _ | ⟨⟨k, v⟩, _ | ⟨⟨k', v'⟩, m⟩⟩ <;>
    simp [printChars, printMembers] at hhead

end Json

/-! ## Reading -/

/-- `serde_json::from_str::<T>`, given the deserialiser of `T`. -/
structure SerdeJson where
  fromStr : {α : Type} → (Json → Except String α) → String → Except String α

namespace SerdeJson

variable {α : Type}

/-- `serde_json::from_slice::<T>`: bytes that are not UTF-8 are refused. -/
def fromSlice (serde : SerdeJson) (deserialize : Json → Except String α) (b : Bytes) :
    Except String α :=
  match fromUtf8 b with
  | some s => serde.fromStr deserialize s
  | none => .error "invalid unicode code point"

/-- Reading the text of the value finds what deserialising the value finds. -/
def Reads (serde : SerdeJson) (deserialize : Json → Except String α) (v : Json) : Prop :=
  ∀ a, serde.fromStr deserialize v.print = .ok a ↔ deserialize v = .ok a

end SerdeJson

end Trustmee
