import Trustmee.Foundations.Encoding
import Trustmee.Foundations.Json
import Trustmee.Foundations.Table

/-!
# What serde derives

The deserialisers that serde derives for a type, and for the fields of a struct, from a JSON value.
-/

namespace Trustmee.Deserialize

/-- What `serde` says it found. -/
def unexpected : Json → String
  | .null => "null"
  | .bool b => "boolean `" ++ toString b ++ "`"
  | .number (.int n) => "integer `" ++ toString n ++ "`"
  | .number (.float text) => "floating point `" ++ text ++ "`"
  | .string s => "string \"" ++ s ++ "\""
  | .array _ => "sequence"
  | .object _ => "map"

/-- A `String`. -/
def string : Json → Except String String
  | .string s => .ok s
  | v => .error ("invalid type: " ++ unexpected v ++ ", expected a string")

/-- A `bool`. -/
def bool : Json → Except String Bool
  | .bool b => .ok b
  | v => .error ("invalid type: " ++ unexpected v ++ ", expected a boolean")

/-- An `Option<T>`. -/
def option {α : Type} (deserialize : Json → Except String α) : Json → Except String (Option α)
  | .null => .ok none
  | v => (deserialize v).map some

/-- A field that has to be there. -/
def required {α : Type} (deserialize : Json → Except String α) (m : Json.Map) (name : String) :
    Except String α :=
  match Json.Map.get m name with
  | some v => deserialize v
  | none => .error ("missing field `" ++ name ++ "`")

/-- A field of type `Option<T>`, which may be left out. -/
def optional {α : Type} (deserialize : Json → Except String α) (m : Json.Map) (name : String) :
    Except String (Option α) :=
  match Json.Map.get m name with
  | some v => option deserialize v
  | none => .ok none

/-- A field with a default. -/
def withDefault {α : Type} (deserialize : Json → Except String α) (default : α) (m : Json.Map)
    (name : String) : Except String α :=
  match Json.Map.get m name with
  | some v => deserialize v
  | none => .ok default

/-- The fields of a struct: the members of an object, or the elements of an array, where only those
after the first `least` may be left out. -/
def fields (type : String) (names : List String) (least : ℕ) : Json → Except String Json.Map
  | .object m => .ok m
  | .array l =>
    if least ≤ l.length ∧ l.length ≤ names.length then .ok (names.zip l)
    else .error ("invalid length " ++ toString l.length ++ ", expected struct " ++ type ++
      " with " ++ toString names.length ++ " elements")
  | v => .error ("invalid type: " ++ unexpected v ++ ", expected struct " ++ type)

/-- A `Vec<T>`. -/
def vec {α : Type} (deserialize : Json → Except String α) : Json → Except String (List α)
  | .array l => l.mapM deserialize
  | v => .error ("invalid type: " ++ unexpected v ++ ", expected a sequence")

/-- A `HashMap<String, T>`: of the members with one name the last stays. -/
def hashMap {α : Type} (deserialize : Json → Except String α) : Json → Except String (Table String α)
  | .object m =>
    (m.mapM fun p => (deserialize p.2).map fun a => (p.1, a)).map Table.empty.insertAll
  | v => .error ("invalid type: " ++ unexpected v ++ ", expected a map")

/-- A `u8`. -/
def u8 : Json → Except String UInt8
  | .number (.int n) =>
    if 0 ≤ n ∧ n < 256 then .ok (UInt8.ofNat n.toNat)
    else .error ("invalid value: integer `" ++ toString n ++ "`, expected u8")
  | v => .error ("invalid type: " ++ unexpected v ++ ", expected u8")

/-- A `Vec<u8>` that `serde_with` keeps as base64. -/
def base64 (v : Json) : Except String Bytes := do
  match Base64.decode (← string v) with
  | some b => .ok b
  | none => .error "invalid base64"

theorem required_eq_ok {α : Type} {deserialize : Json → Except String α} {m : Json.Map}
    {name : String} {a : α} : required deserialize m name = .ok a ↔
      ∃ v, Json.Map.get m name = some v ∧ deserialize v = .ok a := by
  rw [required]
  cases Json.Map.get m name <;> simp

/-- An element of a list that was read was read. -/
theorem exists_of_mem_vec {α : Type} {deserialize : Json → Except String α} {v : Json}
    {l : List α} (h : vec deserialize v = .ok l) {a : α} (ha : a ∈ l) :
    ∃ v, deserialize v = .ok a := by
  unfold vec at h
  split at h
  · next elements =>
    induction elements generalizing l with
    | nil =>
      cases h
      cases ha
    | cons v elements ih =>
      rw [List.mapM_cons] at h
      obtain ⟨b, hb, h⟩ := except_bind_eq_ok.1 h
      obtain ⟨l', hl', h⟩ := except_bind_eq_ok.1 h
      cases h
      rcases List.mem_cons.1 ha with rfl | ha
      · exact ⟨v, hb⟩
      · exact ih ha hl'
  · cases h

/-- A map of texts is read back from its bindings, in any order. -/
theorem hashMap_string {l : List (String × String)} {t : Table String String}
    (h : Table.Enumerates l t) :
    hashMap string (.object (l.map fun p => (p.1, .string p.2))) = .ok t := by
  have hmapM : (l.map fun p => (p.1, Json.string p.2)).mapM
      (fun p => (string p.2).map fun a => (p.1, a)) = .ok l := by
    rw [List.mapM_map]
    have hpure : ((fun p : String × Json => (string p.2).map fun a => (p.1, a)) ∘
        fun p : String × String => (p.1, Json.string p.2)) = pure := by
      funext p
      rfl
    rw [hpure, List.mapM_pure, List.map_id']
    rfl
  rw [hashMap, hmapM]
  exact congrArg Except.ok ((Table.enumerates_insertAll h.nodup).eq h)

theorem base64_encode (b : Bytes) : base64 (.string (Base64.encode b)) = .ok b := by
  simp [base64, string, bind, Except.bind]

end Trustmee.Deserialize
