import Trustmee.Foundations.Deserialize

/-!
# Reference values

A reference value has a name, a value and the time after which it is invalid. It is stored as a JSON
object, whose date has no fraction of a second: a value without nanoseconds is read back as it was
(`fromValue_toValue`).
-/

namespace Trustmee.Rvps

/-- `DateTime<Utc>`: the seconds since 1970, and the nanoseconds of the last one. -/
structure DateTime where
  seconds : ℤ
  nanosecond : ℕ
  deriving DecidableEq

/-- `self < other`. -/
def DateTime.before (self other : DateTime) : Prop :=
  self.seconds < other.seconds ∨
    (self.seconds = other.seconds ∧ self.nanosecond < other.nanosecond)

instance (a b : DateTime) : Decidable (a.before b) :=
  inferInstanceAs (Decidable (_ ∨ _))

/-- `with_nanosecond(0)`. -/
def DateTime.withoutNanosecond (self : DateTime) : DateTime := { self with nanosecond := 0 }

/-- What `chrono` does with dates. A date without nanoseconds is written without a fraction, as
`parse_from_str` wants it. -/
structure Chrono where
  /-- `Serialize`. -/
  toText : DateTime → String
  /-- `NaiveDateTime::parse_from_str(…, "%Y-%m-%dT%H:%M:%SZ")`. -/
  parseFromStr : String → Except String DateTime
  checkedAddMonths : DateTime → ℕ → Option DateTime
  parseFromStr_toText : ∀ t, t.nanosecond = 0 → parseFromStr (toText t) = .ok t
  nanosecond_checkedAddMonths : ∀ t n t', checkedAddMonths t n = some t' →
    t'.nanosecond = t.nanosecond

/-- A text for each second: that of the first one as `chrono` writes it, and marks for the seconds
before and after it. -/
def tallyText (t : DateTime) : String :=
  match t.seconds with
  | .ofNat 0 => "1970-01-01T00:00:00Z"
  | .ofNat (n + 1) => String.ofList (List.replicate (n + 1) '+')
  | .negSucc n => String.ofList (List.replicate (n + 1) '-')

/-- The second of a text. -/
def tallySeconds (s : String) : ℤ :=
  match s.toList with
  | '+' :: l => .ofNat (l.length + 1)
  | '-' :: l => .negSucc l.length
  | _ => .ofNat 0

/-- Dates as marks, for runs on fixed dates. Twelve months are the 365 days of a year. -/
def tallyChrono : Chrono where
  toText := tallyText
  parseFromStr s := .ok ⟨tallySeconds s, 0⟩
  checkedAddMonths t n := some { t with seconds := t.seconds + n * 2628000 }
  parseFromStr_toText t ht := by
    obtain ⟨seconds, nanosecond⟩ := t
    obtain rfl : nanosecond = 0 := ht
    cases seconds with
    | ofNat n =>
      cases n with
      | zero => rfl
      | succ n => simp [tallyText, tallySeconds, List.replicate_succ]
    | negSucc n => simp [tallyText, tallySeconds, List.replicate_succ]
  nanosecond_checkedAddMonths t n t' h := by
    cases h
    rfl

def REFERENCE_VALUE_VERSION : String := "0.1.0"

def MONTHS_BEFORE_EXPIRATION : ℕ := 12

/-- `ReferenceValue`. -/
structure ReferenceValue where
  version : String
  name : String
  expiration : DateTime
  value : Json

namespace ReferenceValue

variable (C : Chrono)

/-- `ReferenceValue::new`, at a time. -/
def new (now : DateTime) : Except String ReferenceValue :=
  match C.checkedAddMonths now.withoutNanosecond MONTHS_BEFORE_EXPIRATION with
  | some expiration => .ok ⟨REFERENCE_VALUE_VERSION, "", expiration, .null⟩
  | none => .error "Failed to set time."

/-- `set_name`. -/
def setName (rv : ReferenceValue) (name : String) : ReferenceValue := { rv with name }

/-- `set_value`. -/
def setValue (rv : ReferenceValue) (value : Json) : ReferenceValue := { rv with value }

/-- `expired`, at a time. -/
def expired (rv : ReferenceValue) (now : DateTime) : Bool := decide (rv.expiration.before now)

/-- The date has no fraction of a second. -/
def Whole (rv : ReferenceValue) : Prop := rv.expiration.nanosecond = 0

/-- New values have no fraction of a second. -/
theorem whole_new {now : DateTime} {rv : ReferenceValue} (h : new C now = .ok rv) : rv.Whole := by
  unfold new at h
  split at h
  · next expiration hadd =>
    cases h
    exact C.nanosecond_checkedAddMonths _ _ _ hadd
  · cases h

theorem Whole.setName {rv : ReferenceValue} (h : rv.Whole) (name : String) :
    (rv.setName name).Whole := h

theorem Whole.setValue {rv : ReferenceValue} (h : rv.Whole) (value : Json) :
    (rv.setValue value).Whole := h

/-- The derived `Serialize`. -/
def toValue (rv : ReferenceValue) : Json := .object
  [("version", .string rv.version), ("name", .string rv.name),
   ("expiration", .string (C.toText rv.expiration)), ("value", rv.value)]

/-- `primitive_date_time_from_str`. -/
def primitiveDateTimeFromStr (v : Json) : Except String DateTime :=
  match v with
  | .null => .error "invalid length 0, expected <TIME>"
  | v => do C.parseFromStr (← Deserialize.string v)

/-- The derived `Deserialize`. -/
def fromValue (v : Json) : Except String ReferenceValue := do
  let m ← Deserialize.fields "ReferenceValue" ["version", "name", "expiration", "value"] 4 v
  let version ← Deserialize.withDefault Deserialize.string REFERENCE_VALUE_VERSION m "version"
  let name ← Deserialize.required Deserialize.string m "name"
  let expiration ← Deserialize.required (primitiveDateTimeFromStr C) m "expiration"
  let value ← Deserialize.required .ok m "value"
  return ⟨version, name, expiration, value⟩

variable {C}

/-- The date is read back as it was. -/
def DateReads (C : Chrono) (rv : ReferenceValue) : Prop :=
  C.parseFromStr (C.toText rv.expiration) = .ok rv.expiration

theorem Whole.dateReads {rv : ReferenceValue} (h : rv.Whole) : rv.DateReads C :=
  C.parseFromStr_toText _ h

/-- **A value is read back as it was when its date is**: when it has no fraction of a second. -/
theorem fromValue_toValue {rv : ReferenceValue} (h : rv.DateReads C) :
    fromValue C (rv.toValue C) = .ok rv := by
  have hdate : primitiveDateTimeFromStr C (.string (C.toText rv.expiration)) =
      .ok rv.expiration := h
  simp [fromValue, toValue, Deserialize.fields, Deserialize.withDefault, Deserialize.required,
    Deserialize.string, Json.Map.get_cons, hdate, bind, Except.bind, pure, Except.pure]

/-- The date of a value that was read is that of a text. -/
theorem exists_parseFromStr {v : Json} {rv : ReferenceValue} (h : fromValue C v = .ok rv) :
    ∃ text, C.parseFromStr text = .ok rv.expiration := by
  simp only [fromValue, except_bind_eq_ok] at h
  obtain ⟨m, -, version, -, name, -, expiration, hexpiration, value, -, h⟩ := h
  cases h
  obtain ⟨v, -, hv⟩ := Deserialize.required_eq_ok.1 hexpiration
  unfold primitiveDateTimeFromStr at hv
  split at hv
  · cases hv
  · obtain ⟨text, -, htext⟩ := except_bind_eq_ok.1 hv
    exact ⟨text, htext⟩

/-- Values are read back from a list of them. -/
theorem vec_fromValue_toValue {l : List ReferenceValue} (h : ∀ rv ∈ l, rv.DateReads C) :
    Deserialize.vec (fromValue C) (.array (l.map (toValue C))) = .ok l := by
  rw [Deserialize.vec]
  induction l with
  | nil => rfl
  | cons rv l ih =>
    rw [List.forall_mem_cons] at h
    rw [List.map_cons, List.mapM_cons, fromValue_toValue h.1, ih h.2]
    rfl

end ReferenceValue

end Trustmee.Rvps
