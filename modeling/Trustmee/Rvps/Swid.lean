import Trustmee.Foundations.Numbering
import Trustmee.Rvps.Service
import Mathlib.Data.List.ReduceOption

/-!
# The extractor of manifests

A manifest is an XML document with SWID tags. Each resource of its payload that is a measurement
gives a reference value: its name is made of the manufacturer, the edition and the index of the
resource, and its value is the list of the hashes `Hash0`, `Hash1` and so on, up to the first number
that is missing.
-/

namespace Trustmee.Rvps

/-! ## Documents -/

/-- `ExpandedName` of `roxmltree`: a name and its namespace. -/
structure ExpandedName where
  uri : Option String
  name : String
  deriving DecidableEq

/-- `Node`: an element, or a node that has neither a name nor children, such as a text. -/
inductive Node
  | element (tagName : ExpandedName) (attributes : List (ExpandedName × String))
      (children : List Node)
  | other

namespace Node

def attributes : Node → List (ExpandedName × String)
  | element _ attributes _ => attributes
  | other => []

/-- `attribute`. -/
def attribute? (self : Node) (name : ExpandedName) : Option String := self.attributes.lookup name

/-- `has_tag_name`. -/
def hasTagName : Node → ExpandedName → Bool
  | element tagName _ _, name => decide (tagName = name)
  | other, _ => false

mutual

/-- `descendants`: the node itself and those below it, in the order of the document. -/
def descendants : Node → List Node
  | element tagName attributes children =>
    element tagName attributes children :: descendantsOf children
  | other => [other]

def descendantsOf : List Node → List Node
  | [] => []
  | node :: nodes => descendants node ++ descendantsOf nodes

end

end Node

/-! ## Hashes and names -/

def SWID_NS : String := "http://standards.iso.org/iso/19770/-2/2015/schema.xsd"

def RIMIM_NS : String := "https://trustedcomputinggroup.org/resource/" ++
  "tcg-reference-integrity-manifest-rim-information-model/"

def HASH_NS : String := "http://www.w3.org/2001/04/xmlenc#sha384"

/-- `replace(a, b)`, of characters. -/
def replaceChar (s : String) (a b : Char) : String :=
  String.ofList (s.toList.map fun c => if c = a then b else c)

/-- `Hash{hash_index}`. -/
def hashName (hashIndex : ℕ) : ExpandedName := ⟨some HASH_NS, numbered "Hash" hashIndex⟩

/-- Only zeros, as where there is no measurement. -/
def AllZero (hash : String) : Prop := hash.toList.all (· == '0') = true

instance (hash : String) : Decidable (AllZero hash) :=
  inferInstanceAs (Decidable (_ = _))

/-- The loop over the hashes of a resource. -/
def hashesFrom (resource : Node) : (fuel hashIndex : ℕ) → List String
  | 0, _ => []
  | fuel + 1, hashIndex =>
    match resource.attribute? (hashName hashIndex) with
    | none => []
    | some hash =>
      if AllZero hash then hashesFrom resource fuel (hashIndex + 1)
      else hash :: hashesFrom resource fuel (hashIndex + 1)

/-- The hashes of a resource. One of the first numbers, one more than there are attributes, is
missing. -/
def hashes (resource : Node) : List String :=
  hashesFrom resource (resource.attributes.length + 1) 0

/-- The name of a reference value. -/
def rvName (rvNamePrefix measurementIndex : String) : String :=
  replaceChar (rvNamePrefix ++ ".measurement_" ++ measurementIndex) '-' '_'

/-! ## Reference values -/

/-- `attribute("index")`. -/
def measurementIndex (resource : Node) : Option String := resource.attribute? ⟨none, "index"⟩

/-- What the extractor takes from a document: what names begin with, and the measurements of the
payload. -/
structure Manifest where
  rvNamePrefix : String
  resources : List Node

/-- A resource that is a measurement. -/
def isMeasurement (node : Node) : Bool :=
  node.hasTagName ⟨some SWID_NS, "Resource"⟩ &&
    (node.attribute? ⟨none, "type"⟩).getD "" == "Measurement"

/-- The part of `verify_and_extract` before its loop, with a parser of documents. -/
def readManifest (parse : String → Except String (List Node)) (provenanceBase64 : String) :
    Outcome Manifest := do
  let manifest ← (decodeBase64 provenanceBase64).context
    "Failed to decode reference value manifest as base 64"
  let manifest ← (Outcome.okOr (fromUtf8 manifest) "invalid utf-8 sequence").context
    "Failed to decode reference value manifest as utf8 string"
  let xml ← Outcome.ofExcept (parse manifest)
  let tag ← Outcome.okOr
    ((Node.descendantsOf xml).find? (·.hasTagName ⟨some SWID_NS, "Meta"⟩))
    "Could not find meta information."
  let manufacturer ← Outcome.okOr (tag.attribute? ⟨some RIMIM_NS, "PlatformManufacturerStr"⟩)
    "Could not find manufacturer information."
  let edition ← Outcome.okOr (tag.attribute? ⟨none, "edition"⟩)
    "Could not find edition information."
  let payload ← Outcome.okOr
    ((Node.descendantsOf xml).find? (·.hasTagName ⟨some SWID_NS, "Payload"⟩))
    "Could not find SWID payload."
  return ⟨replaceChar manufacturer ' ' '_' ++ "." ++ edition,
    payload.descendants.filter isMeasurement⟩

/-- The reference value of a resource. There is none without hashes. -/
def referenceValue (C : Chrono) (now : DateTime) (rvNamePrefix : String) (resource : Node) :
    Outcome (Option ReferenceValue) := do
  let index ← Outcome.okOr (measurementIndex resource) "Could not find measurement name"
  if hashes resource = [] then return none
  else
    let rv ← Outcome.ofExcept (ReferenceValue.new C now)
    return some ((rv.setName (rvName rvNamePrefix index)).setValue
      (.array ((hashes resource).map .string)))

/-- The reference values of a manifest. -/
def Manifest.referenceValues (C : Chrono) (now : DateTime) (M : Manifest) :
    Outcome (List ReferenceValue) := do
  let rvs ← Outcome.traverse (referenceValue C now M.rvNamePrefix) M.resources
  return rvs.reduceOption

variable {C : Chrono} {now : DateTime} {resource : Node} {rvNamePrefix : String}

/-- A reference value has the name and the hashes of its resource. -/
theorem referenceValue_eq_ok {rv : Option ReferenceValue}
    (h : referenceValue C now rvNamePrefix resource = .ok rv) :
    ∃ index, measurementIndex resource = some index ∧
      ((hashes resource = [] ∧ rv = none) ∨ hashes resource ≠ [] ∧ ∃ v, rv = some v ∧ v.Whole ∧
        v.name = rvName rvNamePrefix index ∧ v.value = .array ((hashes resource).map .string)) := by
  obtain ⟨index, hindex, h⟩ := Outcome.bind_eq_ok.1 h
  refine ⟨index, Outcome.okOr_eq_ok.1 hindex, ?_⟩
  by_cases hnone : hashes resource = []
  · rw [if_pos hnone] at h
    exact .inl ⟨hnone, (Outcome.ok.inj h).symm⟩
  · rw [if_neg hnone] at h
    obtain ⟨new, hnew, h⟩ := Outcome.bind_eq_ok.1 h
    have hwhole := ReferenceValue.whole_new C (Outcome.ofExcept_eq_ok.1 hnew)
    exact .inr ⟨hnone, _, (Outcome.ok.inj h).symm, (hwhole.setName _).setValue _, rfl, rfl⟩

theorem Manifest.forall₂_of_referenceValues {M : Manifest} {rvs : List ReferenceValue}
    (h : M.referenceValues C now = .ok rvs) : ∃ found : List (Option ReferenceValue),
      List.Forall₂ (fun r rv => referenceValue C now M.rvNamePrefix r = .ok rv) M.resources found ∧
        rvs = found.reduceOption := by
  obtain ⟨found, hfound, h⟩ := Outcome.bind_eq_ok.1 h
  exact ⟨found, Outcome.traverse_eq_ok.1 hfound, (Outcome.ok.inj h).symm⟩

theorem Manifest.whole_referenceValues {M : Manifest} {rvs : List ReferenceValue}
    (h : M.referenceValues C now = .ok rvs) : ∀ rv ∈ rvs, rv.Whole := by
  obtain ⟨found, hfound, rfl⟩ := forall₂_of_referenceValues h
  intro rv hrv
  obtain ⟨i, hi⟩ := List.mem_iff_getElem?.1 (List.reduceOption_mem_iff.1 hrv)
  obtain ⟨r, -, hr⟩ := (Outcome.getElem?_of_forall₂ hfound).1 hi
  obtain ⟨_, -, ⟨-, hnone⟩ | ⟨-, v, hv, hwhole, -⟩⟩ := referenceValue_eq_ok hr
  · cases hnone
  · cases hv
    exact hwhole

/-- `SwidExtractor`, with a parser of documents. -/
def swidExtractor (C : Chrono) (parse : String → Except String (List Node)) : Extractor where
  verifyAndExtract now provenanceBase64 := do
    let manifest ← readManifest parse provenanceBase64
    manifest.referenceValues C now
  whole now provenance rvs h := by
    obtain ⟨manifest, -, h⟩ := Outcome.bind_eq_ok.1 h
    exact manifest.whole_referenceValues h

end Trustmee.Rvps
