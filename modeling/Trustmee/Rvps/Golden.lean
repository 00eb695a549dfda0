import Trustmee.Rvps.Failures
import Trustmee.Rvps.Swid
import Mathlib.Data.List.Perm.Subperm

/-!
# The hashes of a manifest

After a manifest is registered, the answer for the name of one of its resources holds the hashes of
the last resource of that name that has any (`holdsHash_iff`). A hash behind a missing number is in
no answer, and neither is a hash of a resource that is followed by another one of the same name.
Hence no hash is lost exactly when indices stay different where `-` becomes `_`, and each hash is
also one of the last resource of its index (`goldenKept_iff`).
-/

namespace Trustmee

namespace Rvps

/-! ## The hashes of a resource -/

/-- The attribute of a number is a hash that is not zero. -/
def GoldenHash (resource : Node) (hashIndex : ℕ) (hash : String) : Prop :=
  resource.attribute? (hashName hashIndex) = some hash ∧ ¬ AllZero hash

/-- The hash is not zero, and no number before its own is missing. -/
def ListsHash (resource : Node) (hash : String) : Prop :=
  ∃ hashIndex, GoldenHash resource hashIndex hash ∧
    ∀ i < hashIndex, resource.attribute? (hashName i) ≠ none

section Hashes

variable {resource : Node}

theorem hashName_injective {i j : ℕ} (h : hashName i = hashName j) : i = j :=
  (numbered_injective (by decide) (by decide) (congrArg ExpandedName.name h)).2

theorem mem_of_attribute? {name : ExpandedName} (h : resource.attribute? name ≠ none) :
    name ∈ resource.attributes.map Prod.fst := by
  rw [Node.attribute?, ne_eq, List.lookup_eq_none_iff] at h
  push Not at h
  obtain ⟨p, hp, heq⟩ := h
  obtain rfl : name = p.1 := by simpa using heq
  exact List.mem_map_of_mem hp

/-- There are not more numbers in a row than attributes. -/
theorem exists_missing (resource : Node) :
    ∃ i ≤ resource.attributes.length, resource.attribute? (hashName i) = none := by
  by_contra hall
  push Not at hall
  have hnodup : ((List.range (resource.attributes.length + 1)).map hashName).Nodup :=
    List.nodup_range.map fun _ _ => hashName_injective
  have hsubset : (List.range (resource.attributes.length + 1)).map hashName ⊆
      resource.attributes.map Prod.fst := by
    intro name hname
    obtain ⟨i, hi, rfl⟩ := List.mem_map.1 hname
    exact mem_of_attribute? (hall i (Nat.le_of_lt_succ (List.mem_range.1 hi)))
  have hlength := (hnodup.subperm hsubset).length_le
  rw [List.length_map, List.length_range, List.length_map] at hlength
  omega

/-- The hashes of the numbers from one on, up to the first that is missing. -/
theorem mem_hashesFrom {fuel start : ℕ} {hash : String} :
    hash ∈ hashesFrom resource fuel start ↔ ∃ i, start ≤ i ∧ i < start + fuel ∧
      GoldenHash resource i hash ∧
        ∀ j, start ≤ j → j < i → resource.attribute? (hashName j) ≠ none := by
  induction fuel generalizing start with
  | zero =>
    rw [hashesFrom]
    constructor
    · rintro ⟨⟩
    · rintro ⟨i, hle, hlt, -⟩
      omega
  | succ fuel ih =>
    -- The hash of `start` is there, or the search stops: the others are those from the next number.
    have hnext (hfound : resource.attribute? (hashName start) ≠ none) :
        hash ∈ hashesFrom resource fuel (start + 1) ↔ ∃ i, start < i ∧ i < start + (fuel + 1) ∧
          GoldenHash resource i hash ∧
            ∀ j, start ≤ j → j < i → resource.attribute? (hashName j) ≠ none := by
      rw [ih]
      refine exists_congr fun i => ⟨?_, ?_⟩
      · rintro ⟨hle, hlt, hi, hbefore⟩
        refine ⟨hle, by omega, hi, fun j hj hji => ?_⟩
        rcases Nat.eq_or_lt_of_le hj with rfl | hj
        · exact hfound
        · exact hbefore j hj hji
      · rintro ⟨hle, hlt, hi, hbefore⟩
        exact ⟨hle, by omega, hi, fun j hj hji => hbefore j (by omega) hji⟩
    rw [hashesFrom]
    cases hstart : resource.attribute? (hashName start) with
    | none =>
      dsimp only
      constructor
      · rintro ⟨⟩
      · rintro ⟨i, hle, -, hi, hbefore⟩
        rcases Nat.eq_or_lt_of_le hle with rfl | hlt
        · cases hstart.symm.trans hi.1
        · exact absurd hstart (hbefore start (Nat.le_refl _) hlt)
    | some first =>
      have hfound : resource.attribute? (hashName start) ≠ none := by simp [hstart]
      dsimp only
      split
      · next hzero =>
        rw [hnext hfound]
        refine exists_congr fun i => ⟨fun h => ⟨Nat.le_of_lt h.1, h.2⟩, ?_⟩
        rintro ⟨hle, hlt, hi, hbefore⟩
        refine ⟨Nat.lt_of_le_of_ne hle ?_, hlt, hi, hbefore⟩
        rintro rfl
        obtain rfl := Option.some.inj (hstart.symm.trans hi.1)
        exact hi.2 hzero
      · next hzero =>
        rw [List.mem_cons, hnext hfound]
        constructor
        · rintro (rfl | ⟨i, hlt, h⟩)
          · exact ⟨start, Nat.le_refl _, by omega, ⟨hstart, hzero⟩, fun j hj hji => by omega⟩
          · exact ⟨i, Nat.le_of_lt hlt, h⟩
        · rintro ⟨i, hle, h⟩
          rcases Nat.eq_or_lt_of_le hle with rfl | hlt
          · exact .inl (Option.some.inj (h.2.1.1.symm.trans hstart))
          · exact .inr ⟨i, hlt, h⟩

/-- **The hashes of a resource** are those before the first number that is missing. -/
theorem mem_hashes {hash : String} : hash ∈ hashes resource ↔ ListsHash resource hash := by
  rw [hashes, mem_hashesFrom]
  refine exists_congr fun i => ⟨?_, ?_⟩
  · rintro ⟨-, -, hi, hbefore⟩
    exact ⟨hi, fun j hj => hbefore j (Nat.zero_le _) hj⟩
  · rintro ⟨hi, hbefore⟩
    refine ⟨Nat.zero_le _, ?_, hi, fun j _ hj => hbefore j hj⟩
    obtain ⟨missing, hle, hmissing⟩ := exists_missing resource
    by_contra hlt
    exact hbefore missing (by omega) hmissing

end Hashes

/-- The resource has no hash that counts. -/
def ListsNone (resource : Node) : Prop := ∀ hash, ¬ ListsHash resource hash

theorem hashes_eq_nil {resource : Node} : hashes resource = [] ↔ ListsNone resource := by
  rw [List.eq_nil_iff_forall_not_mem]
  exact forall_congr' fun hash => not_congr mem_hashes

/-! ## Names -/

theorem rvName_inj {rvNamePrefix index index' : String} :
    rvName rvNamePrefix index = rvName rvNamePrefix index' ↔
      replaceChar index '-' '_' = replaceChar index' '-' '_' := by
  simp only [rvName, replaceChar, String.toList_append, List.map_append, String.ofList_inj,
    List.append_cancel_left_eq]

/-! ## The answer for a name -/

/-- The answer is a list with the hash. -/
def HoldsHash (answer : Outcome (Option Json)) (hash : String) : Prop :=
  ∃ l, answer = .ok (some (.array l)) ∧ Json.string hash ∈ l

namespace Manifest

variable (M : Manifest)

/-- The hash is one of the last resource of the index that has any. -/
def LastLists (index hash : String) : Prop :=
  ∃ earlier last later, M.resources = earlier ++ last :: later ∧
    measurementIndex last = some index ∧ ListsHash last hash ∧
      ∀ resource ∈ later, measurementIndex resource = some index → ListsNone resource

/-- No resource of the index has a hash. -/
def NoneListed (index : String) : Prop :=
  ∀ resource ∈ M.resources, measurementIndex resource = some index → ListsNone resource

/-- Different indices have different names. -/
def NamesApart : Prop :=
  ∀ resource ∈ M.resources, ∀ resource' ∈ M.resources, ∀ index index',
    measurementIndex resource = some index → measurementIndex resource' = some index' →
      index ≠ index' → rvName M.rvNamePrefix index ≠ rvName M.rvNamePrefix index'

/-- Different indices stay different where `-` becomes `_`. -/
def IndicesApart : Prop :=
  ∀ resource ∈ M.resources, ∀ resource' ∈ M.resources, ∀ index index',
    measurementIndex resource = some index → measurementIndex resource' = some index' →
      index ≠ index' → replaceChar index '-' '_' ≠ replaceChar index' '-' '_'

theorem namesApart_iff : M.NamesApart ↔ M.IndicesApart := by
  simp only [NamesApart, IndicesApart, ne_eq, rvName_inj]

/-- No hash that is not zero is lost, and no name is that of two indices. -/
structure GoldenKept (answer : String → Outcome (Option Json)) : Prop where
  held : ∀ resource ∈ M.resources, ∀ index, measurementIndex resource = some index →
    ∀ hashIndex hash, GoldenHash resource hashIndex hash →
      HoldsHash (answer (rvName M.rvNamePrefix index)) hash
  apart : M.NamesApart

/-- Each hash that is not zero is one of the last resource of its index that has any, or was held
before and none replaces what was held. Indices stay different where `-` becomes `_`. -/
structure HashesListed (before : String → Outcome (Option Json)) : Prop where
  listed : ∀ resource ∈ M.resources, ∀ index, measurementIndex resource = some index →
    ∀ hashIndex hash, GoldenHash resource hashIndex hash → M.LastLists index hash ∨
      M.NoneListed index ∧ HoldsHash (before (rvName M.rvNamePrefix index)) hash
  apart : M.IndicesApart

end Manifest

section Answer

variable {C : Chrono} {now : DateTime} {rvNamePrefix index : String}

/-- The value of a name is that of the last resource with hashes, by induction on the resources. -/
theorem latestTable_reduceOption {resources : List Node} {found : List (Option ReferenceValue)}
    (hfound : List.Forall₂ (fun r rv => referenceValue C now rvNamePrefix r = .ok rv) resources
      found)
    (hapart : ∀ r ∈ resources, ∀ index', measurementIndex r = some index' →
      rvName rvNamePrefix index' = rvName rvNamePrefix index → index' = index) :
    (∃ earlier last later rv, resources = earlier ++ last :: later ∧
      measurementIndex last = some index ∧ ¬ ListsNone last ∧
      (∀ r ∈ later, measurementIndex r = some index → ListsNone r) ∧
      latestTable found.reduceOption (rvName rvNamePrefix index) = some rv ∧
      rv.value = .array ((hashes last).map .string)) ∨
    ((∀ r ∈ resources, measurementIndex r = some index → ListsNone r) ∧
      latestTable found.reduceOption (rvName rvNamePrefix index) = none) := by
  induction hfound with
  | nil => exact .inr ⟨by simp, rfl⟩
  | @cons r rv resources found hr _ ih =>
    rw [List.forall_mem_cons] at hapart
    obtain ⟨index', hindex', hrv⟩ := referenceValue_eq_ok hr
    rcases ih hapart.2 with ⟨earlier, last, later, v, rfl, hlast, hlists, hlater, htable, hvalue⟩ |
      ⟨hnone, htable⟩
    · refine .inl ⟨r :: earlier, last, later, v, rfl, hlast, hlists, hlater, ?_, hvalue⟩
      rcases hrv with ⟨-, rfl⟩ | ⟨-, v', rfl, -⟩
      · exact htable
      · rw [List.reduceOption_cons_of_some, latestTable_cons, htable, Option.some_or]
    · rcases hrv with ⟨hnil, rfl⟩ | ⟨hnil, v, rfl, -, hname, hvalue⟩
      · exact .inr ⟨List.forall_mem_cons.2 ⟨fun _ => hashes_eq_nil.1 hnil, hnone⟩, htable⟩
      · rw [List.reduceOption_cons_of_some, latestTable_cons, htable, Option.none_or, hname]
        by_cases heq : index' = index
        · subst heq
          exact .inl ⟨[], r, resources, v, rfl, hindex', fun h => hnil (hashes_eq_nil.2 h), hnone,
            if_pos rfl, hvalue⟩
        · refine .inr ⟨List.forall_mem_cons.2 ⟨fun h => ?_, hnone⟩, if_neg fun h => ?_⟩
          · exact absurd (Option.some.inj (hindex'.symm.trans h)) heq
          · exact heq (hapart.1 index' hindex' h.symm)

/-- **The answer for the name of an index** holds the hashes of the last resource of the index that
has any. Where none has, it is what it was. -/
theorem holdsHash_iff {S : ReferenceValueStorage} {s : S.State} {M : Manifest}
    {rvs : List ReferenceValue} (hrvs : M.referenceValues C now = .ok rvs)
    (hapart : ∀ r ∈ M.resources, ∀ index', measurementIndex r = some index' →
      rvName M.rvNamePrefix index' = rvName M.rvNamePrefix index → index' = index) {hash : String} :
    HoldsHash (do
      let rv ← registeredAnswer S s rvs (rvName M.rvNamePrefix index)
      return rv.map ReferenceValue.value) hash ↔ M.LastLists index hash ∨ M.NoneListed index ∧
        HoldsHash (do
          let rv ← S.get s (rvName M.rvNamePrefix index)
          return rv.map ReferenceValue.value) hash := by
  obtain ⟨found, hfound, rfl⟩ := M.forall₂_of_referenceValues hrvs
  rcases latestTable_reduceOption hfound hapart with
    ⟨earlier, last, later, v, hresources, hlast, hlists, hlater, htable, hvalue⟩ |
    ⟨hnone, htable⟩
  · rw [registeredAnswer, htable, Outcome.ok_bind, Option.map_some, hvalue]
    constructor
    · rintro ⟨l, hl, hmem⟩
      cases hl
      obtain ⟨hash', hhash', heq⟩ := List.mem_map.1 hmem
      cases heq
      exact .inl ⟨earlier, last, later, hresources, hlast, mem_hashes.1 hhash', hlater⟩
    · rintro (⟨earlier', last', later', hresources', hlast', hlists', hlater'⟩ | ⟨hnone, -⟩)
      · obtain rfl := last_unique (hresources'.symm.trans hresources)
          (P := fun r => measurementIndex r = some index ∧ ¬ ListsNone r)
          ⟨hlast', fun h => h hash hlists'⟩ ⟨hlast, hlists⟩
          (fun r hr h => h.2 (hlater' r hr h.1)) (fun r hr h => h.2 (hlater r hr h.1))
        exact ⟨_, rfl, List.mem_map_of_mem (mem_hashes.2 hlists')⟩
      · have hmem : last ∈ M.resources := by simp [hresources]
        exact absurd (hnone last hmem hlast) hlists
  · rw [registeredAnswer, htable]
    constructor
    · intro h
      exact .inr ⟨hnone, h⟩
    · rintro (⟨earlier, last, later, hresources, hlast, hlists, -⟩ | ⟨-, h⟩)
      · have hmem : last ∈ M.resources := by simp [hresources]
        exact absurd hlists (hnone last hmem hlast hash)
      · exact h

end Answer

/-! ## A manifest that is registered -/

/-- After a message was registered, the answers are those of its values. -/
theorem registeredAnswer_of_ok {R : Rvps} (hdates : R.chrono.Rereads) {now : DateTime}
    {s : R.storage.State} {text : String} (hok : (R.verifyAndExtract now s text).1 = .ok ()) :
    ∃ rvs, R.extract now text = .ok rvs ∧ ∀ k,
      R.queryReferenceValue (R.verifyAndExtract now s text).2 k = (do
        let rv ← registeredAnswer R.storage s rvs k
        return rv.map ReferenceValue.value) := by
  rw [verifyAndExtract] at hok ⊢
  cases hextract : R.extract now text with
  | err e =>
    rw [hextract] at hok
    cases hok
  | panic m =>
    rw [hextract] at hok
    cases hok
  | ok rvs =>
    rw [hextract] at hok
    have hspec := storeAll_spec (sound_failures R hdates) (fun _ => none) s (whole_extract hextract)
    rw [storeAll_none] at hspec
    rcases hspec with ⟨-, hall⟩ | ⟨e, _, _, _, herr, -⟩
    · refine ⟨rvs, rfl, fun k => ?_⟩
      rw [queryReferenceValue, hall]
    · cases hok.symm.trans herr

/-- The values of a message are those of its manifest. -/
theorem extract_swid {R : Rvps} {parse : String → Except String (List Node)}
    (hswid : R.extractors.extractorMap "swid" = some (swidExtractor R.chrono parse))
    {text : String} {message : Message}
    (hmessage : R.serde.fromStr Message.fromValue text = .ok message)
    (htype : message.type = "swid") {M : Manifest}
    (hM : readManifest parse message.payload = .ok M) {now : DateTime}
    {rvs : List ReferenceValue} (h : R.extract now text = .ok rvs) :
    M.referenceValues R.chrono now = .ok rvs := by
  rw [extract, hmessage] at h
  obtain ⟨_, hread, h⟩ := Outcome.bind_eq_ok.1 h
  obtain rfl := Outcome.ok.inj hread
  split at h
  · exact absurd h Outcome.bail_ne_ok
  · rw [Extractors.process, htype, hswid] at h
    change (readManifest parse message.payload >>= _) = _ at h
    rwa [hM] at h

/-- **No hash of a manifest is lost exactly when each is one of the last resource of its index**,
and indices stay different where `-` becomes `_`. -/
theorem goldenKept_iff (R : Rvps) (hdates : R.chrono.Rereads)
    {parse : String → Except String (List Node)}
    (hswid : R.extractors.extractorMap "swid" = some (swidExtractor R.chrono parse))
    {text : String} {message : Message}
    (hmessage : R.serde.fromStr Message.fromValue text = .ok message)
    (htype : message.type = "swid") {M : Manifest}
    (hM : readManifest parse message.payload = .ok M) (now : DateTime) (s : R.storage.State)
    (hok : (R.verifyAndExtract now s text).1 = .ok ()) :
    M.GoldenKept (R.queryReferenceValue (R.verifyAndExtract now s text).2) ↔
      M.HashesListed (R.queryReferenceValue s) := by
  obtain ⟨rvs, hrvs, hanswer⟩ := registeredAnswer_of_ok hdates hok
  have hvalues := extract_swid hswid hmessage htype hM hrvs
  have hheld (hapart : M.NamesApart) {resource : Node} (hmem : resource ∈ M.resources)
      {index : String} (hindex : measurementIndex resource = some index) (hash : String) :
      HoldsHash (R.queryReferenceValue (R.verifyAndExtract now s text).2
          (rvName M.rvNamePrefix index)) hash ↔
        M.LastLists index hash ∨ M.NoneListed index ∧
          HoldsHash (R.queryReferenceValue s (rvName M.rvNamePrefix index)) hash := by
    rw [hanswer]
    refine holdsHash_iff hvalues fun r hr index' hindex' hname => ?_
    by_contra hne
    exact hapart r hr resource hmem index' index hindex' hindex hne hname
  constructor
  · intro h
    refine ⟨fun resource hmem index hindex i hash hhash => ?_, M.namesApart_iff.1 h.apart⟩
    exact (hheld h.apart hmem hindex hash).1 (h.held resource hmem index hindex i hash hhash)
  · intro h
    have hapart := M.namesApart_iff.2 h.apart
    refine ⟨fun resource hmem index hindex i hash hhash => ?_, hapart⟩
    exact (hheld hapart hmem hindex hash).2 (h.listed resource hmem index hindex i hash hhash)

/-! ## Documents of measurements -/

/-- A measurement: its index, and its hashes with their numbers. -/
abbrev Measurement := String × List (ℕ × String)

def measurementText (m : Measurement) : String :=
  "<Resource type=\"Measurement\" index=\"" ++ m.1 ++ "\"" ++
    String.join (m.2.map fun p => " h:" ++ numbered "Hash" p.1 ++ "=\"" ++ p.2 ++ "\"") ++ "/>"

def measurementNode (m : Measurement) : Node :=
  .element ⟨some SWID_NS, "Resource"⟩
    ((⟨none, "type"⟩, "Measurement") :: (⟨none, "index"⟩, m.1) ::
      m.2.map fun p => (hashName p.1, p.2)) []

@[irreducible] def documentText (ms : List Measurement) : String :=
  "<SoftwareIdentity xmlns=\"" ++ SWID_NS ++ "\" xmlns:r=\"" ++ RIMIM_NS ++ "\" xmlns:h=\"" ++
    HASH_NS ++ "\"><Meta r:PlatformManufacturerStr=\"NVIDIA Corporation\" edition=\"GPU\"/>" ++
    "<Payload>" ++ String.join (ms.map measurementText) ++ "</Payload></SoftwareIdentity>"

def documentNodes (ms : List Measurement) : List Node :=
  [.element ⟨some SWID_NS, "SoftwareIdentity"⟩ []
    [.element ⟨some SWID_NS, "Meta"⟩ [(⟨some RIMIM_NS, "PlatformManufacturerStr"⟩,
        "NVIDIA Corporation"), (⟨none, "edition"⟩, "GPU")] [],
      .element ⟨some SWID_NS, "Payload"⟩ [] (ms.map measurementNode)]]

/-- A parser that reads the document. -/
def parseDocument (ms : List Measurement) (text : String) : Except String (List Node) :=
  if text = documentText ms then .ok (documentNodes ms) else .error "unknown token at 1:1"

@[irreducible] def documentPayload (ms : List Measurement) : String :=
  Base64.encode (toUtf8 (documentText ms))

@[irreducible] def documentMessage (ms : List Measurement) : String :=
  "\x7b\"payload\":\"" ++ documentPayload ms ++ "\",\"type\":\"swid\"\x7d"

/-- A service that reads the document and its message. -/
def documentService (ms : List Measurement) : Rvps where
  serde := { fromStr := fun deserialize s =>
    if s = documentMessage ms then deserialize (.object
      [("payload", .string (documentPayload ms)), ("type", .string "swid")])
    else .error "expected value at line 1 column 1" }
  chrono := tallyChrono
  extractors := { extractorMap := fun type =>
    if type = "swid" then some (swidExtractor tallyChrono (parseDocument ms)) else none }
  storageConfig := .LocalJson

variable (ms : List Measurement)

theorem fromStr_documentMessage :
    (documentService ms).serde.fromStr Message.fromValue (documentMessage ms) =
      .ok ⟨"0.1.0", documentPayload ms, "swid"⟩ :=
  if_pos rfl

theorem filter_isMeasurement :
    (Node.descendantsOf (ms.map measurementNode)).filter isMeasurement =
      ms.map measurementNode := by
  induction ms with
  | nil => rfl
  | cons m ms ih =>
    change (measurementNode m :: Node.descendantsOf (ms.map measurementNode)).filter _ = _
    rw [List.filter_cons_of_pos rfl, ih, List.map_cons]

/-- The manifest of the document. -/
theorem readManifest_documentPayload : readManifest (parseDocument ms) (documentPayload ms) =
    .ok ⟨"NVIDIA_Corporation.GPU", ms.map measurementNode⟩ := by
  have hbytes : decodeBase64 (documentPayload ms) = .ok (toUtf8 (documentText ms)) := by
    rw [decodeBase64, documentPayload, Base64.decode_encode]
    rfl
  have hparse : parseDocument ms (documentText ms) = .ok (documentNodes ms) := if_pos rfl
  have hresources : (Node.element ⟨some SWID_NS, "Payload"⟩ []
      (ms.map measurementNode)).descendants.filter isMeasurement = ms.map measurementNode :=
    filter_isMeasurement ms
  rw [readManifest, hbytes, Outcome.context, Outcome.ok_bind, fromUtf8_toUtf8]
  change (Outcome.ofExcept (parseDocument ms (documentText ms)) >>= _) = _
  rw [hparse]
  change Outcome.ok (Manifest.mk "NVIDIA_Corporation.GPU" _) = _
  rw [hresources]

/-- The message registers the values of the manifest. -/
theorem verifyAndExtract_documentMessage (now : DateTime) (s : (documentService ms).storage.State)
    (rvs : List ReferenceValue) (h : Manifest.referenceValues tallyChrono now
      ⟨"NVIDIA_Corporation.GPU", ms.map measurementNode⟩ = .ok rvs) :
    (documentService ms).verifyAndExtract now s (documentMessage ms) =
      (documentService ms).storeAll s rvs := by
  have hextract : (documentService ms).extract now (documentMessage ms) = .ok rvs := by
    rw [extract, fromStr_documentMessage]
    change (readManifest (parseDocument ms) (documentPayload ms) >>= _) = _
    rw [readManifest_documentPayload]
    exact h
  rw [verifyAndExtract, hextract]

/-- The hashes of a measurement have its numbers. -/
theorem attribute?_measurementNode {m : Measurement} {i : ℕ} :
    (measurementNode m).attribute? (hashName i) ≠ none ↔ i ∈ m.2.map Prod.fst := by
  constructor
  · intro hfound
    have hname := mem_of_attribute? hfound
    simp only [measurementNode, Node.attributes, List.map_cons, List.map_map, List.mem_cons] at hname
    rcases hname with heq | heq | hname
    · cases congrArg ExpandedName.uri heq
    · cases congrArg ExpandedName.uri heq
    · obtain ⟨p, hp, heq⟩ := List.mem_map.1 hname
      exact List.mem_map.2 ⟨p, hp, hashName_injective heq⟩
  · intro hmem
    obtain ⟨p, hp, rfl⟩ := List.mem_map.1 hmem
    rw [Node.attribute?, ne_eq, List.lookup_eq_none_iff]
    intro hnone
    have hattribute : (hashName p.1, p.2) ∈ (measurementNode m).attributes :=
      List.mem_cons_of_mem _ (List.mem_cons_of_mem _ (List.mem_map_of_mem hp))
    simpa using hnone _ hattribute

/-- No hash is lost of measurements with indices that stay different and with numbers in a row. -/
theorem hashesListed_measurements {rvNamePrefix : String}
    (hindices : (ms.map fun m => replaceChar m.1 '-' '_').Nodup)
    (hnumbers : ∀ m ∈ ms, m.2.map Prod.fst = List.range m.2.length)
    (before : String → Outcome (Option Json)) :
    (Manifest.mk rvNamePrefix (ms.map measurementNode)).HashesListed before where
  listed resource hmem index hindex i hash hhash := by
    obtain ⟨m, hm, rfl⟩ := List.mem_map.1 hmem
    cases hindex
    obtain ⟨earlier, later, rfl⟩ := List.append_of_mem hm
    have hrow : ∀ j < i, (measurementNode m).attribute? (hashName j) ≠ none := by
      intro j hj
      have hi := attribute?_measurementNode.1 (by rw [hhash.1]; simp)
      rw [attribute?_measurementNode, hnumbers m hm, List.mem_range]
      rw [hnumbers m hm, List.mem_range] at hi
      omega
    refine .inl ⟨earlier.map measurementNode, _, later.map measurementNode, List.map_append, rfl,
      ⟨i, hhash, hrow⟩, fun resource hlater hindex => ?_⟩
    obtain ⟨m', hm', rfl⟩ := List.mem_map.1 hlater
    rw [List.map_append, List.map_cons] at hindices
    have hfresh := (List.nodup_cons.1 hindices.of_append_right).1
    refine absurd (List.mem_map.2 ⟨m', hm', ?_⟩) hfresh
    rw [Option.some.inj hindex]
  apart resource hmem resource' hmem' index index' hindex hindex' hne heq := by
    obtain ⟨m, hm, rfl⟩ := List.mem_map.1 hmem
    obtain ⟨m', hm', rfl⟩ := List.mem_map.1 hmem'
    cases hindex
    cases hindex'
    exact hne (congrArg Prod.fst (List.inj_on_of_nodup_map hindices hm hm' heq))

/-- Two resources, of which the second begins with a hash of zeros. -/
def twoResources : List Measurement :=
  [("12", [(0, "758af960"), (1, "4de0b1ac")]), ("13-a", [(0, "000"), (1, "91c2")])]

/-- The hashes of the resources are in the answers for their names. -/
theorem goldenKept_documentService : (Manifest.mk "NVIDIA_Corporation.GPU"
    (twoResources.map measurementNode)).GoldenKept
      ((documentService twoResources).queryReferenceValue
        ((documentService twoResources).verifyAndExtract ⟨0, 0⟩ (.array [])
          (documentMessage twoResources)).2) := by
  have hstored := verifyAndExtract_documentMessage twoResources ⟨0, 0⟩ (.array []) _ rfl
  refine (goldenKept_iff (documentService twoResources) rereads_tallyChrono rfl
    (fromStr_documentMessage _) rfl (readManifest_documentPayload _) ⟨0, 0⟩ (.array [])
    (congrArg Prod.fst hstored)).2 ?_
  exact hashesListed_measurements _ (by decide) (by decide) _

/-- Two resources of one index. -/
def twice : List Measurement := [("1", [(0, "aa")]), ("1", [(0, "bb")])]

/-- **The second resource of an index replaces the hash of the first.** -/
theorem not_goldenKept : ¬ ∀ (R : Rvps) (parse : String → Except String (List Node)),
    R.chrono.Rereads → R.extractors.extractorMap "swid" = some (swidExtractor R.chrono parse) →
    ∀ (text : String) (message : Message), R.serde.fromStr Message.fromValue text = .ok message →
    message.type = "swid" → ∀ M, readManifest parse message.payload = .ok M →
    ∀ now s, (R.verifyAndExtract now s text).1 = .ok () →
      M.GoldenKept (R.queryReferenceValue (R.verifyAndExtract now s text).2) := by
  intro h
  have hstored := verifyAndExtract_documentMessage twice ⟨0, 0⟩ (.array []) _ rfl
  have hkept := h (documentService twice) (parseDocument twice) rereads_tallyChrono rfl
    (documentMessage twice) _ (fromStr_documentMessage twice) rfl _
    (readManifest_documentPayload twice) ⟨0, 0⟩ (.array []) (congrArg Prod.fst hstored)
  obtain ⟨l, hl, hmem⟩ := hkept.held (measurementNode ("1", [(0, "aa")]))
    List.mem_cons_self "1" rfl 0 "aa" ⟨rfl, by decide⟩
  rw [hstored] at hl
  have hanswer : l = [.string "bb"] := by
    cases hl
    rfl
  subst hanswer
  simp at hmem

end Rvps

end Trustmee
