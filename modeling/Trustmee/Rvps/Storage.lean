import Trustmee.Foundations.Outcome
import Trustmee.Foundations.Table
import Trustmee.Rvps.ReferenceValue

/-!
# The storages of reference values

`LocalJson` keeps a file with the list of the values, and finds a value by the name that stands in
it. `LocalFs` keeps the text of a value under the name it is stored with. The JSON text of a value is
read as the value. Both are the map of names when values are stored under their own name
(`Represents`); stored under another name, a value is never found in the file
(`get_ne_of_name_ne`).
-/

namespace Trustmee.Rvps

/-- A `ReferenceValueStorage`, by its state. -/
structure ReferenceValueStorage where
  State : Type
  /-- The storage that nothing was stored in. -/
  empty : State
  set : State → String → ReferenceValue → Outcome (Option ReferenceValue) × State
  get : State → String → Outcome (Option ReferenceValue)

/-! ## The file -/

namespace LocalJson

variable (C : Chrono)

/-- `serde_json::from_slice::<Vec<ReferenceValue>>`. -/
def readFile (file : Json) : Outcome (List ReferenceValue) :=
  .ofExcept (Deserialize.vec (ReferenceValue.fromValue C) file)

/-- The loop of `set`: the first value of the name is replaced, and is the result. -/
def replaceOrPush (name : String) (rv : ReferenceValue) :
    List ReferenceValue → Option ReferenceValue × List ReferenceValue
  | [] => (none, [rv])
  | it :: rvs =>
    if it.name = name then (some it, rv :: rvs)
    else
      let (res, rvs) := replaceOrPush name rv rvs
      (res, it :: rvs)

/-- `LocalJson::set`. -/
def set (file : Json) (name : String) (rv : ReferenceValue) :
    Outcome (Option ReferenceValue) × Json :=
  match readFile C file with
  | .err e => (.err e, file)
  | .panic m => (.panic m, file)
  | .ok rvs =>
    let (res, rvs) := replaceOrPush name rv rvs
    (.ok res, .array (rvs.map (ReferenceValue.toValue C)))

/-- `LocalJson::get`. -/
def get (file : Json) (name : String) : Outcome (Option ReferenceValue) := do
  let rvs ← readFile C file
  return rvs.find? fun rv => rv.name = name

end LocalJson

/-! ## The database -/

namespace LocalFs

variable (C : Chrono)

/-- `serde_json::from_slice` of what `sled` gave. -/
def readValue : Option Json → Outcome (Option ReferenceValue)
  | some v => do
    let rv ← Outcome.ofExcept (ReferenceValue.fromValue C v)
    return some rv
  | none => return none

/-- `LocalFs::set`. The value is inserted before the one that it replaces is read. -/
def set (engine : Table String Json) (name : String) (rv : ReferenceValue) :
    Outcome (Option ReferenceValue) × Table String Json :=
  (readValue C (engine name), engine.insert name (rv.toValue C))

/-- `LocalFs::get`. -/
def get (engine : Table String Json) (name : String) : Outcome (Option ReferenceValue) :=
  readValue C (engine name)

end LocalFs

/-- `ReferenceValueStorageConfig`. -/
inductive ReferenceValueStorageConfig
  | LocalFs
  | LocalJson

/-- `to_storage`, of a place where nothing was stored. -/
def ReferenceValueStorageConfig.toStorage (C : Chrono) :
    ReferenceValueStorageConfig → ReferenceValueStorage
  | .LocalFs => ⟨Table String Json, .empty, LocalFs.set C, LocalFs.get C⟩
  | .LocalJson => ⟨Json, .array [], LocalJson.set C, LocalJson.get C⟩

/-! ## The map -/

/-- What a storage is for: a map from names to values. -/
def mapStorage : ReferenceValueStorage where
  State := Table String ReferenceValue
  empty := .empty
  set t name rv := (.ok (t name), t.insert name rv)
  get t name := .ok (t name)

/-- A call of a storage. -/
inductive StorageCall
  | set (name : String) (rv : ReferenceValue)
  | get (name : String)

namespace ReferenceValueStorage

/-- The result of a call, and the state after it. -/
def call (S : ReferenceValueStorage) (s : S.State) :
    StorageCall → Outcome (Option ReferenceValue) × S.State
  | .set name rv => S.set s name rv
  | .get name => (S.get s name, s)

/-- The results of calls, one after the other. -/
def results (S : ReferenceValueStorage) :
    S.State → List StorageCall → List (Outcome (Option ReferenceValue))
  | _, [] => []
  | s, c :: calls => (S.call s c).1 :: S.results (S.call s c).2 calls

/-- The state after calls. -/
def after (S : ReferenceValueStorage) (s : S.State) (calls : List StorageCall) : S.State :=
  calls.foldl (fun s c => (S.call s c).2) s

theorem results_append (S : ReferenceValueStorage) (s : S.State) (calls calls' : List StorageCall) :
    S.results s (calls ++ calls') = S.results s calls ++ S.results (S.after s calls) calls' := by
  induction calls generalizing s with
  | nil => rfl
  | cons c calls ih =>
    rw [List.cons_append, results, results, ih, List.cons_append]
    rfl

end ReferenceValueStorage

/-! ## Storages that represent the map -/

/-- What makes a storage the map: its states represent maps, it answers from them, and a value that
is stored is stored in the map. It may ask something of the name and the value. -/
structure ReferenceValueStorage.Represents (S : ReferenceValueStorage)
    (W : String → ReferenceValue → Prop) where
  Rep : S.State → Table String ReferenceValue → Prop
  empty : Rep S.empty .empty
  set : ∀ s t name rv, Rep s t → rv.Whole → W name rv →
    (S.set s name rv).1 = .ok (t name) ∧ Rep (S.set s name rv).2 (t.insert name rv)
  get : ∀ s t name, Rep s t → S.get s name = .ok (t name)

/-- What a storage does of more values, it does of less. -/
def ReferenceValueStorage.Represents.mono {S : ReferenceValueStorage}
    {W W' : String → ReferenceValue → Prop} (R : S.Represents W)
    (h : ∀ name rv, W' name rv → W name rv) : S.Represents W' where
  Rep := R.Rep
  empty := R.empty
  set s t name rv hrep hrv hname := R.set s t name rv hrep hrv (h name rv hname)
  get := R.get

namespace LocalJson

variable {C : Chrono} {name : String} {rv : ReferenceValue} {rvs : List ReferenceValue}

/-- The file is the list of values without a fraction of a second. -/
def Holds (C : Chrono) (file : Json) (rvs : List ReferenceValue) : Prop :=
  file = .array (rvs.map (ReferenceValue.toValue C)) ∧ ∀ rv ∈ rvs, rv.Whole

theorem Holds.readFile_eq {file : Json} (h : Holds C file rvs) : readFile C file = .ok rvs := by
  rw [readFile, h.1, ReferenceValue.vec_fromValue_toValue fun rv hrv => (h.2 rv hrv).dateReads]
  rfl

theorem mem_replaceOrPush {rv' : ReferenceValue} (h : rv' ∈ (replaceOrPush name rv rvs).2) :
    rv' = rv ∨ rv' ∈ rvs := by
  induction rvs with
  | nil => exact .inl (List.mem_singleton.1 h)
  | cons it rvs ih =>
    rw [replaceOrPush] at h
    split at h
    · rcases List.mem_cons.1 h with h | h
      · exact .inl h
      · exact .inr (List.mem_cons_of_mem _ h)
    · rcases List.mem_cons.1 h with h | h
      · exact .inr (h ▸ List.mem_cons_self)
      · exact (ih h).imp_right fun h => List.mem_cons_of_mem _ h

/-- The value that is replaced is the first of the name. -/
theorem fst_replaceOrPush :
    (replaceOrPush name rv rvs).1 = rvs.find? fun rv => rv.name = name := by
  induction rvs with
  | nil => rfl
  | cons it rvs ih =>
    rw [replaceOrPush, List.find?_cons]
    by_cases h : it.name = name
    · simp [h]
    · simp [h, ih]

/-- Under its own name, the new value is found, and other names find what they found before. -/
theorem find?_replaceOrPush (hname : rv.name = name) (k : String) :
    ((replaceOrPush name rv rvs).2.find? fun rv => rv.name = k) =
      if k = name then some rv else rvs.find? fun rv => rv.name = k := by
  induction rvs with
  | nil =>
    simp only [replaceOrPush, List.find?_cons, List.find?_nil, hname, eq_comm]
    split <;> simp_all
  | cons it rvs ih =>
    rw [replaceOrPush]
    by_cases h : it.name = name
    · rw [if_pos h, List.find?_cons, List.find?_cons]
      by_cases hk : k = name
      · simp [hname, hk]
      · simp [hname, h, Ne.symm hk, hk]
    · rw [if_neg h]
      simp only [List.find?_cons]
      by_cases hk : it.name = k
      · have hne : k ≠ name := fun heq => h (hk.trans heq)
        simp [hk, hne]
      · simp only [hk, decide_false, ih]

theorem Holds.set {file : Json} (h : Holds C file rvs) (name : String) (hrv : rv.Whole) :
    (set C file name rv).1 = .ok (rvs.find? fun rv => rv.name = name) ∧
      Holds C (LocalJson.set C file name rv).2 (replaceOrPush name rv rvs).2 := by
  rw [LocalJson.set, h.readFile_eq]
  refine ⟨congrArg Outcome.ok fst_replaceOrPush, rfl, ?_⟩
  intro rv' hmem
  rcases mem_replaceOrPush hmem with rfl | hmem
  · exact hrv
  · exact h.2 rv' hmem

theorem Holds.get {file : Json} (h : Holds C file rvs) (name : String) :
    get C file name = .ok (rvs.find? fun rv => rv.name = name) := by
  rw [LocalJson.get, h.readFile_eq]
  rfl

/-- The file is the map, when values are stored under their own name. -/
def represents (C : Chrono) : (ReferenceValueStorageConfig.LocalJson.toStorage C).Represents
    fun name rv => rv.name = name where
  Rep file t := ∃ rvs, Holds C file rvs ∧ ∀ k, t k = rvs.find? fun rv => rv.name = k
  empty := ⟨[], ⟨rfl, by simp⟩, fun _ => rfl⟩
  set file t name rv h hrv hname := by
    obtain ⟨rvs, hholds, ht⟩ := h
    obtain ⟨hresult, hholds⟩ := hholds.set name hrv
    refine ⟨hresult.trans (congrArg Outcome.ok (ht name).symm), _, hholds, ?_⟩
    intro k
    rw [find?_replaceOrPush hname, Table.insert_apply, ht]
  get file t name h := by
    obtain ⟨rvs, hholds, ht⟩ := h
    rw [ht]
    exact hholds.get name

end LocalJson

namespace LocalFs

variable {C : Chrono}

theorem readValue_toValue {o : Option ReferenceValue} (h : ∀ rv, o = some rv → rv.Whole) :
    readValue C (o.map (ReferenceValue.toValue C)) = .ok o := by
  cases o with
  | none => rfl
  | some rv =>
    rw [Option.map_some, readValue, ReferenceValue.fromValue_toValue (h rv rfl).dateReads]
    rfl

/-- The database is the map. -/
def represents (C : Chrono) :
    (ReferenceValueStorageConfig.LocalFs.toStorage C).Represents fun _ _ => True where
  Rep engine t := engine = (fun k => (t k).map (ReferenceValue.toValue C)) ∧
    ∀ k rv, t k = some rv → rv.Whole
  empty := ⟨rfl, by simp⟩
  set engine t name rv h hrv _ := by
    obtain ⟨rfl, hwhole⟩ := h
    refine ⟨readValue_toValue (hwhole name), ?_, ?_⟩
    · funext k
      simp only [ReferenceValueStorageConfig.toStorage, LocalFs.set, Table.insert_apply]
      split <;> rfl
    · intro k rv' hk
      rcases Table.insert_eq_some hk with ⟨-, rfl⟩ | ⟨-, hk⟩
      · exact hrv
      · exact hwhole k rv' hk
  get engine t name h := by
    obtain ⟨rfl, hwhole⟩ := h
    exact readValue_toValue (hwhole name)

end LocalFs

/-! ## The two storages -/

/-- Both storages are the map of names, when values are stored under their own name. -/
def ReferenceValueStorageConfig.represents (C : Chrono) :
    (config : ReferenceValueStorageConfig) →
      (config.toStorage C).Represents fun name rv => rv.name = name
  | .LocalFs => (Rvps.LocalFs.represents C).mono fun _ _ _ => trivial
  | .LocalJson => Rvps.LocalJson.represents C

/-- The calls store values without a fraction of a second. -/
def Whole (calls : List StorageCall) : Prop := ∀ name rv, StorageCall.set name rv ∈ calls → rv.Whole

/-- The results of a storage that nothing was stored in are those of the map. -/
def ReferenceValueStorage.IsMap (S : ReferenceValueStorage) (calls : List StorageCall) : Prop :=
  S.results S.empty calls = mapStorage.results mapStorage.empty calls

/-- The map gives a value right after it was stored. -/
theorem ReferenceValueStorage.IsMap.get_eq {S : ReferenceValueStorage} {calls : List StorageCall}
    {name : String} {rv : ReferenceValue} (h : S.IsMap (calls ++ [.set name rv, .get name])) :
    S.get (S.set (S.after S.empty calls) name rv).2 name = .ok (some rv) := by
  rw [IsMap, results_append, results_append] at h
  obtain ⟨-, hlast⟩ := List.append_inj' h rfl
  have hget := (List.cons_eq_cons.1 (List.cons_eq_cons.1 hlast).2).1
  refine hget.trans (congrArg Outcome.ok ?_)
  exact Table.insert_self _ _ _

end Trustmee.Rvps
