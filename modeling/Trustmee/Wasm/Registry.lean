import Trustmee.Foundations.Bytes
import Trustmee.Foundations.Outcome
import Trustmee.Foundations.Table
import Mathlib.Data.List.Induction

/-!
# The registry of Wasm components

`WasmVerifierHost` keeps uploaded components in a directory, one file each, with an index
(`index.json`) that names them, and in memory three maps: the entries by id, the ids by hash, and
what has been compiled since the start. The index is written to `index.json.tmp` and renamed.

A component is the bytes it was compiled from, which the engine accepted (`Component`), so that
"compiled from these bytes" is an equation. An index file holds a `RegistryIndex`, or no readable
index (`IndexFile.torn`), which only a failed write leaves behind.
-/

namespace Trustmee.Wasm

/-- What the host takes from other crates: `wasmsign2`, `wasmtime` and `sha2`. -/
structure Env where
  PublicKey : Type
  /-- `PublicKeySet::insert_any_file`: the keys in a file. -/
  loadKeys : String → Except String (List PublicKey)
  /-- `PublicKeySet::verify`. -/
  verify : List PublicKey → Bytes → Except String Unit
  /-- Whether `Component::from_binary` accepts the bytes. -/
  validate : Bytes → Except String Unit
  sha256Hex : Bytes → String

variable (W : Env)

/-- `wasmtime::component::Component`. -/
structure Component where
  bytes : Bytes
  valid : W.validate bytes = .ok ()

/-- `Component::from_binary`. -/
def Component.fromBinary (bytes : Bytes) : Except String (Component W) :=
  match h : W.validate bytes with
  | .ok () => .ok ⟨bytes, h⟩
  | .error e => .error e

variable {W} in
theorem Component.fromBinary_ok {bytes : Bytes} {c : Component W}
    (h : Component.fromBinary W bytes = .ok c) : c.bytes = bytes := by
  unfold fromBinary at h
  split at h
  · cases h
    rfl
  · cases h

theorem Component.fromBinary_of_valid {bytes : Bytes} (h : W.validate bytes = .ok ()) :
    Component.fromBinary W bytes = .ok ⟨bytes, h⟩ := by
  unfold fromBinary
  split
  · rfl
  · next h' => cases h.symm.trans h'

/-! ## Configuration -/

/-- `WasmVerifierConfig`, enabled, with the directory it resolves to. -/
structure WasmVerifierConfig where
  allowUnsigned : Bool
  trustedPublicKeys : List String
  registryDir : String
  defaultComponentId : Option String

/-- The parts of `WasmVerifierHost` that stay as they are. -/
structure Host where
  allowUnsigned : Bool
  trustedKeys : Option (List W.PublicKey)
  registryDir : String
  defaultComponentId : Option String

variable {W}

/-- The loop over `trusted_public_keys`. -/
def insertKeyFiles (set : List W.PublicKey) : List String → Outcome (List W.PublicKey)
  | [] => .ok set
  | path :: paths =>
    match W.loadKeys path with
    | .error e => .bail ("load trusted key " ++ path ++ ": " ++ e)
    | .ok keys => insertKeyFiles (set ++ keys) paths

/-- The trusted keys of `WasmVerifierHost::new`. -/
def loadTrustedKeys (cfg : WasmVerifierConfig) : Outcome (Option (List W.PublicKey)) :=
  if cfg.allowUnsigned then return none
  else do
    let set ← insertKeyFiles [] cfg.trustedPublicKeys
    Outcome.ensure (!set.isEmpty) ("wasm_verifier.enabled is true and allow_unsigned is false, " ++
      "but no trusted_public_keys are configured")
    return some set

/-- `WasmVerifierHost::new`, up to the registry. -/
def newHost (W : Env) (cfg : WasmVerifierConfig) : Outcome (Host W) := do
  let trustedKeys ← loadTrustedKeys cfg
  return ⟨cfg.allowUnsigned, trustedKeys, cfg.registryDir, cfg.defaultComponentId⟩

/-- `verify_component_signature`. -/
def verifyComponentSignature (host : Host W) (componentBytes : Bytes) : Outcome Unit :=
  if host.allowUnsigned then .ok ()
  else
    match host.trustedKeys with
    | none => .bail "no trusted keys configured"
    | some keys =>
      match W.verify keys componentBytes with
      | .ok () => .ok ()
      | .error e => .bail ("component signature invalid: " ++ e)

/-- The bytes verify under the trusted keys of the host. -/
def SignedFor (host : Host W) (bytes : Bytes) : Prop :=
  ∃ keys, host.trustedKeys = some keys ∧ W.verify keys bytes = .ok ()

theorem signedFor_of_verifyComponentSignature {host : Host W} {bytes : Bytes}
    (hunsigned : host.allowUnsigned = false) (h : verifyComponentSignature host bytes = .ok ()) :
    SignedFor host bytes := by
  simp only [verifyComponentSignature, hunsigned, Bool.false_eq_true, if_false] at h
  split at h
  · cases h
  · next keys hkeys =>
    split at h
    · next hverify => exact ⟨keys, hkeys, hverify⟩
    · cases h

/-! ## The maps -/

/-- One registered component. -/
structure RegistryEntry where
  componentId : String
  sha256 : String
  filename : String
  deriving DecidableEq

/-- The index as it is persisted. -/
structure RegistryIndex where
  byId : Table String RegistryEntry
  byHash : Table String String

variable (W) in
/-- The registry in memory. -/
structure RegistryState where
  byId : Table String RegistryEntry
  byHash : Table String String
  compiled : Table String (Component W)

/-- `format!("{component_id}.wasm")`. -/
def filenameOf (componentId : String) : String := componentId ++ ".wasm"

theorem filenameOf_inj {id id' : String} : filenameOf id = filenameOf id' ↔ id = id' := by
  refine ⟨fun h => ?_, fun h => h ▸ rfl⟩
  have h' := congrArg String.toList h
  simp only [filenameOf, String.toList_append, List.append_cancel_right_eq] at h'
  exact String.toList_inj.1 h'

namespace RegistryState

/-- `RegistryState::default`. -/
def default : RegistryState W := ⟨.empty, .empty, .empty⟩

/-- The three insertions of `register_component`. -/
def register (state : RegistryState W) (componentId sha256 : String) (compiled : Component W) :
    RegistryState W where
  byId := state.byId.insert componentId ⟨componentId, sha256, filenameOf componentId⟩
  byHash := state.byHash.insert sha256 componentId
  compiled := state.compiled.insert componentId compiled

/-- The index `register_component` persists. -/
def snapshot (state : RegistryState W) : RegistryIndex := ⟨state.byId, state.byHash⟩

/-- The insertion of `get_compiled_component`. -/
def storeCompiled (state : RegistryState W) (componentId : String) (compiled : Component W) :
    RegistryState W :=
  { state with compiled := state.compiled.insert componentId compiled }

/-- The body of the loop of `load_registry_index`. -/
def loadEntry (metadata : String → Bool) (state : RegistryState W) (id : String)
    (entry : RegistryEntry) : RegistryState W :=
  if metadata entry.filename then
    { state with
      byHash := state.byHash.insert entry.sha256 entry.componentId
      byId := state.byId.insert id entry }
  else state

end RegistryState

/-! ## The directory -/

/-- What `index.json` or `index.json.tmp` holds. -/
inductive IndexFile
  | index (idx : RegistryIndex)
  | torn

/-- The file is an index with this id. -/
def FileHas (file : Option IndexFile) (id : String) : Prop :=
  ∃ idx entry, file = some (.index idx) ∧ idx.byId id = some entry

/-- The registry directory. -/
structure Directory where
  /-- `index.json`. -/
  index : Option IndexFile
  /-- `index.json.tmp`. -/
  tmp : Option IndexFile
  /-- The component files. -/
  files : Table String Bytes

/-- The file of a component holds these bytes, or is not there. -/
def Directory.setFile (dir : Directory) (componentId : String) (bytes : Option Bytes) : Directory :=
  { dir with
    files := fun name => if name = filenameOf componentId then bytes else dir.files name }

/-- The outcome of a write: an error, with what the file holds after it. -/
inductive Written (α : Type)
  | ok
  | failed (left : Option α) (e : String)

/-- `PathBuf::join`, with a file name. -/
def join (dir name : String) : String := dir ++ "/" ++ name

/-- The loop of `load_registry_index`, over the entries in the order of the hash map. -/
def loadEntries (metadata : String → Bool) (entries : List (String × RegistryEntry)) :
    RegistryState W :=
  entries.foldl (fun state p => state.loadEntry metadata p.1 p.2) .default

/-- `load_registry_index`: what reading `index.json` gives, whether a file's metadata can be read,
and the entries in the order of the hash map. -/
def loadRegistryIndex (registryDir : String) (read : Option IndexFile) (metadata : String → Bool)
    (entries : List (String × RegistryEntry)) : Outcome (RegistryState W) :=
  match read with
  | none => .ok .default
  | some .torn => .err ["parse " ++ join registryDir "index.json", "invalid index"]
  | some (.index _) => .ok (loadEntries metadata entries)

theorem loadEntries_append_singleton (metadata : String → Bool)
    (entries : List (String × RegistryEntry)) (p : String × RegistryEntry) :
    (loadEntries metadata (entries ++ [p]) : RegistryState W) =
      (loadEntries metadata entries).loadEntry metadata p.1 p.2 := by
  simp only [loadEntries, List.foldl_append, List.foldl_cons, List.foldl_nil]

@[simp] theorem loadEntries_compiled (metadata : String → Bool)
    (entries : List (String × RegistryEntry)) :
    (loadEntries metadata entries : RegistryState W).compiled = .empty := by
  induction entries using List.reverseRecOn with
  | nil => rfl
  | append_singleton entries p ih =>
    rw [loadEntries_append_singleton, RegistryState.loadEntry]
    split <;> exact ih

/-- The loaded entries are those with a file. -/
theorem loadEntries_byId {metadata : String → Bool} {entries : List (String × RegistryEntry)}
    (hnodup : (entries.map Prod.fst).Nodup) (id : String) (entry : RegistryEntry) :
    (loadEntries metadata entries : RegistryState W).byId id = some entry ↔
      (id, entry) ∈ entries ∧ metadata entry.filename = true := by
  induction entries using List.reverseRecOn with
  | nil => exact ⟨nofun, fun h => absurd h.1 List.not_mem_nil⟩
  | append_singleton entries p ih =>
    obtain ⟨id', entry'⟩ := p
    rw [List.map_append, List.nodup_append] at hnodup
    obtain ⟨hnodup, -, hdisjoint⟩ := hnodup
    have hnew : ∀ e, (id', e) ∉ entries := fun e he =>
      hdisjoint id' (List.mem_map_of_mem he) id' (by simp) rfl
    rw [loadEntries_append_singleton, RegistryState.loadEntry, List.mem_append,
      List.mem_singleton, Prod.mk.injEq]
    by_cases hid : id = id'
    · subst hid
      split
      · next hm =>
        simp only [Table.insert_self, Option.some.injEq]
        constructor
        · rintro rfl
          exact ⟨.inr ⟨trivial, rfl⟩, hm⟩
        · rintro ⟨h | ⟨-, h⟩, -⟩
          · exact absurd h (hnew _)
          · exact h.symm
      · next hm =>
        rw [ih hnodup]
        constructor
        · exact fun h => absurd h.1 (hnew _)
        · rintro ⟨h | ⟨-, rfl⟩, hm'⟩
          · exact absurd h (hnew _)
          · exact absurd hm' hm
    · split
      · simp only [Table.insert_of_ne _ _ hid, ih hnodup, hid, false_and, or_false]
      · simp only [ih hnodup, hid, false_and, or_false]

/-- A hash leads to the loaded entry that has it, when no two entries share one. -/
theorem loadEntries_byHash {metadata : String → Bool} {entries : List (String × RegistryEntry)}
    (hsha : ∀ p ∈ entries, ∀ q ∈ entries, p.2.sha256 = q.2.sha256 → p = q) (h id : String) :
    (loadEntries metadata entries : RegistryState W).byHash h = some id ↔
      ∃ p ∈ entries, metadata p.2.filename = true ∧ p.2.sha256 = h ∧ p.2.componentId = id := by
  induction entries using List.reverseRecOn with
  | nil => exact ⟨nofun, fun ⟨_, h, _⟩ => absurd h List.not_mem_nil⟩
  | append_singleton entries p ih =>
    have ih := ih fun q hq r hr => hsha q (List.mem_append_left _ hq) r (List.mem_append_left _ hr)
    have hlast : p ∈ entries ++ [p] := List.mem_append_right _ List.mem_cons_self
    rw [loadEntries_append_singleton, RegistryState.loadEntry]
    split
    · next hm =>
      by_cases hh : h = p.2.sha256
      · subst hh
        simp only [Table.insert_self, Option.some.injEq]
        constructor
        · rintro rfl
          exact ⟨p, hlast, hm, rfl, rfl⟩
        · rintro ⟨q, hq, -, heq, hid⟩
          rw [hsha p hlast q hq heq.symm, hid]
      · simp only [Table.insert_of_ne _ _ hh]
        rw [ih]
        constructor
        · rintro ⟨q, hq, hrest⟩
          exact ⟨q, List.mem_append_left _ hq, hrest⟩
        · rintro ⟨q, hq, hm', hq', hid⟩
          rcases List.mem_append.1 hq with hq | hq
          · exact ⟨q, hq, hm', hq', hid⟩
          · rw [List.mem_singleton.1 hq] at hq'
            exact absurd hq'.symm hh
    · next hm =>
      rw [ih]
      constructor
      · rintro ⟨q, hq, hrest⟩
        exact ⟨q, List.mem_append_left _ hq, hrest⟩
      · rintro ⟨q, hq, hm', hrest⟩
        rcases List.mem_append.1 hq with hq | hq
        · exact ⟨q, hq, hm', hrest⟩
        · rw [List.mem_singleton.1 hq] at hm'
          exact absurd hm' hm

end Trustmee.Wasm
