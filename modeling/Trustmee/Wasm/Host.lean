import Trustmee.Wasm.Registry
import Trustmee.Foundations.Transition

/-!
# The Wasm verifier host

Calls of the host run concurrently over one registry and one directory. A call waits for the
registry's lock or for a file operation; between two of these points it runs alone (`Pc` says where
it waits). `register_component` looks the hash up under the read lock, compiles, writes the
component's file, looks the hash up again under the write lock and inserts the entry, and then, with
the lock released, writes the index it copied and renames it. `evaluate` registers inline bytes
first, and then takes the compiled component, or reads the file and compiles it.

A file operation that returns an error may have done part of its work: the label says what it left.
The process may stop at any point and start again on the same directory, with another configuration
(`Step.restart`); what its calls had not written is then gone.

`State.issued` holds the UUIDs ever made, and `State.acked` the registrations that
`register_component` has answered with an id, for the statements only.
-/

namespace Trustmee.Wasm

variable (W : Env)

/-- What a call is asked to do. -/
inductive Task
  /-- `register_component_verifier`. -/
  | register (componentBytes : Bytes)
  /-- The part of `AttestationService::evaluate` that finds the component. -/
  | evaluate (verifierComponentId : Option String) (verifierComponent : Option Bytes)
  /-- `get_component_bytes`. -/
  | getComponentBytes (componentId : String)

/-- What a call returns. -/
inductive Result
  | componentId (id : String)
  /-- The component `evaluate` instantiates. -/
  | component (compiled : Component W) (id : String)
  | bytes (bytes : Bytes)

/-- Where a call waits. -/
inductive Pc
  /-- `register_component`, for the read lock. -/
  | fastPath (componentBytes : Bytes)
  /-- For the write of the component's file. -/
  | writeFile (componentBytes : Bytes) (compiled : Component W) (componentId : String)
  /-- For the write lock. -/
  | insert (componentBytes : Bytes) (compiled : Component W) (componentId : String)
  /-- For the removal of the file, the bytes being registered as `existing`. -/
  | removeFile (componentBytes : Bytes) (componentId existing : String)
  /-- `persist_registry_index`, for the write of `index.json.tmp`. -/
  | writeIndex (componentBytes : Bytes) (componentId : String) (index : RegistryIndex)
  /-- For the rename to `index.json`. -/
  | renameIndex (componentBytes : Bytes) (componentId : String)
  /-- `get_compiled_component`, for the read lock. -/
  | lookupCompiled (componentId : String)
  /-- `get_component_bytes`, for the read lock. -/
  | lookupEntry (componentId : String)
  /-- For the component's file. -/
  | readFile (componentId filename : String)
  /-- `get_compiled_component`, for the write lock. -/
  | storeCompiled (componentId : String) (compiled : Component W)
  | returned (result : Outcome (Result W))

variable {W}

/-! ## The stretches of code between waits -/

/-- The context `evaluate` adds to the errors of `resolve_component`. -/
def Task.error : Task → Error → Error
  | .evaluate .., e => "resolve component" :: e
  | _, e => e

/-- The call fails. -/
def Task.fail (task : Task) (e : Error) : Pc W := .returned (.err (task.error e))

/-- The bytes the call registers. -/
def Task.componentBytes : Task → Option Bytes
  | .register componentBytes => some componentBytes
  | .evaluate _ verifierComponent => verifierComponent
  | .getComponentBytes _ => none

/-- `register_component` up to the read lock. -/
def startRegister (host : Host W) (task : Task) (componentBytes : Bytes) : Pc W :=
  match (verifyComponentSignature host componentBytes).context "verify component signature" with
  | .ok () => .fastPath componentBytes
  | .err e => task.fail e
  | .panic m => .returned (.panic m)

/-- A call up to where it first waits. -/
def start (host : Host W) : Task → Pc W
  | .register componentBytes => startRegister host (.register componentBytes) componentBytes
  | .evaluate verifierComponentId (some componentBytes) =>
    startRegister host (.evaluate verifierComponentId (some componentBytes)) componentBytes
  | .evaluate verifierComponentId none =>
    match verifierComponentId.or host.defaultComponentId with
    | some componentId => .lookupCompiled componentId
    | none => .returned (.bail ("wasm verifier hosting is enabled, but no verifier component " ++
        "was provided and no `wasm_verifier.default_component_id` is configured"))
  | .getComponentBytes componentId => .lookupEntry componentId

/-- `register_component` returns an id: `evaluate` goes on with it. -/
def Task.registered (componentId : String) : Task → Pc W
  | .evaluate .. => .lookupCompiled componentId
  | _ => .returned (.ok (.componentId componentId))

/-- `register_component` after the fast path, with the UUID it makes. -/
def compileComponent (task : Task) (componentBytes : Bytes) (componentId : String) : Pc W :=
  match Component.fromBinary W componentBytes with
  | .ok compiled => .writeFile componentBytes compiled componentId
  | .error e => task.fail ["compile component", e]

/-- A call with the bytes of the component's file. -/
def Task.read (componentId : String) (bytes : Bytes) : Task → Pc W
  | .getComponentBytes _ => .returned (.ok (.bytes bytes))
  | task =>
    match Component.fromBinary W bytes with
    | .ok compiled => .storeCompiled componentId compiled
    | .error e => task.fail ["compile component", e]

/-! ## The system -/

/-- The number of a call. -/
abbrev CallId := ℕ

variable (W) in
structure State where
  host : Host W
  registry : RegistryState W
  dir : Directory
  issued : List String
  calls : Table CallId (Task × Pc W)
  acked : List (String × Bytes)

namespace State

variable (s : State W)

def setCall (c : CallId) (task : Task) (pc : Pc W) : State W :=
  { s with calls := s.calls.insert c (task, pc) }

variable {s} in
@[simp] theorem calls_setCall {c : CallId} {task : Task} {pc : Pc W} :
    (s.setCall c task pc).calls c = some (task, pc) :=
  Table.insert_self _ _ _

def setRegistry (registry : RegistryState W) : State W := { s with registry }

def setTmp (tmp : Option IndexFile) : State W := { s with dir := { s.dir with tmp } }

def setIndex (index : Option IndexFile) : State W := { s with dir := { s.dir with index } }

def setFile (componentId : String) (bytes : Option Bytes) : State W :=
  { s with dir := s.dir.setFile componentId bytes }

def issue (componentId : String) : State W := { s with issued := componentId :: s.issued }

def ack (componentId : String) (bytes : Bytes) : State W :=
  { s with acked := (componentId, bytes) :: s.acked }

end State

/-- What a failed write of `index.json.tmp` may leave. -/
def TmpAfterFailure (tmp : Option IndexFile) (index : RegistryIndex) (left : Option IndexFile) :
    Prop :=
  left = tmp ∨ left = some .torn ∨ left = some (.index index)

/-- The actions of one call. -/
inductive Action
  | fastPath (componentId : String)
  | writeFile (written : Written Bytes)
  | insert
  | removeFile (removed : Bool)
  | writeIndex (written : Written IndexFile)
  | renameIndex (error : Option String)
  | lookupCompiled
  | lookupEntry
  | readFile (error : Option String)
  | storeCompiled

/-- The steps of the host. -/
inductive Label
  | call (c : CallId) (task : Task)
  | act (c : CallId) (action : Action)
  /-- The process stops and starts again: what it reads from `index.json`, and which metadata. -/
  | restart (cfg : WasmVerifierConfig) (read : Option IndexFile) (metadata : String → Bool)

/-- A start of the process on a directory. Reading `index.json` may fail, and so may looking at the
metadata of a file that is there. -/
structure Starts (dir : Directory) (cfg : WasmVerifierConfig) (read : Option IndexFile)
    (metadata : String → Bool) (host : Host W) (registry : RegistryState W) : Prop where
  host_eq : newHost W cfg = .ok host
  read_eq : read = none ∨ read = dir.index
  metadata_eq : ∀ {name}, metadata name = true → dir.files name ≠ none
  load_eq : ∃ entries, (∀ {idx}, read = some (.index idx) → Table.Enumerates entries idx.byId) ∧
    loadRegistryIndex cfg.registryDir read metadata entries = .ok registry

/-- One stretch of one call, or a restart. -/
inductive Step : State W → Label → State W → Prop
  | call {s : State W} {c : CallId} {task : Task} (hc : s.calls c = none) :
    Step s (.call c task) (s.setCall c task (start s.host task))
  | fastPathHit {s : State W} {c : CallId} {task : Task} {bytes : Bytes} {id existing : String}
      (hc : s.calls c = some (task, .fastPath bytes))
      (hhit : s.registry.byHash (W.sha256Hex bytes) = some existing) :
    Step s (.act c (.fastPath id))
      ((s.setCall c task (task.registered existing)).ack existing bytes)
  | fastPathMiss {s : State W} {c : CallId} {task : Task} {bytes : Bytes} {id : String}
      (hc : s.calls c = some (task, .fastPath bytes))
      (hmiss : s.registry.byHash (W.sha256Hex bytes) = none) (hid : id ∉ s.issued) :
    Step s (.act c (.fastPath id)) ((s.issue id).setCall c task (compileComponent task bytes id))
  | writeFile {s : State W} {c : CallId} {task : Task} {bytes : Bytes} {compiled : Component W}
      {id : String} (hc : s.calls c = some (task, .writeFile bytes compiled id)) :
    Step s (.act c (.writeFile .ok))
      ((s.setFile id (some bytes)).setCall c task (.insert bytes compiled id))
  | writeFileFailed {s : State W} {c : CallId} {task : Task} {bytes : Bytes}
      {compiled : Component W} {id : String} {left : Option Bytes} {e : String}
      (hc : s.calls c = some (task, .writeFile bytes compiled id)) :
    Step s (.act c (.writeFile (.failed left e))) ((s.setFile id left).setCall c task
      (task.fail ["write " ++ join s.host.registryDir (filenameOf id), e]))
  | insertLost {s : State W} {c : CallId} {task : Task} {bytes : Bytes} {compiled : Component W}
      {id existing : String} (hc : s.calls c = some (task, .insert bytes compiled id))
      (hhit : s.registry.byHash (W.sha256Hex bytes) = some existing) :
    Step s (.act c .insert) (s.setCall c task (.removeFile bytes id existing))
  | insert {s : State W} {c : CallId} {task : Task} {bytes : Bytes} {compiled : Component W}
      {id : String} (hc : s.calls c = some (task, .insert bytes compiled id))
      (hmiss : s.registry.byHash (W.sha256Hex bytes) = none) :
    Step s (.act c .insert)
      ((s.setRegistry (s.registry.register id (W.sha256Hex bytes) compiled)).setCall c task
        (.writeIndex bytes id (s.registry.register id (W.sha256Hex bytes) compiled).snapshot))
  | removeFile {s : State W} {c : CallId} {task : Task} {bytes : Bytes} {id existing : String}
      {removed : Bool} (hc : s.calls c = some (task, .removeFile bytes id existing)) :
    Step s (.act c (.removeFile removed))
      (((if removed then s.setFile id none else s).setCall c task (task.registered existing)).ack
        existing bytes)
  | writeIndex {s : State W} {c : CallId} {task : Task} {bytes : Bytes} {id : String}
      {index : RegistryIndex} (hc : s.calls c = some (task, .writeIndex bytes id index)) :
    Step s (.act c (.writeIndex .ok))
      ((s.setTmp (some (.index index))).setCall c task (.renameIndex bytes id))
  | writeIndexFailed {s : State W} {c : CallId} {task : Task} {bytes : Bytes} {id : String}
      {index : RegistryIndex} {left : Option IndexFile} {e : String}
      (hc : s.calls c = some (task, .writeIndex bytes id index))
      (hleft : TmpAfterFailure s.dir.tmp index left) :
    Step s (.act c (.writeIndex (.failed left e))) ((s.setTmp left).setCall c task
      (task.fail ["write " ++ join s.host.registryDir "index.json.tmp", e]))
  | renameIndex {s : State W} {c : CallId} {task : Task} {bytes : Bytes} {id : String}
      {tmp : IndexFile} (hc : s.calls c = some (task, .renameIndex bytes id))
      (htmp : s.dir.tmp = some tmp) :
    Step s (.act c (.renameIndex none))
      ((((s.setIndex (some tmp)).setTmp none).setCall c task (task.registered id)).ack id bytes)
  | renameIndexFailed {s : State W} {c : CallId} {task : Task} {bytes : Bytes} {id e : String}
      (hc : s.calls c = some (task, .renameIndex bytes id)) :
    Step s (.act c (.renameIndex (some e))) (s.setCall c task
      (task.fail ["rename " ++ join s.host.registryDir "index.json.tmp" ++ " -> " ++
        join s.host.registryDir "index.json", e]))
  | lookupCompiledHit {s : State W} {c : CallId} {task : Task} {id : String}
      {compiled : Component W} (hc : s.calls c = some (task, .lookupCompiled id))
      (hhit : s.registry.compiled id = some compiled) :
    Step s (.act c .lookupCompiled) (s.setCall c task (.returned (.ok (.component compiled id))))
  | lookupCompiledMiss {s : State W} {c : CallId} {task : Task} {id : String}
      (hc : s.calls c = some (task, .lookupCompiled id))
      (hmiss : s.registry.compiled id = none) :
    Step s (.act c .lookupCompiled) (s.setCall c task (.lookupEntry id))
  | lookupEntryHit {s : State W} {c : CallId} {task : Task} {id : String} {entry : RegistryEntry}
      (hc : s.calls c = some (task, .lookupEntry id)) (hhit : s.registry.byId id = some entry) :
    Step s (.act c .lookupEntry) (s.setCall c task (.readFile id entry.filename))
  | lookupEntryMiss {s : State W} {c : CallId} {task : Task} {id : String}
      (hc : s.calls c = some (task, .lookupEntry id)) (hmiss : s.registry.byId id = none) :
    Step s (.act c .lookupEntry) (s.setCall c task (task.fail ["unknown component_id " ++ id]))
  | readFile {s : State W} {c : CallId} {task : Task} {id filename : String} {bytes : Bytes}
      (hc : s.calls c = some (task, .readFile id filename))
      (hfile : s.dir.files filename = some bytes) :
    Step s (.act c (.readFile none)) (s.setCall c task (task.read id bytes))
  | readFileFailed {s : State W} {c : CallId} {task : Task} {id filename e : String}
      (hc : s.calls c = some (task, .readFile id filename)) :
    Step s (.act c (.readFile (some e))) (s.setCall c task
      (task.fail ["read " ++ join s.host.registryDir filename, e]))
  | storeCompiled {s : State W} {c : CallId} {task : Task} {id : String} {compiled : Component W}
      (hc : s.calls c = some (task, .storeCompiled id compiled)) :
    Step s (.act c .storeCompiled) ((s.setRegistry (s.registry.storeCompiled id compiled)).setCall c
      task (.returned (.ok (.component compiled id))))
  | restart {s : State W} {cfg : WasmVerifierConfig} {read : Option IndexFile}
      {metadata : String → Bool} {host : Host W} {registry : RegistryState W}
      (hstarts : Starts s.dir cfg read metadata host registry) :
    Step s (.restart cfg read metadata) { s with host, registry, calls := .empty }

/-- A first start, on an empty directory. -/
def State.init (host : Host W) : State W :=
  ⟨host, .default, ⟨none, none, .empty⟩, [], .empty, []⟩

variable (W) in
/-- The host, over all its lifetimes. -/
def hostSystem : Transition.System (State W) Label where
  Init s := ∃ cfg host, newHost W cfg = .ok host ∧ s = State.init host
  Step := Step

/-- Every call has returned. -/
def State.Quiescent (s : State W) : Prop :=
  ∀ {c task pc}, s.calls c = some (task, pc) → ∃ result, pc = .returned result

end Trustmee.Wasm
