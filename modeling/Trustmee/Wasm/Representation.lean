import Trustmee.Wasm.Host

/-!
# The representation invariant of the registry

What the maps in memory, the index and the component files have to do with each other, in every
reachable state: `byHash` and `byId` are inverse to each other, everything compiled is registered,
and the file of an entry holds the bytes its hash and its compiled component are of
(`registry_representation`).

An entry is copied about: it stands in memory, in `index.json`, in `index.json.tmp`, and in the
snapshots that wait to be written. `HasMap` is any of these maps, and `MapOk` what each of them
satisfies at all times, so that the map a restart happens to read is as good as any. A component's
file is safe because a call writes or removes only the file of an id of its own, one that stands in
no map (`Owned`): the loser of a registration race removes its own file, never the winner's.
-/

namespace Trustmee.Wasm

open Transition

variable {W : Env}

/-- The id whose file a call may still write or remove. -/
def Pc.own : Pc W → Option String
  | .writeFile _ _ id => some id
  | .insert _ _ id => some id
  | .removeFile _ id _ => some id
  | _ => none

/-- The call has this id of its own. -/
def OwnedBy (s : State W) (c : CallId) (id : String) : Prop :=
  ∃ task pc, s.calls c = some (task, pc) ∧ pc.own = some id

/-- Some call has this id of its own. -/
def Owned (s : State W) (id : String) : Prop := ∃ c, OwnedBy s c id

/-- The maps of entries there are. -/
inductive HasMap (s : State W) : Table String RegistryEntry → Prop
  | memory : HasMap s s.registry.byId
  | index {idx : RegistryIndex} : s.dir.index = some (.index idx) → HasMap s idx.byId
  | tmp {idx : RegistryIndex} : s.dir.tmp = some (.index idx) → HasMap s idx.byId
  | snapshot {c : CallId} {task : Task} {bytes : Bytes} {id : String} {idx : RegistryIndex} :
    s.calls c = some (task, .writeIndex bytes id idx) → HasMap s idx.byId

/-- The maps of a state whose memory and calls are those of `s`. -/
theorem HasMap.of_eq {s t : State W} {m : Table String RegistryEntry} (h : HasMap t m)
    (hmemory : t.registry.byId = s.registry.byId)
    (hindex : ∀ {idx}, t.dir.index = some (.index idx) → HasMap s idx.byId)
    (htmp : ∀ {idx}, t.dir.tmp = some (.index idx) → HasMap s idx.byId)
    (hcalls : t.calls = s.calls) : HasMap s m := by
  cases h with
  | memory => exact hmemory ▸ .memory
  | index h => exact hindex h
  | tmp h => exact htmp h
  | snapshot h => exact .snapshot (hcalls ▸ h)

/-- An entry, under its id, with its file. -/
structure EntryOk (W : Env) (files : Table String Bytes) (id : String) (entry : RegistryEntry) :
    Prop where
  componentId : entry.componentId = id
  filename : entry.filename = filenameOf id
  file : ∃ bytes, files (filenameOf id) = some bytes ∧ W.sha256Hex bytes = entry.sha256 ∧
    W.validate bytes = .ok ()

/-- What every map of entries satisfies. -/
structure MapOk (s : State W) (m : Table String RegistryEntry) : Prop where
  entry : ∀ {id entry}, m id = some entry → EntryOk W s.dir.files id entry
  issued : ∀ {id entry}, m id = some entry → id ∈ s.issued ∧ ¬ Owned s id
  sha256 : ∀ {id entry id' entry'}, m id = some entry → m id' = some entry' →
    entry.sha256 = entry'.sha256 → id = id'
  finite : ∃ entries, Table.Enumerates entries m

/-- A map stays as good as it is while the files and the calls stay. -/
theorem MapOk.of_eq {s t : State W} {m : Table String RegistryEntry} (h : MapOk s m)
    (hfiles : t.dir.files = s.dir.files) (hissued : s.issued ⊆ t.issued)
    (hcalls : t.calls = s.calls) : MapOk t m where
  entry hentry := hfiles ▸ h.entry hentry
  issued hentry := by
    refine ⟨hissued (h.issued hentry).1, fun hown => (h.issued hentry).2 ?_⟩
    obtain ⟨c, task, pc, hc, hid⟩ := hown
    exact ⟨c, task, pc, hcalls ▸ hc, hid⟩
  sha256 := h.sha256
  finite := h.finite

/-- The bytes of the call are registered under the id. -/
def RegisteredAs (registry : RegistryState W) (task : Task) (id : String) : Prop :=
  ∀ bytes, task.componentBytes = some bytes → registry.byHash (W.sha256Hex bytes) = some id

/-- What a call knows where it waits. -/
def PcInv (registry : RegistryState W) (files : Table String Bytes) (task : Task) : Pc W → Prop
  | .fastPath bytes => task.componentBytes = some bytes
  | .writeFile bytes compiled _ => task.componentBytes = some bytes ∧ compiled.bytes = bytes
  | .insert bytes compiled id => task.componentBytes = some bytes ∧ compiled.bytes = bytes ∧
    files (filenameOf id) = some bytes
  | .removeFile bytes _ existing => task.componentBytes = some bytes ∧
    registry.byHash (W.sha256Hex bytes) = some existing
  | .writeIndex bytes id _ => task.componentBytes = some bytes ∧
    registry.byHash (W.sha256Hex bytes) = some id
  | .renameIndex bytes id => task.componentBytes = some bytes ∧
    registry.byHash (W.sha256Hex bytes) = some id
  | .lookupCompiled id => RegisteredAs registry task id
  | .lookupEntry id => RegisteredAs registry task id
  | .readFile id filename => RegisteredAs registry task id ∧
    ∃ entry, registry.byId id = some entry ∧ entry.filename = filename
  | .storeCompiled id compiled => RegisteredAs registry task id ∧
    ∃ entry, registry.byId id = some entry ∧ files (filenameOf id) = some compiled.bytes
  | .returned (.ok (.componentId id)) => RegisteredAs registry task id
  | .returned (.ok (.component _ id)) => RegisteredAs registry task id
  | .returned _ => True

/-- **The representation invariant.** -/
structure Inv (s : State W) : Prop where
  maps : ∀ {m}, HasMap s m → MapOk s m
  byHash : ∀ {hash id}, s.registry.byHash hash = some id ↔
    ∃ entry, s.registry.byId id = some entry ∧ entry.sha256 = hash
  compiled : ∀ {id compiled}, s.registry.compiled id = some compiled →
    ∃ entry, s.registry.byId id = some entry ∧ s.dir.files (filenameOf id) = some compiled.bytes
  own_issued : ∀ {id}, Owned s id → id ∈ s.issued
  own_unique : ∀ {c c' id}, OwnedBy s c id → OwnedBy s c' id → c' = c
  pc : ∀ {c task pc}, s.calls c = some (task, pc) → PcInv s.registry s.dir.files task pc

/-! ## What a call knows goes on to hold -/

/-- The registry only grows, and the files of the registered components stay as they are. -/
structure Grows (registry : RegistryState W) (files : Table String Bytes)
    (registry' : RegistryState W) (files' : Table String Bytes) : Prop where
  byId : ∀ {id entry}, registry.byId id = some entry → registry'.byId id = some entry
  byHash : ∀ {hash id}, registry.byHash hash = some id → registry'.byHash hash = some id
  files : ∀ {id entry}, registry.byId id = some entry →
    files' (filenameOf id) = files (filenameOf id)

theorem grows_register {registry : RegistryState W} {files : Table String Bytes} {id hash : String}
    {compiled : Component W} (hid : registry.byId id = none) (hhash : registry.byHash hash = none) :
    Grows registry files (registry.register id hash compiled) files where
  byId {id' entry} h := by
    refine (Table.insert_of_ne _ _ ?_).trans h
    rintro rfl
    cases hid.symm.trans h
  byHash {hash' id'} h := by
    refine (Table.insert_of_ne _ _ ?_).trans h
    rintro rfl
    cases hhash.symm.trans h
  files _ := rfl

theorem RegisteredAs.mono {registry registry' : RegistryState W} {files files' : Table String Bytes}
    {task : Task} {id : String} (hg : Grows registry files registry' files')
    (h : RegisteredAs registry task id) : RegisteredAs registry' task id :=
  fun bytes hbytes => hg.byHash (h bytes hbytes)

theorem PcInv.mono {registry registry' : RegistryState W} {files files' : Table String Bytes}
    {task : Task} {pc : Pc W} (hg : Grows registry files registry' files')
    (hown : ∀ bytes compiled id, pc = .insert bytes compiled id →
      files' (filenameOf id) = files (filenameOf id))
    (h : PcInv registry files task pc) : PcInv registry' files' task pc := by
  cases pc with
  | fastPath bytes => exact h
  | writeFile bytes compiled id => exact h
  | insert bytes compiled id => exact ⟨h.1, h.2.1, (hown _ _ _ rfl).trans h.2.2⟩
  | removeFile bytes id existing => exact ⟨h.1, hg.byHash h.2⟩
  | writeIndex bytes id idx => exact ⟨h.1, hg.byHash h.2⟩
  | renameIndex bytes id => exact ⟨h.1, hg.byHash h.2⟩
  | lookupCompiled id => exact RegisteredAs.mono hg h
  | lookupEntry id => exact RegisteredAs.mono hg h
  | readFile id filename =>
    obtain ⟨hreg, entry, hentry, hfile⟩ := h
    exact ⟨hreg.mono hg, entry, hg.byId hentry, hfile⟩
  | storeCompiled id compiled =>
    obtain ⟨hreg, entry, hentry, hfile⟩ := h
    exact ⟨hreg.mono hg, entry, hg.byId hentry, (hg.files hentry).trans hfile⟩
  | returned result =>
    cases result with
    | ok r =>
      cases r with
      | componentId id => exact RegisteredAs.mono hg h
      | component compiled id => exact RegisteredAs.mono hg h
      | bytes b => trivial
    | _ => trivial

theorem Grows.refl (registry : RegistryState W) (files : Table String Bytes) :
    Grows registry files registry files := ⟨id, id, fun _ => rfl⟩

/-! ## What each stretch of code hands on -/

theorem pcInv_fail {registry : RegistryState W} {files : Table String Bytes} (task : Task)
    (e : Error) : PcInv registry files task (task.fail e) := trivial

theorem pcInv_startRegister {registry : RegistryState W} {files : Table String Bytes}
    (host : Host W) {task : Task} {bytes : Bytes} (h : task.componentBytes = some bytes) :
    PcInv registry files task (startRegister host task bytes) := by
  unfold startRegister
  split
  · exact h
  · trivial
  · trivial

theorem pcInv_start {registry : RegistryState W} {files : Table String Bytes} (host : Host W)
    (task : Task) : PcInv registry files task (start host task) := by
  cases task with
  | register bytes => exact pcInv_startRegister host rfl
  | evaluate id bytes =>
    cases bytes with
    | some bytes => exact pcInv_startRegister host rfl
    | none =>
      simp only [start]
      split
      · exact fun bytes h => by cases h
      · trivial
  | getComponentBytes id => exact fun bytes h => by cases h

theorem pcInv_registered {registry : RegistryState W} {files : Table String Bytes} {task : Task}
    {id : String} (h : RegisteredAs registry task id) :
    PcInv registry files task (task.registered id) := by
  cases task with
  | register bytes => exact h
  | evaluate id' bytes => exact h
  | getComponentBytes id' => exact h

theorem registeredAs_of_bytes {registry : RegistryState W} {task : Task} {bytes : Bytes}
    {id : String} (hbytes : task.componentBytes = some bytes)
    (h : registry.byHash (W.sha256Hex bytes) = some id) : RegisteredAs registry task id := by
  intro bytes' hbytes'
  cases hbytes.symm.trans hbytes'
  exact h

theorem pcInv_compileComponent {registry : RegistryState W} {files : Table String Bytes}
    {task : Task} {bytes : Bytes} (id : String) (h : task.componentBytes = some bytes) :
    PcInv registry files task (compileComponent task bytes id) := by
  unfold compileComponent
  split
  · next compiled hcompiled => exact ⟨h, Component.fromBinary_ok hcompiled⟩
  · trivial

theorem pcInv_read {registry : RegistryState W} {files : Table String Bytes} {task : Task}
    {bytes : Bytes} {id : String} {entry : RegistryEntry} (hreg : RegisteredAs registry task id)
    (hentry : registry.byId id = some entry) (hfile : files (filenameOf id) = some bytes) :
    PcInv registry files task (task.read id bytes) := by
  cases hcompiled : Component.fromBinary W bytes with
  | ok compiled =>
    have hstore : PcInv registry files task (.storeCompiled id compiled) :=
      ⟨hreg, entry, hentry, by rw [Component.fromBinary_ok hcompiled]; exact hfile⟩
    cases task with
    | getComponentBytes id' => trivial
    | _ => simpa only [Task.read, hcompiled] using hstore
  | error e => cases task <;> simp only [Task.read, hcompiled] <;> trivial

/-! ## No stretch of code but those of the registration has an id of its own, or a snapshot -/

/-- The call has no id of its own, and no snapshot. -/
def Plain (pc : Pc W) : Prop := pc.own = none ∧ ∀ bytes id idx, pc ≠ .writeIndex bytes id idx

theorem plain_fail (task : Task) (e : Error) : Plain (task.fail e : Pc W) := ⟨rfl, nofun⟩

theorem plain_start (host : Host W) (task : Task) : Plain (start host task) := by
  have hregister : ∀ task bytes, Plain (startRegister host task bytes) := by
    intro task bytes
    unfold startRegister
    split <;> exact ⟨rfl, nofun⟩
  cases task with
  | register bytes => exact hregister _ _
  | evaluate id bytes =>
    cases bytes with
    | some bytes => exact hregister _ _
    | none =>
      simp only [start]
      split <;> exact ⟨rfl, nofun⟩
  | getComponentBytes id => exact ⟨rfl, nofun⟩

theorem plain_registered (task : Task) (id : String) : Plain (task.registered id : Pc W) := by
  cases task <;> exact ⟨rfl, nofun⟩

theorem plain_read (task : Task) (id : String) (bytes : Bytes) :
    Plain (task.read id bytes : Pc W) := by
  cases task with
  | getComponentBytes id' => exact ⟨rfl, nofun⟩
  | _ =>
    simp only [Task.read]
    split <;> exact ⟨rfl, nofun⟩

/-! ## Every update of the state keeps the invariant -/

/-- An issued id that nothing uses. -/
structure Free (s : State W) (id : String) : Prop where
  issued : id ∈ s.issued
  not_owned : ¬ Owned s id
  not_mem : ∀ {m}, HasMap s m → m id = none

section

variable {s : State W} {c : CallId} {task : Task} {pc : Pc W}

theorem ownedBy_setCall {c' : CallId} {id : String} (h : OwnedBy (s.setCall c task pc) c' id) :
    (c' = c ∧ pc.own = some id) ∨ (c' ≠ c ∧ OwnedBy s c' id) := by
  obtain ⟨task', pc', hc', hown⟩ := h
  rcases Table.insert_eq_some hc' with ⟨rfl, h⟩ | ⟨hne, hc'⟩
  · cases h
    exact .inl ⟨rfl, hown⟩
  · exact .inr ⟨hne, task', pc', hc', hown⟩

theorem hasMap_setCall {m : Table String RegistryEntry}
    (hsnap : ∀ bytes id idx, pc = .writeIndex bytes id idx → HasMap s idx.byId)
    (h : HasMap (s.setCall c task pc) m) : HasMap s m := by
  cases h with
  | memory => exact .memory
  | index h => exact .index h
  | tmp h => exact .tmp h
  | snapshot h =>
    rcases Table.insert_eq_some h with ⟨-, h⟩ | ⟨-, h⟩
    · cases h
      exact hsnap _ _ _ rfl
    · exact .snapshot h

/-- A call that goes on to a point where it has no id of its own frees it. -/
theorem free_of_setCall (hs : Inv s) {id : String} (hown : OwnedBy s c id) (hpc : Plain pc) :
    Free (s.setCall c task pc) id where
  issued := hs.own_issued ⟨c, hown⟩
  not_owned := by
    rintro ⟨c', hown'⟩
    rcases ownedBy_setCall hown' with ⟨-, h⟩ | ⟨hne, h⟩
    · cases hpc.1.symm.trans h
    · exact hne (hs.own_unique hown h)
  not_mem {m} hm := by
    have hm : HasMap s m := hasMap_setCall (fun _ _ _ h => absurd h (hpc.2 _ _ _)) hm
    cases hentry : m id with
    | none => rfl
    | some entry => exact absurd ⟨c, hown⟩ ((hs.maps hm).issued hentry).2

namespace Inv

theorem setCall (hs : Inv s) (hpc : PcInv s.registry s.dir.files task pc)
    (hown : ∀ id, pc.own = some id → OwnedBy s c id ∨ Free s id)
    (hsnap : ∀ bytes id idx, pc = .writeIndex bytes id idx → HasMap s idx.byId) :
    Inv (s.setCall c task pc) where
  maps {m} hm := by
    have hm := hasMap_setCall hsnap hm
    have hok := hs.maps hm
    refine ⟨hok.entry, fun {id entry} hentry => ⟨(hok.issued hentry).1, ?_⟩, hok.sha256, hok.finite⟩
    rintro ⟨c', hown'⟩
    rcases ownedBy_setCall hown' with ⟨-, h⟩ | ⟨-, h⟩
    · rcases hown id h with h | h
      · exact (hok.issued hentry).2 ⟨c, h⟩
      · cases (h.not_mem hm).symm.trans hentry
    · exact (hok.issued hentry).2 ⟨c', h⟩
  byHash := hs.byHash
  compiled := hs.compiled
  own_issued := by
    rintro id ⟨c', hown'⟩
    rcases ownedBy_setCall hown' with ⟨-, h⟩ | ⟨-, h⟩
    · rcases hown id h with h | h
      · exact hs.own_issued ⟨c, h⟩
      · exact h.issued
    · exact hs.own_issued ⟨c', h⟩
  own_unique {c₁ c₂ id} h₁ h₂ := by
    rcases ownedBy_setCall h₁ with ⟨rfl, ho₁⟩ | ⟨-, ho₁⟩ <;>
      rcases ownedBy_setCall h₂ with ⟨rfl, ho₂⟩ | ⟨-, ho₂⟩
    · rfl
    · rcases hown id ho₁ with h | h
      · exact hs.own_unique h ho₂
      · exact absurd ⟨c₂, ho₂⟩ h.not_owned
    · rcases hown id ho₂ with h | h
      · exact hs.own_unique ho₁ h
      · exact absurd ⟨c₁, ho₁⟩ h.not_owned
    · exact hs.own_unique ho₁ ho₂
  pc h := by
    rcases Table.insert_eq_some h with ⟨-, h⟩ | ⟨-, h⟩
    · cases h
      exact hpc
    · exact hs.pc h

/-- A call that goes on to a point where it has no id of its own and no snapshot. -/
theorem setCall_plain (hs : Inv s) (hpc : PcInv s.registry s.dir.files task pc)
    (hplain : Plain pc) : Inv (s.setCall c task pc) :=
  hs.setCall hpc (fun _ h => by cases hplain.1.symm.trans h)
    fun _ _ _ h => absurd h (hplain.2 _ _ _)

theorem issue (hs : Inv s) (id : String) : Inv (s.issue id) where
  maps hm := by
    have hm := hm.of_eq (s := s) rfl (fun h => .index h) (fun h => .tmp h) rfl
    exact (hs.maps hm).of_eq rfl (List.subset_cons_self _ _) rfl
  byHash := hs.byHash
  compiled := hs.compiled
  own_issued h := List.mem_cons_of_mem _ (hs.own_issued h)
  own_unique := hs.own_unique
  pc := hs.pc

theorem ack (hs : Inv s) (id : String) (bytes : Bytes) : Inv (s.ack id bytes) where
  maps hm := by
    have hm := hm.of_eq (s := s) rfl (fun h => .index h) (fun h => .tmp h) rfl
    exact (hs.maps hm).of_eq rfl (List.Subset.refl _) rfl
  byHash := hs.byHash
  compiled := hs.compiled
  own_issued := hs.own_issued
  own_unique := hs.own_unique
  pc := hs.pc

/-- The index files may hold any map there is. -/
theorem setDir (hs : Inv s) (index tmp : Option IndexFile)
    (hindex : ∀ {idx}, index = some (.index idx) → HasMap s idx.byId)
    (htmp : ∀ {idx}, tmp = some (.index idx) → HasMap s idx.byId) :
    Inv { s with dir := { s.dir with index, tmp } } where
  maps hm := by
    have hm := hm.of_eq (s := s) rfl hindex htmp rfl
    exact (hs.maps hm).of_eq rfl (List.Subset.refl _) rfl
  byHash := hs.byHash
  compiled := hs.compiled
  own_issued := hs.own_issued
  own_unique := hs.own_unique
  pc := hs.pc

/-- The file of an id that some call has of its own is no registered component's. -/
theorem grows_setFile (hs : Inv s) {id : String} (hown : Owned s id) (bytes : Option Bytes) :
    Grows s.registry s.dir.files s.registry (s.setFile id bytes).dir.files := by
  refine ⟨fun h => h, fun h => h, fun {id' entry} hentry => if_neg fun h => ?_⟩
  rw [filenameOf_inj.1 h] at hentry
  exact ((hs.maps .memory).issued hentry).2 hown

/-- A call may change the file of an id of its own, but between its write and the write lock. -/
theorem setFile (hs : Inv s) {id : String} (hc : s.calls c = some (task, pc))
    (hown : pc.own = some id) (hnot : ∀ bytes compiled, pc ≠ .insert bytes compiled id)
    (bytes : Option Bytes) : Inv (s.setFile id bytes) := by
  have hfile : ∀ {id'}, id' ≠ id →
      (s.setFile id bytes).dir.files (filenameOf id') = s.dir.files (filenameOf id') :=
    fun hne => if_neg fun h => hne (filenameOf_inj.1 h)
  have hne : ∀ {m id' entry}, HasMap s m → m id' = some entry → id' ≠ id := by
    rintro m id' entry hm hentry rfl
    exact ((hs.maps hm).issued hentry).2 ⟨c, task, pc, hc, hown⟩
  have hgrows := hs.grows_setFile ⟨c, task, pc, hc, hown⟩ bytes
  refine { maps := fun {m} hm => ?_, byHash := hs.byHash, compiled := fun h => ?_,
           own_issued := hs.own_issued, own_unique := hs.own_unique,
           pc := fun {c' task' pc'} h => ?_ }
  · have hm := hm.of_eq (s := s) rfl (fun h => .index h) (fun h => .tmp h) rfl
    refine ⟨fun {id' entry} hentry => ?_, (hs.maps hm).issued, (hs.maps hm).sha256,
      (hs.maps hm).finite⟩
    obtain ⟨hcid, hname, b, hb, hrest⟩ := (hs.maps hm).entry hentry
    exact ⟨hcid, hname, b, (hfile (hne hm hentry)).trans hb, hrest⟩
  · obtain ⟨entry, hentry, hb⟩ := hs.compiled h
    exact ⟨entry, hentry, (hfile (hne .memory hentry)).trans hb⟩
  · refine (hs.pc h).mono hgrows fun b compiled id' hpc' => hfile ?_
    rintro rfl
    -- The call between its write and the write lock is not the one that changes the file.
    obtain rfl : c' = c := hs.own_unique ⟨task, pc, hc, hown⟩ ⟨task', pc', h, by rw [hpc']; rfl⟩
    cases hc.symm.trans h
    exact hnot _ _ hpc'

theorem storeCompiled (hs : Inv s) {id : String} {compiled : Component W} {entry : RegistryEntry}
    (hentry : s.registry.byId id = some entry)
    (hfile : s.dir.files (filenameOf id) = some compiled.bytes) :
    Inv (s.setRegistry (s.registry.storeCompiled id compiled)) where
  maps hm := by
    have hm := hm.of_eq (s := s) rfl (fun h => .index h) (fun h => .tmp h) rfl
    exact (hs.maps hm).of_eq rfl (List.Subset.refl _) rfl
  byHash := hs.byHash
  compiled h := by
    rcases Table.insert_eq_some h with ⟨rfl, rfl⟩ | ⟨-, h⟩
    · exact ⟨entry, hentry, hfile⟩
    · exact hs.compiled h
  own_issued := hs.own_issued
  own_unique := hs.own_unique
  pc h := (hs.pc h).mono ⟨fun h => h, fun h => h, fun _ => rfl⟩ fun _ _ _ _ => rfl

/-- A new component, under an id that nothing uses and with a hash that nothing has. -/
theorem register (hs : Inv s) {id : String} {compiled : Component W} (hfree : Free s id)
    (hfile : s.dir.files (filenameOf id) = some compiled.bytes)
    (hmiss : s.registry.byHash (W.sha256Hex compiled.bytes) = none) :
    Inv (s.setRegistry (s.registry.register id (W.sha256Hex compiled.bytes) compiled)) := by
  have hnone : s.registry.byId id = none := hfree.not_mem .memory
  have hnew : ∀ {id' entry}, s.registry.byId id' = some entry →
      entry.sha256 ≠ W.sha256Hex compiled.bytes := by
    intro id' entry hentry hsha
    cases hmiss.symm.trans (hs.byHash.2 ⟨entry, hentry, hsha⟩)
  have hgrows : Grows s.registry s.dir.files
      (s.registry.register id (W.sha256Hex compiled.bytes) compiled) s.dir.files :=
    grows_register hnone hmiss
  have hold : MapOk s s.registry.byId := hs.maps .memory
  refine { maps := fun {m} hm => ?_, byHash := fun {hash id'} => ?_, compiled := fun h => ?_,
           own_issued := hs.own_issued, own_unique := hs.own_unique,
           pc := fun h => (hs.pc h).mono hgrows fun _ _ _ _ => rfl }
  · cases hm with
    | memory =>
      obtain ⟨entries, henum⟩ := hold.finite
      refine ⟨fun h => ?_, fun h => ?_, fun h h' hsha => ?_, _, henum.cons hnone _⟩
      · rcases Table.insert_eq_some h with ⟨rfl, rfl⟩ | ⟨-, h⟩
        · exact ⟨rfl, rfl, compiled.bytes, hfile, rfl, compiled.valid⟩
        · exact hold.entry h
      · rcases Table.insert_eq_some h with ⟨rfl, -⟩ | ⟨-, h⟩
        · exact ⟨hfree.issued, hfree.not_owned⟩
        · exact hold.issued h
      · rcases Table.insert_eq_some h with ⟨rfl, rfl⟩ | ⟨-, h₁⟩ <;>
          rcases Table.insert_eq_some h' with ⟨rfl, rfl⟩ | ⟨-, h₂⟩
        · rfl
        · exact absurd hsha.symm (hnew h₂)
        · exact absurd hsha (hnew h₁)
        · exact hold.sha256 h₁ h₂ hsha
    | index h => exact (hs.maps (.index h)).of_eq rfl (List.Subset.refl _) rfl
    | tmp h => exact (hs.maps (.tmp h)).of_eq rfl (List.Subset.refl _) rfl
    | snapshot h => exact (hs.maps (.snapshot h)).of_eq rfl (List.Subset.refl _) rfl
  · constructor
    · intro h
      rcases Table.insert_eq_some h with ⟨rfl, rfl⟩ | ⟨-, h⟩
      · exact ⟨_, Table.insert_self _ _ _, rfl⟩
      · obtain ⟨entry, hentry, hsha⟩ := hs.byHash.1 h
        exact ⟨entry, hgrows.byId hentry, hsha⟩
    · rintro ⟨entry, hentry, rfl⟩
      rcases Table.insert_eq_some hentry with ⟨rfl, rfl⟩ | ⟨-, h⟩
      · exact Table.insert_self _ _ _
      · exact hgrows.byHash (hs.byHash.2 ⟨entry, h, rfl⟩)
  · rcases Table.insert_eq_some h with ⟨rfl, rfl⟩ | ⟨-, h⟩
    · exact ⟨_, Table.insert_self _ _ _, hfile⟩
    · obtain ⟨entry, hentry, hbytes⟩ := hs.compiled h
      exact ⟨entry, hgrows.byId hentry, hbytes⟩

end Inv

end

/-! ## A start of the process -/

/-- The entries that are loaded are entries of the index, each with its file. -/
theorem Starts.byId {dir : Directory} {cfg : WasmVerifierConfig} {read : Option IndexFile}
    {metadata : String → Bool} {host : Host W} {registry : RegistryState W}
    (h : Starts dir cfg read metadata host registry) {id : String} {entry : RegistryEntry} :
    registry.byId id = some entry ↔
      ∃ idx, read = some (.index idx) ∧ idx.byId id = some entry ∧
        metadata entry.filename = true := by
  obtain ⟨entries, henum, hload⟩ := h.load_eq
  cases read with
  | none =>
    cases hload
    exact ⟨nofun, fun ⟨_, h, _⟩ => by cases h⟩
  | some file =>
    cases file with
    | torn => cases hload
    | index idx =>
      cases hload
      rw [loadEntries_byId (henum rfl).nodup, (henum rfl).mem_iff]
      exact ⟨fun h => ⟨idx, rfl, h⟩, fun ⟨_, h, hrest⟩ => by cases h; exact hrest⟩

theorem Starts.finite {dir : Directory} {cfg : WasmVerifierConfig} {read : Option IndexFile}
    {metadata : String → Bool} {host : Host W} {registry : RegistryState W}
    (h : Starts dir cfg read metadata host registry) :
    ∃ entries, Table.Enumerates entries registry.byId := by
  have hbyId : ∀ id entry, registry.byId id = some entry ↔ ∃ idx, read = some (.index idx) ∧
      idx.byId id = some entry ∧ metadata entry.filename = true := fun _ _ => h.byId
  obtain ⟨entries, henum, hload⟩ := h.load_eq
  cases read with
  | none =>
    cases hload
    exact ⟨[], Table.Enumerates.nil⟩
  | some file =>
    cases file with
    | torn => cases hload
    | index idx =>
      refine ⟨_, (henum rfl).filter (fun entry => metadata entry.filename) fun id entry => ?_⟩
      rw [hbyId]
      exact ⟨fun ⟨_, h, hrest⟩ => by cases h; exact hrest, fun hrest => ⟨idx, rfl, hrest⟩⟩

theorem Starts.compiled {dir : Directory} {cfg : WasmVerifierConfig} {read : Option IndexFile}
    {metadata : String → Bool} {host : Host W} {registry : RegistryState W}
    (h : Starts dir cfg read metadata host registry) (id : String) :
    registry.compiled id = none := by
  obtain ⟨entries, -, hload⟩ := h.load_eq
  cases read with
  | none =>
    cases hload
    rfl
  | some file =>
    cases file with
    | torn => cases hload
    | index idx =>
      cases hload
      exact congrFun (loadEntries_compiled metadata entries) id

/-- `byHash` is rebuilt from the loaded entries. -/
theorem Starts.byHash {dir : Directory} {cfg : WasmVerifierConfig} {read : Option IndexFile}
    {metadata : String → Bool} {host : Host W} {registry : RegistryState W}
    (h : Starts dir cfg read metadata host registry)
    (hcid : ∀ {idx id entry}, read = some (.index idx) → idx.byId id = some entry →
      entry.componentId = id)
    (hsha : ∀ {idx id entry id' entry'}, read = some (.index idx) → idx.byId id = some entry →
      idx.byId id' = some entry' → entry.sha256 = entry'.sha256 → id = id')
    {hash id : String} :
    registry.byHash hash = some id ↔ ∃ entry, registry.byId id = some entry ∧
      entry.sha256 = hash := by
  simp only [h.byId]
  obtain ⟨entries, henum, hload⟩ := h.load_eq
  cases read with
  | none =>
    cases hload
    exact ⟨nofun, fun ⟨_, ⟨_, h, _⟩, _⟩ => by cases h⟩
  | some file =>
    cases file with
    | torn => cases hload
    | index idx =>
      cases hload
      have hmem := (henum rfl).mem_iff
      rw [loadEntries_byHash]
      · constructor
        · rintro ⟨⟨id', entry⟩, hp, hm, rfl, rfl⟩
          have hentry := (hmem _ _).1 hp
          exact ⟨entry, ⟨idx, rfl, (hcid rfl hentry).symm ▸ hentry, hm⟩, rfl⟩
        · rintro ⟨entry, ⟨_, hidx, hentry, hm⟩, rfl⟩
          cases hidx
          exact ⟨(id, entry), (hmem _ _).2 hentry, hm, rfl, hcid rfl hentry⟩
      · rintro ⟨id₁, entry₁⟩ h₁ ⟨id₂, entry₂⟩ h₂ hsha'
        have h₁ := (hmem _ _).1 h₁
        have h₂ := (hmem _ _).1 h₂
        obtain rfl : id₁ = id₂ := hsha rfl h₁ h₂ hsha'
        cases h₁.symm.trans h₂
        rfl

theorem Inv.init (host : Host W) : Inv (State.init host) where
  maps hm := by
    cases hm with
    | memory => exact ⟨nofun, nofun, nofun, [], Table.Enumerates.nil⟩
    | index h => cases h
    | tmp h => cases h
    | snapshot h => cases h
  byHash := ⟨nofun, nofun⟩
  compiled := nofun
  own_issued := by
    rintro id ⟨c, task, pc, h, -⟩
    cases h
  own_unique := by
    rintro c c' id ⟨task, pc, h, -⟩
    cases h
  pc := nofun

/-- A start of the process keeps the invariant, whatever of the index it reads. -/
theorem Inv.restart {s : State W} (hs : Inv s) {cfg : WasmVerifierConfig} {read : Option IndexFile}
    {metadata : String → Bool} {host : Host W} {registry : RegistryState W}
    (hstarts : Starts s.dir cfg read metadata host registry) :
    Inv { s with host, registry, calls := .empty } := by
  have hmap : ∀ {idx}, read = some (.index idx) → MapOk s idx.byId := by
    intro idx hidx
    rcases hstarts.read_eq with hread | hread
    · cases hread.symm.trans hidx
    · exact hs.maps (.index (hread.symm.trans hidx))
  have hnot : ∀ {id}, ¬ Owned { s with host, registry, calls := .empty } id := by
    rintro id ⟨c, task, pc, h, -⟩
    cases h
  have hok : ∀ {m}, MapOk s m → MapOk { s with host, registry, calls := .empty } m :=
    fun h => ⟨h.entry, fun hentry => ⟨(h.issued hentry).1, hnot⟩, h.sha256, h.finite⟩
  refine { maps := fun {m} hm => ?_, byHash := ?_, compiled := fun {id compiled} h => ?_,
           own_issued := fun h => absurd h hnot, own_unique := fun {c c' id} h => ?_, pc := nofun }
  · cases hm with
    | memory =>
      refine ⟨fun h => ?_, fun h => ?_, fun h h' hsha => ?_, hstarts.finite⟩
      · obtain ⟨idx, hidx, hentry, -⟩ := hstarts.byId.1 h
        exact (hmap hidx).entry hentry
      · obtain ⟨idx, hidx, hentry, -⟩ := hstarts.byId.1 h
        exact ⟨((hmap hidx).issued hentry).1, hnot⟩
      · obtain ⟨idx, hidx, hentry, -⟩ := hstarts.byId.1 h
        obtain ⟨idx', hidx', hentry', -⟩ := hstarts.byId.1 h'
        cases hidx.symm.trans hidx'
        exact (hmap hidx).sha256 hentry hentry' hsha
    | index h => exact hok (hs.maps (.index h))
    | tmp h => exact hok (hs.maps (.tmp h))
    | snapshot h => cases h
  · exact hstarts.byHash (fun hidx hentry => ((hmap hidx).entry hentry).componentId)
      fun hidx hentry hentry' => (hmap hidx).sha256 hentry hentry'
  · cases (hstarts.compiled id).symm.trans h
  · exact absurd ⟨c, h⟩ hnot

/-! ## Every step keeps the invariant -/

theorem Inv.step {s t : State W} {l : Label} (hs : Inv s) (hstep : Step s l t) : Inv t := by
  cases hstep with
  | call hc => exact hs.setCall_plain (pcInv_start _ _) (plain_start _ _)
  | @fastPathHit c task bytes id existing hc hhit =>
    have hreg := registeredAs_of_bytes (hs.pc hc) hhit
    exact (hs.setCall_plain (pcInv_registered hreg) (plain_registered _ _)).ack _ _
  | @fastPathMiss c task bytes id hc hmiss hid =>
    have hfree : Free (s.issue id) id := by
      refine ⟨List.mem_cons_self, fun h => hid (hs.own_issued h), fun {m} hm => ?_⟩
      have hm := hm.of_eq (s := s) rfl (fun h => .index h) (fun h => .tmp h) rfl
      cases hentry : m id with
      | none => rfl
      | some entry => exact absurd ((hs.maps hm).issued hentry).1 hid
    refine (hs.issue id).setCall (pcInv_compileComponent id (hs.pc hc)) (fun id' h => ?_)
      fun bytes' id' idx h => ?_
    · unfold compileComponent at h
      split at h
      · cases h
        exact .inr hfree
      · cases h
    · unfold compileComponent at h
      split at h <;> cases h
  | @writeFile c task bytes compiled id hc =>
    have hfile := hs.setFile hc rfl (by simp) (some bytes)
    obtain ⟨hbytes, hcompiled⟩ : PcInv s.registry s.dir.files task (.writeFile bytes compiled id) :=
      hs.pc hc
    exact hfile.setCall ⟨hbytes, hcompiled, if_pos rfl⟩
      (fun id' h => .inl ⟨task, _, hc, h⟩) (by simp)
  | @writeFileFailed c task bytes compiled id left e hc =>
    exact (hs.setFile hc rfl (by simp) left).setCall_plain (pcInv_fail _ _) (plain_fail _ _)
  | @insertLost c task bytes compiled id existing hc hhit =>
    exact hs.setCall ⟨(hs.pc hc).1, hhit⟩ (fun id' h => .inl ⟨task, _, hc, h⟩) (by simp)
  | @insert c task bytes compiled id hc hmiss =>
    obtain ⟨hbytes, hcompiled, hfile⟩ :
      PcInv s.registry s.dir.files task (.insert bytes compiled id) := hs.pc hc
    subst hcompiled
    -- The call gives its id up to the registry.
    have hgiven : Inv (s.setCall c task (task.fail [])) :=
      hs.setCall_plain (pcInv_fail _ _) (plain_fail _ _)
    have hfree : Free (s.setCall c task (task.fail [])) id :=
      free_of_setCall hs ⟨task, _, hc, rfl⟩ (plain_fail _ _)
    have hreg := hgiven.register hfree hfile hmiss
    have hpc : PcInv (s.registry.register id (W.sha256Hex compiled.bytes) compiled) s.dir.files task
        (.writeIndex compiled.bytes id
          (s.registry.register id (W.sha256Hex compiled.bytes) compiled).snapshot) :=
      ⟨hbytes, Table.insert_self _ _ _⟩
    have hdone := hreg.setCall (c := c) hpc (fun _ h => by cases h) fun _ _ _ h => by
      cases h
      exact .memory
    simp only [State.setCall, State.setRegistry, Table.insert_insert] at hdone
    exact hdone
  | @removeFile c task bytes id existing removed hc =>
    obtain ⟨hbytes, hhit⟩ : PcInv s.registry s.dir.files task (.removeFile bytes id existing) :=
      hs.pc hc
    have hreg := registeredAs_of_bytes hbytes hhit
    cases removed with
    | true => exact ((hs.setFile hc rfl (by simp) none).setCall_plain (pcInv_registered hreg)
        (plain_registered _ _)).ack _ _
    | false => exact (hs.setCall_plain (pcInv_registered hreg) (plain_registered _ _)).ack _ _
  | @writeIndex c task bytes id index hc =>
    have hdir := hs.setDir s.dir.index (some (.index index)) (fun h => .index h)
      fun h => by cases h; exact .snapshot hc
    have hwrite := hs.pc hc
    have hpc : PcInv s.registry s.dir.files task (.renameIndex bytes id) := hwrite
    exact hdir.setCall hpc (fun _ h => by cases h) (by simp)
  | @writeIndexFailed c task bytes id index left e hc hleft =>
    have hdir := hs.setDir s.dir.index left (fun h => .index h) fun h => by
      rcases hleft with rfl | rfl | rfl
      · exact .tmp h
      · cases h
      · cases h
        exact .snapshot hc
    exact hdir.setCall_plain (pcInv_fail _ _) (plain_fail _ _)
  | @renameIndex c task bytes id tmp hc htmp =>
    have hdir := hs.setDir (some tmp) none
      (fun h => by cases h; exact .tmp htmp) (by simp)
    obtain ⟨hbytes, hhit⟩ : PcInv s.registry s.dir.files task (.renameIndex bytes id) := hs.pc hc
    exact (hdir.setCall_plain (pcInv_registered (registeredAs_of_bytes hbytes hhit))
      (plain_registered _ _)).ack _ _
  | renameIndexFailed hc => exact hs.setCall_plain (pcInv_fail _ _) (plain_fail _ _)
  | @lookupCompiledHit c task id compiled hc hhit =>
    have hreg : RegisteredAs s.registry task id := hs.pc hc
    exact hs.setCall_plain hreg ⟨rfl, by simp⟩
  | @lookupCompiledMiss c task id hc hmiss =>
    have hreg : RegisteredAs s.registry task id := hs.pc hc
    exact hs.setCall_plain hreg ⟨rfl, by simp⟩
  | @lookupEntryHit c task id entry hc hhit =>
    exact hs.setCall_plain ⟨hs.pc hc, entry, hhit, rfl⟩ ⟨rfl, by simp⟩
  | lookupEntryMiss hc hmiss => exact hs.setCall_plain (pcInv_fail _ _) (plain_fail _ _)
  | @readFile c task id filename bytes hc hfile =>
    obtain ⟨hreg, entry, hentry, rfl⟩ := hs.pc hc
    have hname := ((hs.maps .memory).entry hentry).filename
    exact hs.setCall_plain (pcInv_read hreg hentry (hname ▸ hfile)) (plain_read _ _ _)
  | readFileFailed hc => exact hs.setCall_plain (pcInv_fail _ _) (plain_fail _ _)
  | @storeCompiled c task id compiled hc =>
    obtain ⟨hreg, entry, hentry, hfile⟩ := hs.pc hc
    exact (hs.storeCompiled hentry hfile).setCall_plain hreg ⟨rfl, by simp⟩
  | restart hstarts => exact hs.restart hstarts

theorem reachable_inv {s : State W} (h : Reachable (hostSystem W) s) : Inv s :=
  h.invariant (fun _ ⟨_, host, _, hs⟩ => hs ▸ Inv.init host) fun _ _ _ hs hstep => hs.step hstep

/-! ## The representation -/

/-- The id under which a call goes on, or has ended. -/
def Pc.componentId : Pc W → Option String
  | .lookupCompiled id => some id
  | .lookupEntry id => some id
  | .readFile id _ => some id
  | .storeCompiled id _ => some id
  | .returned (.ok (.componentId id)) => some id
  | .returned (.ok (.component _ id)) => some id
  | _ => none

/-- A call of this process has registered the bytes and has got the id for them. -/
def Registered (s : State W) (c : CallId) (bytes : Bytes) (id : String) : Prop :=
  ∃ task pc, s.calls c = some (task, pc) ∧ task.componentBytes = some bytes ∧
    pc.componentId = some id

theorem Inv.byHash_of_registered {s : State W} (hs : Inv s) {c : CallId} {bytes : Bytes}
    {id : String} (h : Registered s c bytes id) :
    s.registry.byHash (W.sha256Hex bytes) = some id := by
  obtain ⟨task, pc, hc, hbytes, hid⟩ := h
  have hpc := hs.pc hc
  cases pc with
  | lookupCompiled id' => cases hid; exact hpc _ hbytes
  | lookupEntry id' => cases hid; exact hpc _ hbytes
  | readFile id' filename => cases hid; exact hpc.1 _ hbytes
  | storeCompiled id' compiled => cases hid; exact hpc.1 _ hbytes
  | returned result =>
    cases result with
    | ok r =>
      cases r with
      | componentId id' => cases hid; exact hpc _ hbytes
      | component compiled id' => cases hid; exact hpc _ hbytes
      | bytes b => cases hid
    | _ => cases hid
  | _ => cases hid

/-- **The registry is what it stands for**, in every reachable state. -/
theorem registry_representation (hsha : Function.Injective W.sha256Hex) {s : State W}
    (h : Reachable (hostSystem W) s) :
    (∀ hash id, s.registry.byHash hash = some id ↔ ∃ entry,
      s.registry.byId id = some entry ∧ entry.sha256 = hash ∧ entry.componentId = id) ∧
    (∀ id compiled, s.registry.compiled id = some compiled →
      ∃ entry, s.registry.byId id = some entry) ∧
    (∀ id entry, s.registry.byId id = some entry → ∃ bytes,
      s.dir.files entry.filename = some bytes ∧ W.sha256Hex bytes = entry.sha256 ∧
        ∀ compiled, s.registry.compiled id = some compiled →
          Component.fromBinary W bytes = .ok compiled) ∧
    ∀ c c' bytes bytes' id id', Registered s c bytes id → Registered s c' bytes' id' →
      (bytes = bytes' ↔ id = id') := by
  have hs := reachable_inv h
  have hentry : ∀ {id entry}, s.registry.byId id = some entry → EntryOk W s.dir.files id entry :=
    (hs.maps .memory).entry
  refine ⟨fun hash id => ?_, fun id compiled hcompiled => ?_, fun id entry hid => ?_, ?_⟩
  · rw [hs.byHash]
    constructor
    · rintro ⟨entry, hid, hhash⟩
      exact ⟨entry, hid, hhash, (hentry hid).componentId⟩
    · rintro ⟨entry, hid, hhash, -⟩
      exact ⟨entry, hid, hhash⟩
  · obtain ⟨entry, hid, -⟩ := hs.compiled hcompiled
    exact ⟨entry, hid⟩
  · obtain ⟨-, hname, bytes, hfile, hhash, -⟩ := hentry hid
    refine ⟨bytes, hname ▸ hfile, hhash, fun compiled hcompiled => ?_⟩
    obtain ⟨_, -, hbytes⟩ := hs.compiled hcompiled
    cases hfile.symm.trans hbytes
    exact Component.fromBinary_of_valid W compiled.valid
  · intro c c' bytes bytes' id id' hreg hreg'
    have h₁ := hs.byHash_of_registered hreg
    have h₂ := hs.byHash_of_registered hreg'
    constructor
    · rintro rfl
      exact Option.some.inj (h₁.symm.trans h₂)
    · rintro rfl
      obtain ⟨entry, hid, hhash⟩ := hs.byHash.1 h₁
      obtain ⟨entry', hid', hhash'⟩ := hs.byHash.1 h₂
      cases hid.symm.trans hid'
      exact hsha (hhash.symm.trans hhash')

/-! Two small components, with their hashes. -/

/-- The empty component. -/
def emptyComponent : Bytes := [0x00, 0x61, 0x73, 0x6d, 0x0d, 0x00, 0x01, 0x00]

/-- The component with nothing but a custom section of the name `a`. -/
def customComponent : Bytes := emptyComponent ++ [0x00, 0x02, 0x01, 0x61]

/-- The hash of the two components, and a name for any other bytes. -/
def exampleSha256Hex (bytes : Bytes) : String :=
  if bytes = emptyComponent then "24eaf3439a60c96764c4f2c92a0a81b52bd4fe5d5b91f090184a0f6486b1bf29"
  else if bytes = customComponent then
    "8136530ed29313ba896a55d727eef1e59399d9b06da9a0e71654a8c40a1860b4"
  else .ofList ('#' :: bytes.map Char.ofUInt8)

theorem ofUInt8_injective : Function.Injective Char.ofUInt8 := fun _ _ h =>
  UInt8.toUInt32_inj.1 (congrArg Char.val h)

/-- The name of bytes other than the two components is the hash of neither. -/
theorem exampleSha256Hex_injective : Function.Injective exampleSha256Hex := by
  have hname : ∀ bytes : Bytes, (String.ofList ('#' :: bytes.map Char.ofUInt8)).toList.head? =
      some '#' := fun bytes => by rw [String.toList_ofList]; rfl
  intro x y h
  have hhead := congrArg (fun s => s.toList.head?) h
  unfold exampleSha256Hex at h hhead
  split_ifs at h hhead with hx hy hy' hx' hy hy' hy hy'
  · rw [hx, hy]
  · exact absurd h (by decide)
  · exact absurd ((hname y).symm.trans hhead.symm) (by decide)
  · exact absurd h (by decide)
  · rw [hx', hy']
  · exact absurd ((hname y).symm.trans hhead.symm) (by decide)
  · exact absurd ((hname x).symm.trans hhead) (by decide)
  · exact absurd ((hname x).symm.trans hhead) (by decide)
  · have hlist := (List.cons.inj (String.ofList_inj.1 h)).2
    exact List.map_injective_iff.2 ofUInt8_injective hlist

/-- No component is signed. -/
def exampleEnv : Env where
  PublicKey := String
  loadKeys path := .ok [path]
  verify _ _ := .error "no signature found"
  validate bytes :=
    if bytes = emptyComponent ∨ bytes = customComponent then .ok () else .error "unexpected end"
  sha256Hex := exampleSha256Hex

def emptyCompiled : Component exampleEnv := ⟨emptyComponent, rfl⟩

def customCompiled : Component exampleEnv := ⟨customComponent, rfl⟩

/-- A host that takes unsigned components. -/
def unsignedConfig : WasmVerifierConfig :=
  ⟨true, [], "/opt/confidential-containers/components", none⟩

def unsignedHost : Host exampleEnv := ⟨true, none, "/opt/confidential-containers/components", none⟩

theorem exists_registered : ∃ s, Reachable (hostSystem exampleEnv) s ∧
    s.registry.byHash (exampleSha256Hex emptyComponent) = some "1" ∧
    Registered s 0 emptyComponent "1" ∧ Registered s 1 emptyComponent "1" := by
  have h₀ : Reachable (hostSystem exampleEnv) (.init unsignedHost) :=
    .init ⟨unsignedConfig, unsignedHost, rfl, rfl⟩
  have h₁ := h₀.step (@Step.call _ _ 0 (.register emptyComponent) rfl)
  have h₂ := h₁.step (@Step.fastPathMiss _ _ 0 (.register emptyComponent) emptyComponent "1" rfl rfl
    List.not_mem_nil)
  have h₃ := h₂.step (@Step.writeFile _ _ 0 (.register emptyComponent) _ emptyCompiled _ rfl)
  have h₄ := h₃.step (@Step.insert _ _ 0 (.register emptyComponent) _ emptyCompiled _ rfl rfl)
  have h₅ := h₄.step (@Step.writeIndex _ _ 0 (.register emptyComponent) _ _ _ rfl)
  have h₆ := h₅.step (@Step.renameIndex _ _ 0 (.register emptyComponent) _ _ _ rfl rfl)
  have h₇ := h₆.step (@Step.call _ _ 1 (.register emptyComponent) rfl)
  have h₈ := h₇.step (@Step.fastPathHit _ _ 1 (.register emptyComponent) emptyComponent "2" "1" rfl
    rfl)
  exact ⟨_, h₈, rfl, ⟨_, _, rfl, rfl, rfl⟩, ⟨_, _, rfl, rfl, rfl⟩⟩

theorem registry_representation_example : ∃ s : State exampleEnv,
    (∃ entry, s.registry.byId "1" = some entry ∧ entry.componentId = "1" ∧
      s.dir.files entry.filename ≠ none) ∧
    Registered s 0 emptyComponent "1" ∧ Registered s 1 emptyComponent "1" := by
  obtain ⟨s, h, hhash, hreg, hreg'⟩ := exists_registered
  obtain ⟨hbyHash, -, hfiles, -⟩ := registry_representation exampleSha256Hex_injective h
  obtain ⟨entry, hid, -, hcid⟩ := (hbyHash _ _).1 hhash
  obtain ⟨bytes, hbytes, -⟩ := hfiles _ _ hid
  exact ⟨s, ⟨entry, hid, hcid, by rw [hbytes]; nofun⟩, hreg, hreg'⟩

end Trustmee.Wasm
