import Trustmee.Wasm.Representation

/-!
# Durability of registrations

An id that `register_component` answers should still be there after a restart. The snapshot of the
index is taken under the write lock, but written after it is released, by way of one temporary file
for all calls: two calls may write their snapshots in the other order, and one may rename the
other's file. And a registration whose index cannot be written leaves its entry in memory, where the
next one finds it.

What has to hold all the time is that every registered id is covered (`Covered`): it is on
`index.json`, or on the `index.json.tmp` that some call is about to rename, or in a snapshot that
some call has still to write. A step may lose that in four ways only, which `KeepsCovered` excludes;
a run without them makes all it answers durable (`registrations_durable`).
-/

namespace Trustmee.Wasm

open Transition

variable {W : Env}

/-! ## Where a registered id is written down -/

/-- The snapshot the call has still to write has this id. -/
def SnapshotHas (s : State W) (c : CallId) (id : String) : Prop :=
  ∃ task bytes componentId idx entry,
    s.calls c = some (task, .writeIndex bytes componentId idx) ∧ idx.byId id = some entry

/-- The call is about to rename `index.json.tmp`. -/
def Renames (s : State W) (c : CallId) : Prop :=
  ∃ task bytes id, s.calls c = some (task, .renameIndex bytes id)

/-- The id is on the index, or on its way there. -/
def Covered (s : State W) (id : String) : Prop :=
  FileHas s.dir.index id ∨ (FileHas s.dir.tmp id ∧ ∃ c, Renames s c) ∨ ∃ c, SnapshotHas s c id

/-- The id is on the index, or another call has still to write it. -/
def Elsewhere (s : State W) (c : CallId) (id : String) : Prop :=
  FileHas s.dir.index id ∨ ∃ c', c' ≠ c ∧ SnapshotHas s c' id

/-- Another call is about to rename `index.json.tmp`. -/
def OtherRenames (s : State W) (c : CallId) : Prop := ∃ c', c' ≠ c ∧ Renames s c'

/-- The step loses no id on its way to the index:

* a write of `index.json.tmp` that replaces a file another call is about to rename has its ids;
* a write that fails was not needed for any id;
* a rename puts no index in place that lacks an id of the old one;
* a rename that fails was not needed for any id;
* the process stops when all calls have returned, and the start reads what is there.

In the first four, an id may also be on the index, or in a snapshot another call has still to
write. -/
def KeepsCovered (s : State W) : Label → Prop
  | .act c (.writeIndex .ok) => ∀ id, FileHas s.dir.tmp id → OtherRenames s c →
    SnapshotHas s c id ∨ Elsewhere s c id
  | .act c (.writeIndex (.failed left _)) => ∀ id,
    (SnapshotHas s c id ∨ FileHas s.dir.tmp id ∧ OtherRenames s c) →
      Elsewhere s c id ∨ FileHas left id ∧ OtherRenames s c
  | .act c (.renameIndex none) => ∀ id, FileHas s.dir.index id →
    FileHas s.dir.tmp id ∨ ∃ c', c' ≠ c ∧ SnapshotHas s c' id
  | .act c (.renameIndex (some _)) => ∀ id, FileHas s.dir.tmp id →
    Elsewhere s c id ∨ OtherRenames s c
  | .restart _ read metadata => s.Quiescent ∧ read = s.dir.index ∧
    ∀ name, s.dir.files name ≠ none → metadata name = true
  | _ => True

/-- **Every registered id is covered.** -/
def AllCovered (s : State W) : Prop :=
  ∀ id entry, s.registry.byId id = some entry → Covered s id

/-! ## Coverage through a step -/

section

variable {s : State W} {c : CallId} {task : Task} {pc : Pc W} {id : String}

theorem snapshotHas_setCall_of_ne {c' : CallId} (hne : c' ≠ c) (h : SnapshotHas s c' id) :
    SnapshotHas (s.setCall c task pc) c' id := by
  obtain ⟨task', bytes, componentId, idx, entry, hc', hid⟩ := h
  exact ⟨task', bytes, componentId, idx, entry, (Table.insert_of_ne _ _ hne).trans hc', hid⟩

theorem renames_setCall_of_ne {c' : CallId} (hne : c' ≠ c) (h : Renames s c') :
    Renames (s.setCall c task pc) c' := by
  obtain ⟨task', bytes, id', hc'⟩ := h
  exact ⟨task', bytes, id', (Table.insert_of_ne _ _ hne).trans hc'⟩

theorem covered_of_elsewhere (h : Elsewhere s c id) : Covered (s.setCall c task pc) id := by
  rcases h with h | ⟨c', hne, h⟩
  · exact .inl h
  · exact .inr (.inr ⟨c', snapshotHas_setCall_of_ne hne h⟩)

theorem covered_of_tmp (htmp : FileHas s.dir.tmp id) (h : OtherRenames s c) :
    Covered (s.setCall c task pc) id := by
  obtain ⟨c', hne, h⟩ := h
  exact .inr (.inl ⟨htmp, c', renames_setCall_of_ne hne h⟩)

/-- The call neither writes nor renames the index. -/
def Idle (s : State W) (c : CallId) : Prop := ¬ Renames s c ∧ ∀ id, ¬ SnapshotHas s c id

theorem idle_of_eq (hc : s.calls c = some (task, pc))
    (hwrite : ∀ bytes id idx, pc ≠ .writeIndex bytes id idx)
    (hrename : ∀ bytes id, pc ≠ .renameIndex bytes id) : Idle s c := by
  constructor
  · rintro ⟨task', bytes, id, hc'⟩
    cases hc.symm.trans hc'
    exact hrename _ _ rfl
  · rintro id ⟨task', bytes, componentId, idx, entry, hc', -⟩
    cases hc.symm.trans hc'
    exact hwrite _ _ _ rfl

theorem idle_of_none (hc : s.calls c = none) : Idle s c := by
  constructor
  · rintro ⟨task', bytes, id, hc'⟩
    cases hc.symm.trans hc'
  · rintro id ⟨task', bytes, componentId, idx, entry, hc', -⟩
    cases hc.symm.trans hc'

/-- A call that neither writes nor renames the index covers nothing. -/
theorem covered_setCall (hidle : Idle s c) (h : Covered s id) :
    Covered (s.setCall c task pc) id := by
  rcases h with h | ⟨htmp, c', h⟩ | ⟨c', h⟩
  · exact .inl h
  · refine covered_of_tmp htmp ⟨c', ?_, h⟩
    rintro rfl
    exact hidle.1 h
  · refine .inr (.inr ⟨c', snapshotHas_setCall_of_ne ?_ h⟩)
    rintro rfl
    exact hidle.2 _ h

/-- A call that renames the index has no snapshot to write. -/
theorem ne_of_renames {c' : CallId} (h : Renames s c) (h' : SnapshotHas s c' id) : c' ≠ c := by
  rintro rfl
  obtain ⟨task, bytes, id', hc⟩ := h
  obtain ⟨task', bytes', componentId, idx, entry, hc', -⟩ := h'
  cases hc.symm.trans hc'

/-- After the write of a snapshot. -/
theorem covered_writeIndex {bytes : Bytes} {componentId : String} {idx : RegistryIndex}
    (hc : s.calls c = some (task, .writeIndex bytes componentId idx))
    (hkeeps : KeepsCovered s (.act c (.writeIndex .ok))) (h : Covered s id) :
    Covered ((s.setTmp (some (.index idx))).setCall c task (.renameIndex bytes componentId))
      id := by
  have hown : SnapshotHas s c id → Covered ((s.setTmp (some (.index idx))).setCall c task
      (.renameIndex bytes componentId)) id := by
    rintro ⟨task', bytes', componentId', idx', entry, hc', hid⟩
    cases hc.symm.trans hc'
    exact .inr (.inl ⟨⟨idx, entry, rfl, hid⟩, c, task, bytes, componentId, State.calls_setCall⟩)
  rcases h with h | ⟨htmp, c', hrenames⟩ | ⟨c', hsnapshot⟩
  · exact .inl h
  · have hne : c' ≠ c := by
      rintro rfl
      obtain ⟨task', bytes', id', hc'⟩ := hrenames
      cases hc.symm.trans hc'
    rcases hkeeps id htmp ⟨c', hne, hrenames⟩ with hsnapshot | helse
    · exact hown hsnapshot
    · exact covered_of_elsewhere (s := s.setTmp (some (.index idx))) helse
  · by_cases hne : c' = c
    · exact hown (hne ▸ hsnapshot)
    · exact covered_of_elsewhere (s := s.setTmp (some (.index idx))) (.inr ⟨c', hne, hsnapshot⟩)

/-- After a write that failed. -/
theorem covered_writeIndexFailed {bytes : Bytes} {componentId e : String} {idx : RegistryIndex}
    {left : Option IndexFile} (hc : s.calls c = some (task, .writeIndex bytes componentId idx))
    (hkeeps : KeepsCovered s (.act c (.writeIndex (.failed left e)))) (h : Covered s id) :
    Covered ((s.setTmp left).setCall c task pc) id := by
  have hcovered : Elsewhere s c id ∨ FileHas left id ∧ OtherRenames s c →
      Covered ((s.setTmp left).setCall c task pc) id := by
    rintro (helse | ⟨hleft, hrenames⟩)
    · exact covered_of_elsewhere (s := s.setTmp left) helse
    · exact covered_of_tmp (s := s.setTmp left) hleft hrenames
  rcases h with h | ⟨htmp, c', hrenames⟩ | ⟨c', hsnapshot⟩
  · exact .inl h
  · refine hcovered (hkeeps id (.inr ⟨htmp, c', ?_, hrenames⟩))
    rintro rfl
    obtain ⟨task', bytes', id', hc'⟩ := hrenames
    cases hc.symm.trans hc'
  · by_cases hne : c' = c
    · exact hcovered (hkeeps id (.inl (hne ▸ hsnapshot)))
    · exact hcovered (.inl (.inr ⟨c', hne, hsnapshot⟩))

/-- After a rename. -/
theorem covered_renameIndex {tmp : IndexFile} (hrenames : Renames s c) (htmp : s.dir.tmp = some tmp)
    (hkeeps : KeepsCovered s (.act c (.renameIndex none))) (h : Covered s id) :
    Covered (((s.setIndex (some tmp)).setTmp none).setCall c task pc) id := by
  have hrenamed : FileHas s.dir.tmp id →
      Covered (((s.setIndex (some tmp)).setTmp none).setCall c task pc) id :=
    fun hfile => .inl (htmp ▸ hfile)
  have hother : (∃ c', c' ≠ c ∧ SnapshotHas s c' id) →
      Covered (((s.setIndex (some tmp)).setTmp none).setCall c task pc) id := by
    rintro ⟨c', hne, hsnapshot⟩
    exact .inr (.inr ⟨c', snapshotHas_setCall_of_ne
      (s := (s.setIndex (some tmp)).setTmp none) hne hsnapshot⟩)
  rcases h with h | ⟨hfile, -⟩ | ⟨c', hsnapshot⟩
  · rcases hkeeps id h with hfile | hsnapshot
    · exact hrenamed hfile
    · exact hother hsnapshot
  · exact hrenamed hfile
  · exact hother ⟨c', ne_of_renames hrenames hsnapshot, hsnapshot⟩

/-- After a rename that failed. -/
theorem covered_renameIndexFailed {e : String} (hrenames : Renames s c)
    (hkeeps : KeepsCovered s (.act c (.renameIndex (some e)))) (h : Covered s id) :
    Covered (s.setCall c task pc) id := by
  rcases h with h | ⟨htmp, -⟩ | ⟨c', hsnapshot⟩
  · exact .inl h
  · rcases hkeeps id htmp with helse | hother
    · exact covered_of_elsewhere helse
    · exact covered_of_tmp htmp hother
  · exact .inr (.inr ⟨c', snapshotHas_setCall_of_ne (ne_of_renames hrenames hsnapshot) hsnapshot⟩)

end

/-! ## A whole step -/

/-- A stretch of a call only adds to the registry, and leaves the files of what is registered. -/
theorem grows_of_act {s t : State W} {c : CallId} {action : Action} (hs : Inv s)
    (hstep : Step s (.act c action) t) : Grows s.registry s.dir.files t.registry t.dir.files := by
  cases hstep with
  | @writeFile _ task _ _ _ hc => exact hs.grows_setFile ⟨c, task, _, hc, rfl⟩ _
  | @writeFileFailed _ task _ _ _ _ _ hc => exact hs.grows_setFile ⟨c, task, _, hc, rfl⟩ _
  | @insert _ task bytes compiled id hc hmiss =>
    have hgiven : Free (s.setCall c task (task.fail [])) id :=
      free_of_setCall hs ⟨task, _, hc, rfl⟩ (plain_fail task [])
    exact grows_register (hgiven.not_mem .memory) hmiss
  | @removeFile _ task bytes id existing removed hc =>
    cases removed with
    | true => exact hs.grows_setFile ⟨c, task, _, hc, rfl⟩ _
    | false => exact Grows.refl _ _
  | storeCompiled _ => exact ⟨fun h => h, fun h => h, fun _ => rfl⟩
  | _ => exact Grows.refl _ _

/-- **A step that keeps ids covered keeps all registered ids covered.** -/
theorem AllCovered.act {s t : State W} {c : CallId} {action : Action} (hs : AllCovered s)
    (hkeeps : KeepsCovered s (.act c action)) (hstep : Step s (.act c action) t) :
    AllCovered t := by
  intro id entry hentry
  cases hstep with
  | fastPathHit hc _ => exact covered_setCall (idle_of_eq hc nofun nofun) (hs _ _ hentry)
  | @fastPathMiss _ task _ _ hc _ _ =>
    exact covered_setCall (s := s.issue _) (idle_of_eq hc nofun nofun) (hs _ _ hentry)
  | writeFile hc =>
    exact covered_setCall (s := s.setFile _ _) (idle_of_eq hc nofun nofun) (hs _ _ hentry)
  | writeFileFailed hc =>
    exact covered_setCall (s := s.setFile _ _) (idle_of_eq hc nofun nofun) (hs _ _ hentry)
  | insertLost hc _ => exact covered_setCall (idle_of_eq hc nofun nofun) (hs _ _ hentry)
  | @insert _ task bytes compiled id' hc hmiss =>
    -- The call's snapshot has all that is registered.
    exact .inr (.inr ⟨c, task, bytes, id', _, entry, State.calls_setCall, hentry⟩)
  | @removeFile _ task bytes id' existing removed hc =>
    cases removed with
    | true => exact covered_setCall (s := s.setFile _ _) (idle_of_eq hc nofun nofun) (hs _ _ hentry)
    | false => exact covered_setCall (idle_of_eq hc nofun nofun) (hs _ _ hentry)
  | writeIndex hc => exact covered_writeIndex hc hkeeps (hs _ _ hentry)
  | writeIndexFailed hc _ => exact covered_writeIndexFailed hc hkeeps (hs _ _ hentry)
  | renameIndex hc htmp => exact covered_renameIndex ⟨_, _, _, hc⟩ htmp hkeeps (hs _ _ hentry)
  | renameIndexFailed hc => exact covered_renameIndexFailed ⟨_, _, _, hc⟩ hkeeps (hs _ _ hentry)
  | lookupCompiledHit hc _ => exact covered_setCall (idle_of_eq hc nofun nofun) (hs _ _ hentry)
  | lookupCompiledMiss hc _ => exact covered_setCall (idle_of_eq hc nofun nofun) (hs _ _ hentry)
  | lookupEntryHit hc _ => exact covered_setCall (idle_of_eq hc nofun nofun) (hs _ _ hentry)
  | lookupEntryMiss hc _ => exact covered_setCall (idle_of_eq hc nofun nofun) (hs _ _ hentry)
  | readFile hc _ => exact covered_setCall (idle_of_eq hc nofun nofun) (hs _ _ hentry)
  | readFileFailed hc => exact covered_setCall (idle_of_eq hc nofun nofun) (hs _ _ hentry)
  | storeCompiled hc =>
    exact covered_setCall (s := s.setRegistry _) (idle_of_eq hc nofun nofun) (hs _ _ hentry)

/-- What was answered is registered, with the bytes in its file. -/
def AckedRegistered (s : State W) : Prop :=
  ∀ id bytes, (id, bytes) ∈ s.acked → ∃ entry, s.registry.byId id = some entry ∧
    s.dir.files (filenameOf id) = some bytes

/-- The bytes of a registered hash are those of the file. -/
theorem Inv.file_of_byHash {s : State W} (hs : Inv s) (hsha : Function.Injective W.sha256Hex)
    {bytes : Bytes} {id : String} (h : s.registry.byHash (W.sha256Hex bytes) = some id) :
    ∃ entry, s.registry.byId id = some entry ∧ s.dir.files (filenameOf id) = some bytes := by
  obtain ⟨entry, hentry, hhash⟩ := hs.byHash.1 h
  obtain ⟨bytes', hfile, hhash', -⟩ := ((hs.maps .memory).entry hentry).file
  rw [hsha (hhash'.trans hhash)] at hfile
  exact ⟨entry, hentry, hfile⟩

/-- A call answers with an id that its bytes are registered under. -/
theorem acked_of_act {s t : State W} {c : CallId} {action : Action} (hs : Inv s)
    (hstep : Step s (.act c action) t) {id : String} {bytes : Bytes} (h : (id, bytes) ∈ t.acked) :
    (id, bytes) ∈ s.acked ∨ s.registry.byHash (W.sha256Hex bytes) = some id := by
  cases hstep with
  | fastPathHit hc hhit =>
    rcases List.mem_cons.1 h with h | h
    · cases h
      exact .inr hhit
    · exact .inl h
  | @removeFile _ task bytes' id' existing removed hc =>
    rcases List.mem_cons.1 h with h | h
    · cases h
      exact .inr (hs.pc hc).2
    · left
      cases removed <;> exact h
  | renameIndex hc _ =>
    rcases List.mem_cons.1 h with h | h
    · cases h
      exact .inr (hs.pc hc).2
    · exact .inl h
  | _ => exact .inl h

theorem AckedRegistered.act {s t : State W} {c : CallId} {action : Action} (hs : Inv s)
    (hsha : Function.Injective W.sha256Hex) (hacked : AckedRegistered s)
    (hstep : Step s (.act c action) t) : AckedRegistered t := by
  intro id bytes h
  have hgrows := grows_of_act hs hstep
  have hregistered : ∃ entry, s.registry.byId id = some entry ∧
      s.dir.files (filenameOf id) = some bytes := by
    rcases acked_of_act hs hstep h with h | h
    · exact hacked _ _ h
    · exact hs.file_of_byHash hsha h
  obtain ⟨entry, hentry, hfile⟩ := hregistered
  exact ⟨entry, hgrows.byId hentry, (hgrows.files hentry).trans hfile⟩

/-! ## Between two lifetimes -/

/-- When all calls have returned, what is covered is on the index. -/
theorem fileHas_of_quiescent {s : State W} (hq : s.Quiescent) {id : String} (h : Covered s id) :
    FileHas s.dir.index id := by
  rcases h with h | ⟨-, c, task, bytes, id', hc⟩ | ⟨c, task, bytes, id', idx, entry, hc, -⟩
  · exact h
  · obtain ⟨result, hresult⟩ := hq hc
    cases hresult
  · obtain ⟨result, hresult⟩ := hq hc
    cases hresult

/-- The files of the index are there. -/
theorem Inv.file_of_index {s : State W} (hs : Inv s) {idx : RegistryIndex} {id : String}
    {entry : RegistryEntry} (hidx : s.dir.index = some (.index idx))
    (hentry : idx.byId id = some entry) :
    entry.filename = filenameOf id ∧ s.dir.files entry.filename ≠ none := by
  obtain ⟨-, hname, bytes, hfile, -⟩ := (hs.maps (.index hidx)).entry hentry
  refine ⟨hname, ?_⟩
  rw [hname, hfile]
  nofun

/-- A start that reads what is there finds what is covered. -/
theorem byId_of_starts {s : State W} (hs : Inv s) (hq : s.Quiescent) {cfg : WasmVerifierConfig}
    {metadata : String → Bool} {host : Host W} {registry : RegistryState W}
    (hmeta : ∀ name, s.dir.files name ≠ none → metadata name = true)
    (hstarts : Starts s.dir cfg s.dir.index metadata host registry) {id : String}
    (h : Covered s id) : ∃ entry, registry.byId id = some entry := by
  obtain ⟨idx, entry, hidx, hentry⟩ := fileHas_of_quiescent hq h
  exact ⟨entry, hstarts.byId.2 ⟨idx, hidx, hentry, hmeta _ (hs.file_of_index hidx hentry).2⟩⟩

/-- What a run without lost ids keeps. -/
structure Durable (s : State W) : Prop where
  inv : Inv s
  covered : AllCovered s
  acked : AckedRegistered s

theorem Durable.step (hsha : Function.Injective W.sha256Hex) {s t : State W} {l : Label}
    (hs : Durable s) (hkeeps : KeepsCovered s l) (hstep : Step s l t) : Durable t := by
  refine ⟨hs.inv.step hstep, ?_, ?_⟩
  · cases l with
    | act c action => exact hs.covered.act hkeeps hstep
    | call c task =>
      cases hstep with
      | call hc => exact fun _ _ h => covered_setCall (idle_of_none hc) (hs.covered _ _ h)
    | restart cfg read metadata =>
      cases hstep with
      | restart hstarts =>
        intro id entry h
        obtain ⟨idx, hidx, hentry, -⟩ := hstarts.byId.1 h
        exact .inl ⟨idx, entry, hkeeps.2.1.symm.trans hidx, hentry⟩
  · cases l with
    | act c action => exact hs.acked.act hs.inv hsha hstep
    | call c task =>
      cases hstep with
      | call hc => exact hs.acked
    | restart cfg read metadata =>
      cases hstep with
      | restart hstarts =>
        intro id bytes h
        obtain ⟨hq, rfl, hmeta⟩ := hkeeps
        obtain ⟨entry, hentry, hfile⟩ := hs.acked _ _ h
        obtain ⟨entry', hentry'⟩ :=
          byId_of_starts hs.inv hq hmeta hstarts (hs.covered _ _ hentry)
        exact ⟨entry', hentry', hfile⟩

/-- **When registrations are durable.** In a run whose steps all keep ids covered, when all calls
have returned, the index can be read, and in whatever order it is read, every id that was answered
is registered again, with the bytes it was answered for in its file. -/
theorem registrations_durable (hsha : Function.Injective W.sha256Hex) {s₀ s : State W}
    {tr : List Label} (hinit : (hostSystem W).Init s₀)
    (hrun : AllSteps (hostSystem W) KeepsCovered s₀ tr s) (hq : s.Quiescent) {id : String}
    {bytes : Bytes} (hacked : (id, bytes) ∈ s.acked) :
    ∃ idx, s.dir.index = some (.index idx) ∧ (∃ entries, Table.Enumerates entries idx.byId) ∧
      ∀ registryDir entries, Table.Enumerates entries idx.byId →
        ∃ (registry : RegistryState W) (entry : RegistryEntry),
          loadRegistryIndex registryDir s.dir.index (fun name => (s.dir.files name).isSome)
            entries = .ok registry ∧
          registry.byId id = some entry ∧ s.dir.files entry.filename = some bytes := by
  have hs : Durable s := by
    refine hrun.invariant (I := Durable) ?_ (fun s l t hs hc hstep => hs.step hsha hc hstep) hinit
    rintro _ ⟨cfg, host, -, rfl⟩
    exact ⟨Inv.init host, nofun, nofun⟩
  obtain ⟨entry₀, hentry₀, hfile⟩ := hs.acked _ _ hacked
  obtain ⟨idx, entry, hidx, hentry⟩ := fileHas_of_quiescent hq (hs.covered _ _ hentry₀)
  obtain ⟨hname, -⟩ := hs.inv.file_of_index hidx hentry
  rw [← hname] at hfile
  refine ⟨idx, hidx, (hs.inv.maps (.index hidx)).finite, fun registryDir entries henum => ?_⟩
  refine ⟨loadEntries (fun name => (s.dir.files name).isSome) entries, entry, ?_, ?_, hfile⟩
  · rw [hidx]
    rfl
  · rw [loadEntries_byId henum.nodup, henum.mem_iff, hfile]
    exact ⟨hentry, rfl⟩

/-! Two calls that persist their snapshots in the other order, and in the same. -/

/-- Both components are answered with an id, but a restart finds the first one only. -/
theorem second_component_lost : ∃ s : State exampleEnv, Reachable (hostSystem exampleEnv) s ∧
    s.Quiescent ∧ ("2", customComponent) ∈ s.acked ∧
    ∀ cfg read metadata (host : Host exampleEnv) (registry : RegistryState exampleEnv),
      Starts s.dir cfg read metadata host registry → registry.byId "2" = none := by
  have h₀ : Reachable (hostSystem exampleEnv) (.init unsignedHost) :=
    .init ⟨unsignedConfig, unsignedHost, rfl, rfl⟩
  have h₁ := h₀.step (@Step.call _ _ 0 (.register emptyComponent) rfl)
  have h₂ := h₁.step (@Step.call _ _ 1 (.register customComponent) rfl)
  have h₃ := h₂.step (@Step.fastPathMiss _ _ 0 (.register emptyComponent) emptyComponent "1" rfl rfl
    List.not_mem_nil)
  have h₄ := h₃.step (@Step.fastPathMiss _ _ 1 (.register customComponent) customComponent "2" rfl
    rfl (fun h => absurd (List.mem_singleton.1 h) (by decide)))
  have h₅ := h₄.step (@Step.writeFile _ _ 0 (.register emptyComponent) _ emptyCompiled _ rfl)
  have h₆ := h₅.step (@Step.writeFile _ _ 1 (.register customComponent) _ customCompiled _ rfl)
  -- The first snapshot has one component, the second one both.
  have h₇ := h₆.step (@Step.insert _ _ 0 (.register emptyComponent) _ emptyCompiled _ rfl rfl)
  have h₈ := h₇.step (@Step.insert _ _ 1 (.register customComponent) _ customCompiled _ rfl rfl)
  have h₉ := h₈.step (@Step.writeIndex _ _ 1 (.register customComponent) _ _ _ rfl)
  have h₁₀ := h₉.step (@Step.renameIndex _ _ 1 (.register customComponent) _ _ _ rfl rfl)
  have h₁₁ := h₁₀.step (@Step.writeIndex _ _ 0 (.register emptyComponent) _ _ _ rfl)
  have h₁₂ := h₁₁.step (@Step.renameIndex _ _ 0 (.register emptyComponent) _ _ _ rfl rfl)
  refine ⟨_, h₁₂, ?_, List.mem_cons_of_mem _ List.mem_cons_self, ?_⟩
  · intro c task pc hc
    match c with
    | 0 => cases hc; exact ⟨_, rfl⟩
    | 1 => cases hc; exact ⟨_, rfl⟩
    | c + 2 => cases hc
  · intro cfg read metadata host registry hstarts
    cases hbyId : registry.byId "2" with
    | none => rfl
    | some entry =>
      obtain ⟨idx, hidx, hentry, -⟩ := hstarts.byId.1 hbyId
      rcases hstarts.read_eq with hread | hread
      · cases hread.symm.trans hidx
      · cases hread.symm.trans hidx
        cases hentry

/-- Two calls that overlap, of which the first persists its snapshot before the second. -/
theorem exists_run_both : ∃ tr s, AllSteps (hostSystem exampleEnv) KeepsCovered
    (.init unsignedHost) tr s ∧ s.Quiescent ∧ ("1", emptyComponent) ∈ s.acked ∧
      ("2", customComponent) ∈ s.acked := by
  have h₀ : AllSteps (hostSystem exampleEnv) KeepsCovered (.init unsignedHost) []
    (.init unsignedHost) := .nil
  have h₁ := h₀.step (@Step.call _ _ 0 (.register emptyComponent) rfl) trivial
  have h₂ := h₁.step (@Step.call _ _ 1 (.register customComponent) rfl) trivial
  have h₃ := h₂.step (@Step.fastPathMiss _ _ 0 (.register emptyComponent) emptyComponent "1" rfl rfl
    List.not_mem_nil) trivial
  have h₄ := h₃.step (@Step.fastPathMiss _ _ 1 (.register customComponent) customComponent "2" rfl
    rfl (fun h => absurd (List.mem_singleton.1 h) (by decide))) trivial
  have h₅ := h₄.step (@Step.writeFile _ _ 0 (.register emptyComponent) _ emptyCompiled _ rfl)
    trivial
  have h₆ := h₅.step (@Step.writeFile _ _ 1 (.register customComponent) _ customCompiled _ rfl)
    trivial
  have h₇ := h₆.step (@Step.insert _ _ 0 (.register emptyComponent) _ emptyCompiled _ rfl rfl)
    trivial
  have h₈ := h₇.step (@Step.insert _ _ 1 (.register customComponent) _ customCompiled _ rfl rfl)
    trivial
  have h₉ := h₈.step (@Step.writeIndex _ _ 0 (.register emptyComponent) _ _ _ rfl)
    (fun id ⟨idx, entry, htmp, _⟩ => by cases htmp)
  have h₁₀ := h₉.step (@Step.renameIndex _ _ 0 (.register emptyComponent) _ _ _ rfl rfl)
    (fun id ⟨idx, entry, hindex, _⟩ => by cases hindex)
  have h₁₁ := h₁₀.step (@Step.writeIndex _ _ 1 (.register customComponent) _ _ _ rfl)
    (fun id ⟨idx, entry, htmp, _⟩ => by cases htmp)
  -- The index that is replaced has the first id, which is in the second snapshot too.
  have h₁₂ := h₁₁.step (@Step.renameIndex _ _ 1 (.register customComponent) _ _ _ rfl rfl)
    (fun id ⟨idx, entry, hindex, hentry⟩ => by
      cases hindex
      rcases Table.insert_eq_some hentry with ⟨rfl, -⟩ | ⟨-, hentry⟩
      · exact .inl ⟨_, _, rfl, rfl⟩
      · cases hentry)
  refine ⟨_, _, h₁₂, ?_, List.mem_cons_of_mem _ List.mem_cons_self, List.mem_cons_self⟩
  intro c task pc hc
  rcases c with _ | _ | c
  · cases hc
    exact ⟨_, rfl⟩
  · cases hc
    exact ⟨_, rfl⟩
  · cases hc

/-- Both components are found again. -/
theorem registrations_durable_example : ∃ (s : State exampleEnv) (idx : RegistryIndex),
    ("1", emptyComponent) ∈ s.acked ∧ ("2", customComponent) ∈ s.acked ∧
    s.dir.index = some (.index idx) ∧
    ∃ (registry : RegistryState exampleEnv) (entry entry' : RegistryEntry),
      (registry.byId "1" = some entry ∧ s.dir.files entry.filename = some emptyComponent) ∧
      registry.byId "2" = some entry' ∧ s.dir.files entry'.filename = some customComponent := by
  obtain ⟨tr, s, hrun, hquiescent, hempty, hcustom⟩ := exists_run_both
  have hinit : (hostSystem exampleEnv).Init (.init unsignedHost) :=
    ⟨unsignedConfig, unsignedHost, rfl, rfl⟩
  obtain ⟨idx, hidx, ⟨entries, henum⟩, hload⟩ :=
    registrations_durable exampleSha256Hex_injective hinit hrun hquiescent hempty
  obtain ⟨idx', hidx', -, hload'⟩ :=
    registrations_durable exampleSha256Hex_injective hinit hrun hquiescent hcustom
  cases hidx.symm.trans hidx'
  obtain ⟨registry, entry, hregistry, hfirst⟩ := hload unsignedHost.registryDir entries henum
  obtain ⟨registry', entry', hregistry', hsecond⟩ := hload' unsignedHost.registryDir entries henum
  cases hregistry.symm.trans hregistry'
  exact ⟨s, idx, hempty, hcustom, hidx, registry, entry, entry', hfirst, hsecond⟩

end Trustmee.Wasm
