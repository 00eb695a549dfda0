import Trustmee.Wasm.Representation

/-!
# Errors of a registration

`register_component` with no other call about (`registerComponent`), as a function of the results of
its file operations; the host runs it (`registerComponent_run`).

An error leaves the maps and the index as they were, unless it comes from the index: the maps have
been updated by then, and stay so (`PersistFails`). The next registration of the same bytes then
answers from memory, with an id that is not on the index (`retry_of_persistFails`). Without such a
failure every id that is answered is on the index (`registration_errors`).
-/

namespace Trustmee.Wasm

open Transition

variable {W : Env}

/-- The UUID and the results of the file operations of one registration. -/
structure RegisterIo where
  componentId : String
  writeFile : Written Bytes
  removed : Bool
  writeIndex : Written IndexFile
  renameIndex : Option String

/-- `persist_registry_index`. -/
def persistRegistryIndex (registryDir : String) (io : RegisterIo) (index : RegistryIndex)
    (dir : Directory) : Directory × Outcome Unit :=
  match io.writeIndex with
  | .failed left e =>
    ({ dir with tmp := left }, .err ["write " ++ join registryDir "index.json.tmp", e])
  | .ok =>
    match io.renameIndex with
    | some e => ({ dir with tmp := some (.index index) },
        .err ["rename " ++ join registryDir "index.json.tmp" ++ " -> " ++
          join registryDir "index.json", e])
    | none => ({ dir with index := some (.index index), tmp := none }, .ok ())

/-- `register_component` from the write lock on. -/
def insertAndPersist (host : Host W) (io : RegisterIo) (componentBytes : Bytes)
    (compiled : Component W) (registry : RegistryState W) (dir : Directory) :
    (RegistryState W × Directory) × Outcome String :=
  match registry.byHash (W.sha256Hex componentBytes) with
  | some existing =>
    ((registry, if io.removed then dir.setFile io.componentId none else dir), .ok existing)
  | none =>
    let registry := registry.register io.componentId (W.sha256Hex componentBytes) compiled
    let (dir, persisted) := persistRegistryIndex host.registryDir io registry.snapshot dir
    ((registry, dir), persisted >>= fun _ => .ok io.componentId)

/-- `register_component`. -/
def registerComponent (host : Host W) (io : RegisterIo) (componentBytes : Bytes)
    (registry : RegistryState W) (dir : Directory) :
    (RegistryState W × Directory) × Outcome String :=
  match (verifyComponentSignature host componentBytes).context "verify component signature" with
  | .err e => ((registry, dir), .err e)
  | .panic m => ((registry, dir), .panic m)
  | .ok () =>
    match registry.byHash (W.sha256Hex componentBytes) with
    | some existing => ((registry, dir), .ok existing)
    | none =>
      match Component.fromBinary W componentBytes with
      | .error e => ((registry, dir), .err ["compile component", e])
      | .ok compiled =>
        match io.writeFile with
        | .failed left e => ((registry, dir.setFile io.componentId left),
            .err ["write " ++ join host.registryDir (filenameOf io.componentId), e])
        | .ok => insertAndPersist host io componentBytes compiled registry
            (dir.setFile io.componentId (some componentBytes))

/-- The registration gets as far as the index, and the index fails. -/
def PersistFails (host : Host W) (io : RegisterIo) (componentBytes : Bytes)
    (registry : RegistryState W) : Prop :=
  verifyComponentSignature host componentBytes = .ok () ∧
    registry.byHash (W.sha256Hex componentBytes) = none ∧
    W.validate componentBytes = .ok () ∧ io.writeFile = .ok ∧
    ((∃ left e, io.writeIndex = .failed left e) ∨
      io.writeIndex = .ok ∧ ∃ e, io.renameIndex = some e)

/-- An error leaves the maps and the index as they were. -/
def ErrorAtomic (host : Host W) (io : RegisterIo) (componentBytes : Bytes)
    (registry : RegistryState W) (dir : Directory) : Prop :=
  ∀ registry' dir' e, registerComponent host io componentBytes registry dir =
      ((registry', dir'), .err e) →
    registry' = registry ∧ dir'.index = dir.index

variable {host : Host W} {io : RegisterIo} {bytes : Bytes} {registry : RegistryState W}
  {dir : Directory}

theorem fromBinary_of_not_valid {e : String} (h : W.validate bytes = .error e) :
    Component.fromBinary W bytes = .error e := by
  unfold Component.fromBinary
  split
  · next h' => cases h'.symm.trans h
  · next h' => cases h'.symm.trans h; rfl

/-! ## What a registration does -/

/-- A registration that gets as far as the index. -/
theorem registerComponent_of_valid (hsig : verifyComponentSignature host bytes = .ok ())
    (hmiss : registry.byHash (W.sha256Hex bytes) = none) (hvalid : W.validate bytes = .ok ())
    (hfile : io.writeFile = .ok) :
    registerComponent host io bytes registry dir =
      ((registry.register io.componentId (W.sha256Hex bytes) ⟨bytes, hvalid⟩,
        (persistRegistryIndex host.registryDir io
          (registry.register io.componentId (W.sha256Hex bytes) ⟨bytes, hvalid⟩).snapshot
          (dir.setFile io.componentId (some bytes))).1),
        (persistRegistryIndex host.registryDir io
          (registry.register io.componentId (W.sha256Hex bytes) ⟨bytes, hvalid⟩).snapshot
          (dir.setFile io.componentId (some bytes))).2 >>= fun _ => .ok io.componentId) := by
  simp only [registerComponent, hsig, Outcome.context, hmiss,
    Component.fromBinary_of_valid W hvalid, hfile, insertAndPersist]

/-- **What a registration can do**: it answers, or fails, without a change but to component files;
or it gets as far as the index. -/
theorem registerComponent_cases (host : Host W) (io : RegisterIo) (bytes : Bytes)
    (registry : RegistryState W) (dir : Directory) :
    (∃ files result, registerComponent host io bytes registry dir =
        ((registry, { dir with files }), result) ∧
      (∀ id, result = .ok id → registry.byHash (W.sha256Hex bytes) = some id) ∧
      ¬ PersistFails host io bytes registry) ∨
    (verifyComponentSignature host bytes = .ok () ∧
      registry.byHash (W.sha256Hex bytes) = none ∧ W.validate bytes = .ok () ∧
      io.writeFile = .ok) := by
  cases hsig : verifyComponentSignature host bytes with
  | err e =>
    refine .inl ⟨dir.files, .err ("verify component signature" :: e), ?_, by simp, fun h => ?_⟩
    · simp only [registerComponent, hsig, Outcome.context]
    · cases h.1.symm.trans hsig
  | panic m =>
    refine .inl ⟨dir.files, .panic m, ?_, by simp, fun h => ?_⟩
    · simp only [registerComponent, hsig, Outcome.context]
    · cases h.1.symm.trans hsig
  | ok u =>
    cases hhit : registry.byHash (W.sha256Hex bytes) with
    | some existing =>
      refine .inl ⟨dir.files, .ok existing, ?_, fun id h => ?_, fun h => ?_⟩
      · simp only [registerComponent, hsig, Outcome.context, hhit]
      · cases h
        rfl
      · cases h.2.1.symm.trans hhit
    | none =>
      cases hvalid : W.validate bytes with
      | error e =>
        refine .inl ⟨dir.files, .err ["compile component", e], ?_, by simp, fun h => ?_⟩
        · simp only [registerComponent, hsig, Outcome.context, hhit, fromBinary_of_not_valid hvalid]
        · cases h.2.2.1.symm.trans hvalid
      | ok v =>
        cases hfile : io.writeFile with
        | ok => exact .inr ⟨rfl, rfl, rfl, rfl⟩
        | failed left e =>
          refine .inl ⟨(dir.setFile io.componentId left).files,
            .err ["write " ++ join host.registryDir (filenameOf io.componentId), e], ?_, by simp,
            fun h => ?_⟩
          · simp only [registerComponent, hsig, Outcome.context, hhit,
              Component.fromBinary_of_valid W hvalid, hfile]
            rfl
          · cases h.2.2.2.1.symm.trans hfile

theorem persistRegistryIndex_fails (registryDir : String) (index : RegistryIndex) (dir : Directory)
    (h : (∃ left e, io.writeIndex = .failed left e) ∨
      io.writeIndex = .ok ∧ ∃ e, io.renameIndex = some e) :
    ∃ dir' e, persistRegistryIndex registryDir io index dir = (dir', .err e) ∧
      dir'.index = dir.index := by
  rcases h with ⟨left, e, hwrite⟩ | ⟨hwrite, e, hrename⟩
  · refine ⟨{ dir with tmp := left }, ["write " ++ join registryDir "index.json.tmp", e], ?_, rfl⟩
    simp only [persistRegistryIndex, hwrite]
  · refine ⟨{ dir with tmp := some (.index index) }, ["rename " ++
      join registryDir "index.json.tmp" ++ " -> " ++ join registryDir "index.json", e], ?_, rfl⟩
    simp only [persistRegistryIndex, hwrite, hrename]

theorem persistRegistryIndex_ok {registryDir : String} {index : RegistryIndex}
    (h : ¬ ((∃ left e, io.writeIndex = .failed left e) ∨
      io.writeIndex = .ok ∧ ∃ e, io.renameIndex = some e)) :
    persistRegistryIndex registryDir io index dir =
      ({ dir with index := some (.index index), tmp := none }, .ok ()) := by
  cases hwrite : io.writeIndex with
  | failed left e => exact absurd (.inl ⟨left, e, hwrite⟩) h
  | ok =>
    cases hrename : io.renameIndex with
    | some e => exact absurd (.inr ⟨hwrite, e, hrename⟩) h
    | none => simp only [persistRegistryIndex, hwrite, hrename]

/-- A registration whose index fails: an error, after the maps were updated. -/
theorem registerComponent_of_persistFails (dir : Directory)
    (h : PersistFails host io bytes registry) :
    ∃ dir' e, registerComponent host io bytes registry dir =
      ((registry.register io.componentId (W.sha256Hex bytes) ⟨bytes, h.2.2.1⟩, dir'), .err e) ∧
      dir'.index = dir.index := by
  obtain ⟨hsig, hmiss, hvalid, hfile, hfails⟩ := h
  rw [registerComponent_of_valid hsig hmiss hvalid hfile]
  obtain ⟨dir', e, hpersist, hindex⟩ := persistRegistryIndex_fails host.registryDir
    (registry.register io.componentId (W.sha256Hex bytes) ⟨bytes, hvalid⟩).snapshot
    (dir.setFile io.componentId (some bytes)) hfails
  exact ⟨dir', e, by rw [hpersist]; rfl, hindex⟩

/-- **Errors are atomic but for those of the index.** -/
theorem errorAtomic_iff :
    ErrorAtomic host io bytes registry dir ↔ ¬ PersistFails host io bytes registry := by
  constructor
  · intro hatomic hfails
    obtain ⟨dir', e, heq, -⟩ := registerComponent_of_persistFails dir hfails
    obtain ⟨hregistry, -⟩ := hatomic _ _ _ heq
    have hhash := congrFun (congrArg RegistryState.byHash hregistry) (W.sha256Hex bytes)
    exact Table.insert_ne_self hfails.2.1 (congrArg RegistryState.byHash hregistry)
  · intro hnot registry' dir' e heq
    rcases registerComponent_cases host io bytes registry dir with
      ⟨files, result, heq', -, -⟩ | ⟨hsig, hmiss, hvalid, hfile⟩
    · cases heq'.symm.trans heq
      exact ⟨rfl, rfl⟩
    · rw [registerComponent_of_valid hsig hmiss hvalid hfile, persistRegistryIndex_ok
        fun hfails => hnot ⟨hsig, hmiss, hvalid, hfile, hfails⟩] at heq
      cases heq

/-! ## Sequences of registrations -/

variable (host) in
/-- Registrations, one after the other, from a start of the process on a directory the host has
left. -/
def registrations : System (RegistryState W × Directory) (RegisterIo × Bytes) where
  Init s := ∃ u cfg read metadata, Reachable (hostSystem W) u ∧ s.2 = u.dir ∧
    Starts u.dir cfg read metadata host s.1
  Step s l t := (registerComponent host l.1 l.2 s.1 s.2).1 = t

/-- What is in memory is on the index. -/
structure MemoryOnIndex (s : RegistryState W × Directory) : Prop where
  byHash : ∀ {hash id}, s.1.byHash hash = some id → ∃ entry, s.1.byId id = some entry
  byId : ∀ {id entry}, s.1.byId id = some entry → FileHas s.2.index id

theorem memoryOnIndex_of_starts {u : State W} {cfg : WasmVerifierConfig} {read : Option IndexFile}
    {metadata : String → Bool} {registry : RegistryState W} (h : Reachable (hostSystem W) u)
    (hstarts : Starts u.dir cfg read metadata host registry) : MemoryOnIndex (registry, u.dir) where
  byHash hhash := by
    obtain ⟨entry, hentry, -⟩ := ((reachable_inv h).restart hstarts).byHash.1 hhash
    exact ⟨entry, hentry⟩
  byId {id entry} hentry := by
    obtain ⟨idx, hidx, hid, -⟩ := hstarts.byId.1 hentry
    rcases hstarts.read_eq with hread | hread
    · cases hread.symm.trans hidx
    · exact ⟨idx, entry, hread.symm.trans hidx, hid⟩

theorem MemoryOnIndex.step {s : RegistryState W × Directory} (hs : MemoryOnIndex s)
    (hnot : ¬ PersistFails host io bytes s.1) :
    MemoryOnIndex (registerComponent host io bytes s.1 s.2).1 := by
  rcases registerComponent_cases host io bytes s.1 s.2 with
    ⟨files, result, heq, -, -⟩ | ⟨hsig, hmiss, hvalid, hfile⟩
  · rw [heq]
    exact ⟨hs.byHash, fun h => hs.byId h⟩
  · rw [registerComponent_of_valid hsig hmiss hvalid hfile, persistRegistryIndex_ok
      fun hfails => hnot ⟨hsig, hmiss, hvalid, hfile, hfails⟩]
    refine ⟨fun {hash id} h => ?_, fun h => ⟨_, _, rfl, h⟩⟩
    by_cases hid : id = io.componentId
    · subst hid
      exact ⟨_, Table.insert_self _ _ _⟩
    · rcases Table.insert_eq_some h with ⟨-, rfl⟩ | ⟨-, h⟩
      · exact absurd rfl hid
      · obtain ⟨entry, hentry⟩ := hs.byHash h
        exact ⟨entry, (Table.insert_of_ne _ _ hid).trans hentry⟩

/-- An id that is answered is on the index. -/
theorem MemoryOnIndex.answered {s : RegistryState W × Directory} (hs : MemoryOnIndex s)
    {id : String}
    (h : (registerComponent host io bytes s.1 s.2).2 = .ok id) :
    FileHas (registerComponent host io bytes s.1 s.2).1.2.index id := by
  rcases registerComponent_cases host io bytes s.1 s.2 with
    ⟨files, result, heq, hresult, -⟩ | ⟨hsig, hmiss, hvalid, hfile⟩
  · rw [heq] at h ⊢
    obtain ⟨entry, hentry⟩ := hs.byHash (hresult id h)
    exact hs.byId hentry
  · rw [registerComponent_of_valid hsig hmiss hvalid hfile] at h ⊢
    by_cases hfails : (∃ left e, io.writeIndex = .failed left e) ∨
        io.writeIndex = .ok ∧ ∃ e, io.renameIndex = some e
    · obtain ⟨dir', e, hpersist, -⟩ := persistRegistryIndex_fails host.registryDir
        (s.1.register io.componentId (W.sha256Hex bytes) ⟨bytes, hvalid⟩).snapshot
        (s.2.setFile io.componentId (some bytes)) hfails
      simp only [hpersist] at h
      cases h
    · rw [persistRegistryIndex_ok hfails] at h ⊢
      cases h
      exact ⟨_, _, rfl, Table.insert_self _ _ _⟩

/-- **After an index failure the same bytes are answered from memory**, with an id that is not on
the index. -/
theorem retry_of_persistFails (io' : RegisterIo) (hfails : PersistFails host io bytes registry)
    (hfresh : ¬ FileHas dir.index io.componentId) {registry' : RegistryState W} {dir' : Directory}
    {result : Outcome String}
    (h : registerComponent host io bytes registry dir = ((registry', dir'), result)) :
    registerComponent host io' bytes registry' dir' = ((registry', dir'), .ok io.componentId) ∧
      ¬ FileHas dir'.index io.componentId := by
  obtain ⟨dir'', e, heq, hindex⟩ := registerComponent_of_persistFails dir hfails
  cases heq.symm.trans h
  have hhit : (registry.register io.componentId (W.sha256Hex bytes)
      ⟨bytes, hfails.2.2.1⟩).byHash (W.sha256Hex bytes) = some io.componentId :=
    Table.insert_self _ _ _
  refine ⟨?_, ?_⟩
  · simp only [registerComponent, hfails.1, Outcome.context, hhit]
  · rintro ⟨idx, entry, hidx, hentry⟩
    exact hfresh ⟨idx, entry, hindex.symm.trans hidx, hentry⟩

/-- **When errors are atomic and answers are on the index.** An error leaves the maps and the index
alone exactly when it does not come from the index; in a sequence of registrations without such
errors every id that is answered is on the index; and after such an error the next registration of
the bytes answers with an id that is not. -/
theorem registration_errors (host : Host W) :
    (∀ io bytes registry dir, ErrorAtomic host io bytes registry dir ↔
      ¬ PersistFails host io bytes registry) ∧
    (∀ s₀ tr s, (registrations host).Init s₀ →
      AllSteps (registrations host) (fun s l => ¬ PersistFails host l.1 l.2 s.1) s₀ tr s →
      ∀ io bytes id, (registerComponent host io bytes s.1 s.2).2 = .ok id →
        FileHas (registerComponent host io bytes s.1 s.2).1.2.index id) ∧
    ∀ io io' bytes registry dir, PersistFails host io bytes registry →
      ¬ FileHas dir.index io.componentId → ∀ registry' dir' result,
        registerComponent host io bytes registry dir = ((registry', dir'), result) →
        (registerComponent host io' bytes registry' dir').2 = .ok io.componentId ∧
          ¬ FileHas (registerComponent host io' bytes registry' dir').1.2.index io.componentId := by
  refine ⟨fun io bytes registry dir => errorAtomic_iff, fun s₀ tr s hinit hrun io bytes id h => ?_,
    fun io io' bytes registry dir hfails hfresh registry' dir' result h => ?_⟩
  · have hs : MemoryOnIndex s := by
      refine hrun.invariant (fun s hi => ?_) (fun s l t hs hc hstep => ?_) hinit
      · obtain ⟨u, cfg, read, metadata, hu, hdir, hstarts⟩ := hi
        obtain ⟨registry, dir⟩ := s
        obtain rfl : dir = u.dir := hdir
        exact memoryOnIndex_of_starts hu hstarts
      · obtain rfl : _ = t := hstep
        exact hs.step hc
    exact hs.answered h
  · obtain ⟨heq, hnot⟩ := retry_of_persistFails io' hfails hfresh h
    rw [heq]
    exact ⟨rfl, hnot⟩

/-! ## The host runs it -/

/-- What a failed write of the temporary index leaves is what it may leave. -/
def RegisterIo.Possible (io : RegisterIo) (bytes : Bytes) (compiled : Component W)
    (registry : RegistryState W) (tmp : Option IndexFile) : Prop :=
  ∀ left e, io.writeIndex = .failed left e → TmpAfterFailure tmp
    (registry.register io.componentId (W.sha256Hex bytes) compiled).snapshot left

/-- **A call that runs alone is `registerComponent`.** -/
theorem registerComponent_run {s : State W} {c : CallId} (hc : s.calls c = none)
    (hid : io.componentId ∉ s.issued)
    (hio : ∀ hvalid : W.validate bytes = .ok (),
      io.Possible bytes ⟨bytes, hvalid⟩ s.registry s.dir.tmp) :
    ∃ tr t, Run (hostSystem W) s tr t ∧
      (t.registry, t.dir) = (registerComponent s.host io bytes s.registry s.dir).1 ∧
      t.calls c = some (.register bytes, .returned
        ((registerComponent s.host io bytes s.registry s.dir).2 >>= fun id =>
          .ok (.componentId id))) := by
  have hcall := Run.one (S := hostSystem W) (@Step.call W s c (.register bytes) hc)
  have hat : ∀ {s : State W} {task : Task} {pc : Pc W}, (s.setCall c task pc).calls c =
      some (task, pc) := State.calls_setCall
  cases hsig : verifyComponentSignature s.host bytes with
  | err e =>
    have hstart : start s.host (.register bytes) =
        .returned (.err ("verify component signature" :: e)) := by
      simp only [start, startRegister, hsig, Outcome.context]
      rfl
    rw [hstart] at hcall
    simp only [registerComponent, hsig, Outcome.context]
    exact ⟨_, _, hcall, rfl, hat⟩
  | panic m =>
    have hstart : start s.host (.register bytes) = .returned (.panic m) := by
      simp only [start, startRegister, hsig, Outcome.context]
    rw [hstart] at hcall
    simp only [registerComponent, hsig, Outcome.context]
    exact ⟨_, _, hcall, rfl, hat⟩
  | ok u =>
    have hstart : start s.host (.register bytes) = .fastPath bytes := by
      simp only [start, startRegister, hsig, Outcome.context]
    rw [hstart] at hcall
    simp only [registerComponent, hsig, Outcome.context]
    cases hhit : s.registry.byHash (W.sha256Hex bytes) with
    | some existing =>
      have hrun := hcall.snoc (@Step.fastPathHit W _ c _ bytes io.componentId existing hat hhit)
      exact ⟨_, _, hrun, rfl, hat⟩
    | none =>
      have hmiss := hcall.snoc (@Step.fastPathMiss W _ c _ bytes io.componentId hat hhit hid)
      cases hvalid : W.validate bytes with
      | error e =>
        simp only [compileComponent, fromBinary_of_not_valid hvalid] at hmiss ⊢
        exact ⟨_, _, hmiss, rfl, hat⟩
      | ok v =>
        simp only [compileComponent, Component.fromBinary_of_valid W hvalid] at hmiss ⊢
        cases hfile : io.writeFile with
        | failed left e =>
          have hrun := hmiss.snoc (@Step.writeFileFailed W _ c _ bytes _ io.componentId left e hat)
          exact ⟨_, _, hrun, rfl, hat⟩
        | ok =>
          have hinsert := (hmiss.snoc (.writeFile hat)).snoc (.insert hat hhit)
          simp only [insertAndPersist, hhit, persistRegistryIndex]
          cases hwrite : io.writeIndex with
          | failed left e =>
            have hrun := hinsert.snoc (.writeIndexFailed (e := e) hat (hio hvalid left e hwrite))
            exact ⟨_, _, hrun, rfl, hat⟩
          | ok =>
            have hwritten := hinsert.snoc (.writeIndex hat)
            cases hrename : io.renameIndex with
            | some e =>
              have hrun := hwritten.snoc (.renameIndexFailed (e := e) hat)
              exact ⟨_, _, hrun, rfl, hat⟩
            | none =>
              have hrun := hwritten.snoc (.renameIndex hat rfl)
              exact ⟨_, _, hrun, rfl, hat⟩

/-! A registration whose rename fails, and the next one. -/

/-- File operations that all succeed, but perhaps the rename. -/
def exampleIo (componentId : String) (renameIndex : Option String) : RegisterIo :=
  ⟨componentId, .ok, true, .ok, renameIndex⟩

/-- The state after a first registration whose rename fails. -/
def afterFailedRename : RegistryState exampleEnv × Directory :=
  (registerComponent unsignedHost (exampleIo "1" (some "No space left on device")) emptyComponent
    .default ⟨none, none, .empty⟩).1

theorem failed_rename_not_atomic :
    ¬ ErrorAtomic unsignedHost (exampleIo "1" (some "No space left on device")) emptyComponent
      .default ⟨none, none, .empty⟩ ∧
    (registerComponent unsignedHost (exampleIo "2" none) emptyComponent afterFailedRename.1
      afterFailedRename.2).2 = .ok "1" ∧
    ¬ FileHas (registerComponent unsignedHost (exampleIo "2" none) emptyComponent
      afterFailedRename.1 afterFailedRename.2).1.2.index "1" := by
  refine ⟨fun h => ?_, rfl, ?_⟩
  · obtain ⟨hregistry, -⟩ := h afterFailedRename.1 afterFailedRename.2 _ rfl
    have hentry := congrFun (congrArg RegistryState.byId hregistry) "1"
    cases hentry
  · rintro ⟨idx, entry, hidx, -⟩
    cases hidx

/-- The first registration on an empty directory, and the failed rename. -/
theorem registration_errors_example :
    FileHas (registerComponent unsignedHost (exampleIo "1" none) emptyComponent .default
      ⟨none, none, .empty⟩).1.2.index "1" ∧
    (registerComponent unsignedHost (exampleIo "2" none) emptyComponent afterFailedRename.1
      afterFailedRename.2).2 = .ok "1" := by
  obtain ⟨-, hsequence, hretry⟩ := registration_errors unsignedHost
  constructor
  · have hstart : Reachable (hostSystem exampleEnv) (.init unsignedHost) :=
      .init ⟨unsignedConfig, unsignedHost, rfl, rfl⟩
    have hinit : (registrations unsignedHost).Init (.default, ⟨none, none, .empty⟩) :=
      ⟨_, unsignedConfig, none, fun _ => false, hstart, rfl, rfl, .inl rfl, nofun, [], nofun, rfl⟩
    exact hsequence _ _ _ hinit .nil (exampleIo "1" none) emptyComponent "1" rfl
  · have hfails : PersistFails unsignedHost (exampleIo "1" (some "No space left on device"))
        emptyComponent .default :=
      ⟨rfl, rfl, rfl, rfl, .inr ⟨rfl, "No space left on device", rfl⟩⟩
    refine (hretry _ (exampleIo "2" none) _ _ ⟨none, none, .empty⟩ hfails ?_ _ _ _ rfl).1
    rintro ⟨idx, entry, hidx, -⟩
    cases hidx

end Trustmee.Wasm
