import Trustmee.Wasm.Representation

/-!
# The signature gate

Without `allow_unsigned`, `register_component` takes only bytes that verify under the trusted keys.
The components of the registry that the process loads when it starts are not verified: they are as
good as the configuration of the process that registered them. So the gate holds in every lifetime
whose start loads only components that verify under its own keys (`LoadsSigned`), and any other
start leads to the evaluation of a component that does not verify (`signature_gate`).
-/

namespace Trustmee.Wasm

open Transition

variable {W : Env}

/-- A start without `allow_unsigned` loads only entries whose files verify under its keys. -/
def LoadsSigned (s : State W) : Label → Prop
  | .restart cfg read metadata => cfg.allowUnsigned = false →
    ∀ idx id entry bytes, read = some (.index idx) → idx.byId id = some entry →
      metadata entry.filename = true → s.dir.files entry.filename = some bytes →
        ∃ keys, loadTrustedKeys (W := W) cfg = .ok (some keys) ∧ W.verify keys bytes = .ok ()
  | _ => True

/-- The bytes a call works with are signed. -/
def PcSigned (host : Host W) : Pc W → Prop
  | .fastPath bytes => SignedFor host bytes
  | .writeFile bytes _ _ => SignedFor host bytes
  | .insert bytes _ _ => SignedFor host bytes
  | .storeCompiled _ compiled => SignedFor host compiled.bytes
  | .returned (.ok (.component compiled _)) => SignedFor host compiled.bytes
  | _ => True

/-- **The gate**: without `allow_unsigned` all that is registered is signed, and all that calls work
with. -/
structure Gate (s : State W) : Prop where
  entry : ∀ {id entry bytes}, s.registry.byId id = some entry →
    s.dir.files (filenameOf id) = some bytes → SignedFor s.host bytes
  pc : ∀ {c task pc}, s.calls c = some (task, pc) → PcSigned s.host pc

theorem pcSigned_fail (host : Host W) (task : Task) (e : Error) : PcSigned host (task.fail e) :=
  trivial

theorem pcSigned_registered (host : Host W) (task : Task) (id : String) :
    PcSigned host (task.registered id) := by
  cases task <;> trivial

/-- A call that registers bytes has verified them. -/
theorem pcSigned_start {host : Host W} (hunsigned : host.allowUnsigned = false) (task : Task) :
    PcSigned host (start host task) := by
  have hregister : ∀ task bytes, PcSigned host (startRegister host task bytes) := by
    intro task bytes
    unfold startRegister
    split
    · next h =>
      exact signedFor_of_verifyComponentSignature hunsigned (Outcome.context_eq_ok.1 h)
    · trivial
    · trivial
  cases task with
  | register bytes => exact hregister _ _
  | evaluate id bytes =>
    cases bytes with
    | some bytes => exact hregister _ _
    | none =>
      simp only [start]
      split <;> trivial
  | getComponentBytes id => trivial

theorem pcSigned_compileComponent {host : Host W} {bytes : Bytes} (task : Task) (id : String)
    (h : SignedFor host bytes) : PcSigned host (compileComponent task bytes id) := by
  unfold compileComponent
  split
  · exact h
  · trivial

theorem pcSigned_read {host : Host W} {bytes : Bytes} (task : Task) (id : String)
    (h : SignedFor host bytes) : PcSigned host (task.read id bytes) := by
  cases task with
  | getComponentBytes id' => trivial
  | _ =>
    simp only [Task.read]
    split
    · next compiled hcompiled =>
      obtain rfl := Component.fromBinary_ok hcompiled
      exact h
    · trivial

namespace Gate

variable {s : State W}

theorem setCall (hg : Gate s) {c : CallId} {task : Task} {pc : Pc W} (hpc : PcSigned s.host pc) :
    Gate (s.setCall c task pc) where
  entry := hg.entry
  pc h := by
    rcases Table.insert_eq_some h with ⟨-, h⟩ | ⟨-, h⟩
    · cases h
      exact hpc
    · exact hg.pc h

theorem ack (hg : Gate s) (id : String) (bytes : Bytes) : Gate (s.ack id bytes) :=
  ⟨hg.entry, hg.pc⟩

theorem issue (hg : Gate s) (id : String) : Gate (s.issue id) := ⟨hg.entry, hg.pc⟩

theorem setTmp (hg : Gate s) (tmp : Option IndexFile) : Gate (s.setTmp tmp) := ⟨hg.entry, hg.pc⟩

theorem setIndex (hg : Gate s) (index : Option IndexFile) : Gate (s.setIndex index) :=
  ⟨hg.entry, hg.pc⟩

theorem storeCompiled (hg : Gate s) (id : String) (compiled : Component W) :
    Gate (s.setRegistry (s.registry.storeCompiled id compiled)) :=
  ⟨hg.entry, hg.pc⟩

/-- The file of an id that some call has of its own is no registered component's. -/
theorem setFile (hg : Gate s) (hs : Inv s) {id : String} (hown : Owned s id)
    (bytes : Option Bytes) : Gate (s.setFile id bytes) where
  entry {id' entry b} hentry hfile := by
    exact hg.entry hentry (((hs.grows_setFile hown bytes).files hentry).symm.trans hfile)
  pc := hg.pc

theorem register (hg : Gate s) {id hash : String} {compiled : Component W} {bytes : Bytes}
    (hfile : s.dir.files (filenameOf id) = some bytes) (hsigned : SignedFor s.host bytes) :
    Gate (s.setRegistry (s.registry.register id hash compiled)) where
  entry hentry hfile' := by
    rcases Table.insert_eq_some hentry with ⟨rfl, -⟩ | ⟨-, hentry⟩
    · cases hfile.symm.trans hfile'
      exact hsigned
    · exact hg.entry hentry hfile'
  pc := hg.pc

/-- What is compiled is signed, as the file it was compiled from is. -/
theorem compiled (hg : Gate s) (hs : Inv s) {id : String} {compiled : Component W}
    (h : s.registry.compiled id = some compiled) : SignedFor s.host compiled.bytes := by
  obtain ⟨entry, hentry, hfile⟩ := hs.compiled h
  exact hg.entry hentry hfile

/-- The keys of a host that was started without `allow_unsigned`. -/
theorem signedFor_of_newHost {cfg : WasmVerifierConfig} {host : Host W} {keys : List W.PublicKey}
    {bytes : Bytes} (hhost : newHost W cfg = .ok host)
    (hkeys : loadTrustedKeys (W := W) cfg = .ok (some keys))
    (hverify : W.verify keys bytes = .ok ()) : SignedFor host bytes := by
  rw [newHost, hkeys] at hhost
  cases hhost
  exact ⟨keys, rfl, hverify⟩

theorem allowUnsigned_newHost {cfg : WasmVerifierConfig} {host : Host W}
    (hhost : newHost W cfg = .ok host) : host.allowUnsigned = cfg.allowUnsigned := by
  obtain ⟨keys, -, h⟩ := Outcome.bind_eq_ok.1 hhost
  cases h
  rfl

/-- **Every step keeps the gate**, if a start loads only what is signed. -/
theorem step (hs : Inv s) (hg : s.host.allowUnsigned = false → Gate s) {l : Label} {t : State W}
    (hc : LoadsSigned s l) (hstep : Step s l t) : t.host.allowUnsigned = false → Gate t := by
  intro hunsigned
  cases hstep with
  | call _ => exact (hg hunsigned).setCall (pcSigned_start hunsigned _)
  | fastPathHit _ _ => exact ((hg hunsigned).setCall (pcSigned_registered _ _ _)).ack _ _
  | fastPathMiss hcall _ _ =>
    exact ((hg hunsigned).issue _).setCall
      (pcSigned_compileComponent _ _ ((hg hunsigned).pc hcall))
  | @writeFile c task bytes compiled id hcall =>
    have hsigned : SignedFor s.host bytes := (hg hunsigned).pc hcall
    exact ((hg hunsigned).setFile hs ⟨c, task, _, hcall, rfl⟩ _).setCall hsigned
  | @writeFileFailed c task bytes compiled id left e hcall =>
    exact ((hg hunsigned).setFile hs ⟨c, task, _, hcall, rfl⟩ _).setCall (pcSigned_fail _ _ _)
  | insertLost _ _ => exact (hg hunsigned).setCall trivial
  | @insert c task bytes compiled id hcall hmiss =>
    obtain ⟨-, -, hfile⟩ : PcInv s.registry s.dir.files task (.insert bytes compiled id) :=
      hs.pc hcall
    exact ((hg hunsigned).register hfile ((hg hunsigned).pc hcall)).setCall trivial
  | @removeFile c task bytes id existing removed hcall =>
    cases removed with
    | true =>
      exact (((hg hunsigned).setFile hs ⟨c, task, _, hcall, rfl⟩ _).setCall
        (pcSigned_registered _ _ _)).ack _ _
    | false => exact ((hg hunsigned).setCall (pcSigned_registered _ _ _)).ack _ _
  | writeIndex _ => exact ((hg hunsigned).setTmp _).setCall trivial
  | writeIndexFailed _ _ => exact ((hg hunsigned).setTmp _).setCall (pcSigned_fail _ _ _)
  | renameIndex _ _ =>
    exact ((((hg hunsigned).setIndex _).setTmp _).setCall (pcSigned_registered _ _ _)).ack _ _
  | renameIndexFailed _ => exact (hg hunsigned).setCall (pcSigned_fail _ _ _)
  | lookupCompiledHit _ hhit => exact (hg hunsigned).setCall ((hg hunsigned).compiled hs hhit)
  | lookupCompiledMiss _ _ => exact (hg hunsigned).setCall trivial
  | lookupEntryHit _ _ => exact (hg hunsigned).setCall trivial
  | lookupEntryMiss _ _ => exact (hg hunsigned).setCall (pcSigned_fail _ _ _)
  | @readFile c task id filename bytes hcall hfile =>
    obtain ⟨-, entry, hentry, rfl⟩ := hs.pc hcall
    have hname := ((hs.maps .memory).entry hentry).filename
    exact (hg hunsigned).setCall
      (pcSigned_read _ _ ((hg hunsigned).entry hentry (hname ▸ hfile)))
  | readFileFailed _ => exact (hg hunsigned).setCall (pcSigned_fail _ _ _)
  | @storeCompiled c task id compiled hcall =>
    have hsigned : SignedFor s.host compiled.bytes := (hg hunsigned).pc hcall
    exact ((hg hunsigned).storeCompiled _ _).setCall hsigned
  | @restart cfg read metadata host registry hstarts =>
    refine ⟨fun {id entry bytes} hentry hfile => ?_, nofun⟩
    obtain ⟨idx, hidx, hid, hmeta⟩ := hstarts.byId.1 hentry
    have hname := ((((hs.restart hstarts).maps .memory).entry hentry)).filename
    obtain ⟨keys, hkeys, hverify⟩ := hc ((allowUnsigned_newHost hstarts.host_eq).symm.trans
      hunsigned) idx id entry bytes hidx hid hmeta (hname.symm ▸ hfile)
    exact signedFor_of_newHost hstarts.host_eq hkeys hverify

end Gate

/-! ## Every lifetime -/

/-- A start that loads an entry whose file does not verify leads to its evaluation. -/
theorem evaluates_of_not_loadsSigned {s t : State W} {l : Label} (h : Reachable (hostSystem W) s)
    (hstep : Step s l t) (hl : ¬ LoadsSigned s l) :
    ∃ tr u c task compiled id, Run (hostSystem W) t tr u ∧ u.host.allowUnsigned = false ∧
      u.calls c = some (task, .returned (.ok (.component compiled id))) ∧
      ¬ SignedFor u.host compiled.bytes := by
  cases hstep with
  | @restart cfg read metadata host registry hstarts =>
    simp only [LoadsSigned, not_forall] at hl
    obtain ⟨hunsigned, idx, id, entry, bytes, hidx, hid, hmeta, hfile, hnot⟩ := hl
    have hentry : registry.byId id = some entry := hstarts.byId.2 ⟨idx, hidx, hid, hmeta⟩
    have hok := (((reachable_inv h).restart hstarts).maps .memory).entry hentry
    obtain ⟨bytes', hfile', -, hvalid⟩ := hok.file
    rw [hok.filename] at hfile
    cases hfile'.symm.trans hfile
    have hread : Task.read id bytes (.evaluate (some id) none) =
        (.storeCompiled id ⟨bytes, hvalid⟩ : Pc W) := by
      simp only [Task.read, Component.fromBinary_of_valid W hvalid]
    -- A call that evaluates the entry by its id.
    have h₁ := Run.one (S := hostSystem W)
      (@Step.call W { s with host, registry, calls := .empty } 0 (.evaluate (some id) none) rfl)
    have h₂ := h₁.snoc (.lookupCompiledMiss State.calls_setCall (hstarts.compiled id))
    have h₃ := h₂.snoc (.lookupEntryHit State.calls_setCall hentry)
    have h₄ := h₃.snoc (.readFile State.calls_setCall (hok.filename ▸ hfile'))
    rw [hread] at h₄
    have h₅ := h₄.snoc (.storeCompiled State.calls_setCall)
    refine ⟨_, _, 0, _, _, _, h₅, ?_, State.calls_setCall, ?_⟩
    · exact (Gate.allowUnsigned_newHost hstarts.host_eq).trans hunsigned
    · rintro ⟨keys, hkeys, hverify⟩
      obtain ⟨trusted, htrusted, hhost⟩ := Outcome.bind_eq_ok.1 hstarts.host_eq
      cases hhost
      cases hkeys
      exact hnot ⟨keys, htrusted, hverify⟩
  | _ => exact absurd trivial hl

/-- **When the signature gate holds.** In a run whose starts without `allow_unsigned` load only what
verifies under their trusted keys, every component that is evaluated without `allow_unsigned`
verifies under the current keys; and after any other start one is evaluated that does not. -/
theorem signature_gate (W : Env) :
    (∀ s₀ tr s, (hostSystem W).Init s₀ → AllSteps (hostSystem W) LoadsSigned s₀ tr s →
      s.host.allowUnsigned = false →
        ∀ c task compiled id, s.calls c = some (task, .returned (.ok (.component compiled id))) →
          SignedFor s.host compiled.bytes) ∧
    ∀ s l t, Reachable (hostSystem W) s → Step s l t → ¬ LoadsSigned s l →
      ∃ tr u c task compiled id, Run (hostSystem W) t tr u ∧ u.host.allowUnsigned = false ∧
        u.calls c = some (task, .returned (.ok (.component compiled id))) ∧
        ¬ SignedFor u.host compiled.bytes := by
  refine ⟨fun s₀ tr s hinit hrun hunsigned c task compiled id hc => ?_,
    fun s l t h hstep hl => evaluates_of_not_loadsSigned h hstep hl⟩
  have hinv : Inv s ∧ (s.host.allowUnsigned = false → Gate s) := by
    let I (s : State W) : Prop := Inv s ∧ (s.host.allowUnsigned = false → Gate s)
    refine hrun.invariant (I := I) ?_ (fun s l t hs hc hstep => ?_) hinit
    · rintro _ ⟨cfg, host, -, rfl⟩
      exact ⟨Inv.init host, fun _ => ⟨nofun, nofun⟩⟩
    · exact ⟨hs.1.step hstep, Gate.step hs.1 hs.2 hc hstep⟩
  exact (hinv.2 hunsigned).pc hc

/-! A component that was registered without a signature, and one that is signed. -/

/-- A host that takes signed components only. -/
def signedConfig : WasmVerifierConfig :=
  ⟨false, ["/etc/trustee/component.pub"], "/opt/confidential-containers/components", none⟩

/-- The index with the empty component. -/
def exampleIndex : RegistryIndex where
  byId := .insert .empty "1" ⟨"1", exampleSha256Hex emptyComponent, "1.wasm"⟩
  byHash := .insert .empty (exampleSha256Hex emptyComponent) "1"

/-- A lifetime without signatures. -/
theorem exists_unsigned_index : ∃ s, Reachable (hostSystem exampleEnv) s ∧
    s.dir.index = some (.index exampleIndex) ∧ s.dir.files "1.wasm" = some emptyComponent := by
  have h₀ : Reachable (hostSystem exampleEnv) (.init unsignedHost) :=
    .init ⟨unsignedConfig, unsignedHost, rfl, rfl⟩
  have h₁ := h₀.step (@Step.call _ _ 0 (.register emptyComponent) rfl)
  have h₂ := h₁.step (@Step.fastPathMiss _ _ 0 (.register emptyComponent) emptyComponent "1" rfl rfl
    List.not_mem_nil)
  have h₃ := h₂.step (@Step.writeFile _ _ 0 (.register emptyComponent) _ emptyCompiled _ rfl)
  have h₄ := h₃.step (@Step.insert _ _ 0 (.register emptyComponent) _ emptyCompiled _ rfl rfl)
  have h₅ := h₄.step (@Step.writeIndex _ _ 0 (.register emptyComponent) _ _ _ rfl)
  have h₆ := h₅.step (@Step.renameIndex _ _ 0 (.register emptyComponent) _ _ _ rfl rfl)
  exact ⟨_, h₆, rfl, rfl⟩

/-- The next lifetime takes signed components only, and evaluates the unsigned one. -/
theorem unsigned_component_evaluated : ∃ (s : State exampleEnv) (c : CallId) (task : Task)
    (compiled : Component exampleEnv) (id : String), Reachable (hostSystem exampleEnv) s ∧
      s.host.allowUnsigned = false ∧
      s.calls c = some (task, .returned (.ok (.component compiled id))) ∧
      ¬ SignedFor s.host compiled.bytes := by
  obtain ⟨s, h, hindex, hfile⟩ := exists_unsigned_index
  let metadata : String → Bool := fun name => name == "1.wasm"
  have hstarts : Starts s.dir signedConfig s.dir.index metadata
      ⟨false, some ["/etc/trustee/component.pub"], "/opt/confidential-containers/components", none⟩
      (loadEntries metadata [("1", ⟨"1", exampleSha256Hex emptyComponent, "1.wasm"⟩)] :
        RegistryState exampleEnv) := by
    refine ⟨rfl, .inr rfl, fun hname => ?_, _, fun hidx => ?_, by rw [hindex]; rfl⟩
    · rw [eq_of_beq hname, hfile]
      nofun
    · cases hindex.symm.trans hidx
      exact Table.Enumerates.nil.cons rfl _
  have hnot : ¬ LoadsSigned s (.restart signedConfig s.dir.index metadata) := by
    intro hsigned
    obtain ⟨keys, -, hverify⟩ := hsigned rfl _ "1"
      ⟨"1", exampleSha256Hex emptyComponent, "1.wasm"⟩ _ hindex rfl rfl hfile
    cases hverify
  have hstep := Step.restart hstarts
  obtain ⟨tr, u, c, task, compiled, id, hrun, hunsigned, hc, hsigned⟩ :=
    evaluates_of_not_loadsSigned h hstep hnot
  exact ⟨u, c, task, compiled, id, (h.step hstep).run hrun, hunsigned, hc, hsigned⟩

/-- A key under which one of the components verifies. -/
def signedEnv : Env :=
  { exampleEnv with
    PublicKey := String
    loadKeys path := .ok [path]
    verify keys bytes :=
      if "/etc/trustee/component.pub" ∈ keys ∧ bytes = customComponent then .ok ()
      else .error "no signature found" }

theorem signature_gate_example : ∃ (s : State signedEnv) (compiled : Component signedEnv),
    s.host.allowUnsigned = false ∧
    s.calls 0 = some (.evaluate none (some customComponent),
      .returned (.ok (.component compiled "1"))) ∧
    SignedFor s.host compiled.bytes := by
  let task : Task := .evaluate none (some customComponent)
  let host : Host signedEnv :=
    ⟨false, some ["/etc/trustee/component.pub"], "/opt/confidential-containers/components", none⟩
  let compiled : Component signedEnv := ⟨customComponent, rfl⟩
  have h₀ : AllSteps (hostSystem signedEnv) LoadsSigned (.init host) [] (.init host) := .nil
  have h₁ := h₀.step (@Step.call _ _ 0 task rfl) trivial
  have h₂ := h₁.step (@Step.fastPathMiss _ _ 0 task customComponent "1" rfl rfl List.not_mem_nil)
    trivial
  have h₃ := h₂.step (@Step.writeFile _ _ 0 task _ compiled _ rfl) trivial
  have h₄ := h₃.step (@Step.insert _ _ 0 task _ compiled _ rfl rfl) trivial
  have h₅ := h₄.step (@Step.writeIndex _ _ 0 task _ _ _ rfl) trivial
  have h₆ := h₅.step (@Step.renameIndex _ _ 0 task _ _ _ rfl rfl) trivial
  have h₇ := h₆.step (@Step.lookupCompiledHit _ _ 0 task "1" compiled rfl rfl) trivial
  exact ⟨_, compiled, rfl, rfl, (signature_gate signedEnv).1 _ _ _ ⟨signedConfig, host, rfl, rfl⟩ h₇
    rfl 0 task compiled "1" rfl⟩

end Trustmee.Wasm
