import Trustmee.Policy.Store

/-!
# Where policies are read and written

The file of an identifier is a child of the directory of policies, named by the identifier, as long
as the identifier has no slash (`resolve_policyFilePath`). `set_policy` refuses every other
identifier before it goes to the file system. `get_policy` and `evaluate` check no identifier: with
a slash or two dots in it they go to the file system all the same, and with both they leave the
directory.
-/

namespace Trustmee.Policy

/-- Where a policy's identifier is taken from a request. -/
inductive EntryPoint (α : Type)
  | setPolicy (policy : String) (overwrite : Bool)
  | getPolicy
  | evaluate (engine : String → String → Except PolicyError α)

/-- What an entry point does with an identifier. -/
def EntryPoint.run {α : Type} (S : Store) (policyId : String) : EntryPoint α → StoreM Unit
  | .setPolicy policy overwrite => S.setPolicy policyId policy overwrite
  | .getPolicy => do
    let _ ← S.getPolicy policyId
    return ()
  | .evaluate engine => do
    let _ ← S.evaluate engine policyId
    return ()

/-- An identifier that has a separator of paths in it, or two dots in a row. -/
def Leaves (policyId : String) : Prop :=
  '/' ∈ policyId.toList ∨ ['.', '.'] <:+: policyId.toList

/-- A run goes to no file but the one of the identifier in the directory, and refuses an identifier
that may leave it without going to the file system. -/
def Confined (fs : FileSystem) (place : Place) (policyId : String)
    (run : Ending FileSystem FileCall PolicyError Unit) : Prop :=
  (∀ c ∈ run.calls, fs.resolve c.path = .ok (place ++ [policyId ++ ".rego"])) ∧
    (Leaves policyId → run.calls = [] ∧ ∃ e, run.result = .error e)

variable {α : Type} {S : Store} {fs : FileSystem} {place : Place} {policyId : String}

/-! ## The file of an identifier -/

theorem isName_rego (h : '/' ∉ policyId.toList) : FileSystem.IsName (policyId ++ ".rego") := by
  have hlength : ∀ name : String, name.length < 5 → policyId ++ ".rego" ≠ name := by
    intro name hname heq
    rw [← heq, String.length_append] at hname
    have hrego : ".rego".length = 5 := by decide
    omega
  exact ⟨hlength "" (by decide), hlength "." (by decide), hlength ".." (by decide), by simp [h]⟩

/-- The file of an identifier is a child of the directory. -/
theorem resolve_policyFilePath (hdir : fs.resolve S.policyDirPath = .ok place)
    (hplace : fs.isDir place = true) (hslash : '/' ∉ policyId.toList)
    (hnul : Char.ofNat 0 ∉ policyId.toList) :
    fs.resolve (S.policyFilePath policyId) = .ok (place ++ [policyId ++ ".rego"]) :=
  FileSystem.resolve_join_name hdir hplace (isName_rego hslash) (by simpa using hnul)

theorem resolve_evaluate (hdir : fs.resolve S.policyDirPath = .ok place)
    (hplace : fs.isDir place = true) (hslash : '/' ∉ policyId.toList)
    (hnul : Char.ofNat 0 ∉ policyId.toList) :
    fs.resolve (S.policyDirPath ++ "/" ++ policyId ++ ".rego") =
      .ok (place ++ [policyId ++ ".rego"]) := by
  have hname := isName_rego hslash
  rw [String.append_assoc, FileSystem.resolve_append hdir, if_neg (by simpa using hnul),
    FileSystem.pieces_of_notMem hname.2.2.2, FileSystem.walk_name hplace hname]

/-! ## Identifiers that are checked -/

/-- The characters of a valid identifier. -/
theorem notMem_of_isValidPolicyId (h : S.isValidPolicyId policyId = true) {c : Char}
    (hascii : c.toNat < 128) (hc : (c.isAlphanum || c == '_' || c == '-') = false) :
    c ∉ policyId.toList := by
  intro hmem
  have hvalid := List.all_eq_true.1 h c hmem
  rw [S.isAlphanumeric_ascii c hascii, hc] at hvalid
  cases hvalid

theorem not_leaves_of_isValidPolicyId (h : S.isValidPolicyId policyId = true) :
    ¬ Leaves policyId := by
  rintro (hslash | hdots)
  · exact notMem_of_isValidPolicyId h (by decide) (by decide) hslash
  · have hdot : '.' ∈ policyId.toList := hdots.subset (by simp)
    exact notMem_of_isValidPolicyId h (by decide) (by decide) hdot

/-- What the checks of `set_policy` let pass. -/
theorem checkPolicy_eq_ok_iff {policy : String} {b : Bytes} :
    S.checkPolicy policyId policy = .ok b ↔
      Base64.decodeUrlSafeNoPad policy = some b ∧ S.isValidPolicyId policyId = true ∧
        ∃ text, fromUtf8 b = some text ∧ S.addPolicy policyId text = .ok () := by
  unfold Store.checkPolicy
  constructor
  · intro h
    split at h
    · cases h
    · next hdecode =>
      split at h
      · next hvalid =>
        split at h
        · cases h
        · next htext =>
          split at h
          · cases h
          · next hadd =>
            cases h
            exact ⟨hdecode, hvalid, _, htext, hadd⟩
      · cases h
  · rintro ⟨hdecode, hvalid, text, htext, hadd⟩
    rw [hdecode]
    dsimp only
    rw [if_pos hvalid, htext]
    dsimp only
    rw [hadd]

/-! ## The calls of the entry points -/

/-- `set_policy` of what it refuses. -/
theorem run_setPolicy_of_error {policy : String} {overwrite : Bool} {e : PolicyError}
    (h : S.checkPolicy policyId policy = .error e) :
    (S.setPolicy policyId policy overwrite).run fs = ⟨.error e, [], fs⟩ := by
  apply Traced.run_bind_of_error
  rw [h]
  rfl

theorem avoids_writeFile (path : String) (b : Bytes) :
    (writeFile path b).Avoids fun c => c.path ≠ path := by
  intro fs c hc
  unfold writeFile callFile Traced.run at hc
  split at hc
  · cases hc
  · rw [List.mem_singleton] at hc
    rw [hc]
    exact not_not.2 rfl

theorem avoids_pathExists (path : String) : (pathExists path).Avoids fun c => c.path ≠ path := by
  intro fs c hc
  unfold pathExists Traced.run at hc
  split at hc
  · cases hc
  · rw [List.mem_singleton] at hc
    rw [hc]
    exact not_not.2 rfl

/-- `set_policy` goes to no file but the one of the identifier. -/
theorem avoids_setPolicy (policy : String) (overwrite : Bool) :
    (S.setPolicy policyId policy overwrite).Avoids fun c => c.path ≠ S.policyFilePath policyId := by
  apply (Traced.avoids_lift _).bind
  intro b
  split
  · exact avoids_writeFile _ b
  · apply (avoids_pathExists _).bind
    intro found
    split
    · exact Traced.avoids_pure _
    · exact avoids_writeFile _ b

theorem confined_setPolicy (hdir : fs.resolve S.policyDirPath = .ok place)
    (hplace : fs.isDir place = true) (policy : String) (overwrite : Bool) :
    Confined fs place policyId ((S.setPolicy policyId policy overwrite).run fs) := by
  cases hcheck : S.checkPolicy policyId policy with
  | error e =>
    rw [run_setPolicy_of_error hcheck]
    refine ⟨?_, fun _ => ⟨rfl, e, rfl⟩⟩
    intro c hc
    cases hc
  | ok b =>
    have hvalid := (checkPolicy_eq_ok_iff.1 hcheck).2.1
    refine ⟨?_, fun h => absurd h (not_leaves_of_isValidPolicyId hvalid)⟩
    intro c hc
    rw [not_not.1 (avoids_setPolicy policy overwrite fs c hc)]
    exact resolve_policyFilePath hdir hplace
      (notMem_of_isValidPolicyId hvalid (by decide) (by decide))
      (notMem_of_isValidPolicyId hvalid (by decide) (by decide))

variable {path : String}

theorem run_readFile (hnul : Char.ofNat 0 ∉ path.toList) : (readFile path).run fs =
    ⟨(fs.read path).mapError .readPolicyFileFailed, [.read path], fs⟩ := if_neg hnul

theorem run_readFile_of_nul (hnul : Char.ofNat 0 ∈ path.toList) : (readFile path).run fs =
    ⟨.error (.readPolicyFileFailed .nulByte), [], fs⟩ := if_pos hnul

/-- A read is the only file call of what goes to no file after it. -/
theorem calls_readFile_bind {β : Type} {f : Bytes → StoreM β}
    (hf : ∀ b fs, ((f b).run fs).calls = []) (hnul : Char.ofNat 0 ∉ path.toList) :
    ((readFile path >>= f).run fs).calls = [.read path] := by
  have hread : (readFile path).run fs = ⟨(fs.read path).mapError .readPolicyFileFailed,
      [.read path], fs⟩ := run_readFile hnul
  cases hfile : fs.read path with
  | error e =>
    rw [hfile] at hread
    rw [Traced.run_bind_of_error hread]
  | ok b =>
    rw [hfile] at hread
    rw [Traced.run_bind_of_ok hread, hf]
    rfl

/-- A reader of the file of an identifier is confined exactly when the identifier leads nowhere, or
does not leave the directory. -/
theorem confined_readFile_iff {f : Bytes → StoreM Unit} (hf : ∀ b fs, ((f b).run fs).calls = [])
    (hpath : Char.ofNat 0 ∈ path.toList ↔ Char.ofNat 0 ∈ policyId.toList)
    (hresolve : '/' ∉ policyId.toList → Char.ofNat 0 ∉ policyId.toList →
      fs.resolve path = .ok (place ++ [policyId ++ ".rego"])) :
    Confined fs place policyId ((readFile path >>= f).run fs) ↔
      Char.ofNat 0 ∈ policyId.toList ∨ ¬ Leaves policyId := by
  by_cases hnul : Char.ofNat 0 ∈ policyId.toList
  · have hread : (readFile path).run fs = ⟨.error (.readPolicyFileFailed .nulByte), [], fs⟩ :=
      run_readFile_of_nul (hpath.2 hnul)
    rw [Traced.run_bind_of_error hread]
    refine iff_of_true ⟨?_, fun _ => ⟨rfl, _, rfl⟩⟩ (.inl hnul)
    intro c hc
    cases hc
  · have hcalls : ((readFile path >>= f).run fs).calls = [.read path] :=
      calls_readFile_bind hf (mt hpath.1 hnul)
    rw [or_iff_right hnul, Confined, hcalls]
    constructor
    · rintro ⟨-, hrefused⟩ hleaves
      cases (hrefused hleaves).1
    · intro hleaves
      refine ⟨?_, fun h => absurd h hleaves⟩
      intro c hc
      rw [List.mem_singleton] at hc
      subst hc
      exact hresolve (fun hslash => hleaves (.inl hslash)) hnul

/-! ## The entry points -/

/-- **An entry point is confined exactly when it is `set_policy`**, or the identifier has no
separator of paths and no two dots in a row, or has a NUL, which no file is asked for. -/
theorem confined_iff (hdir : fs.resolve S.policyDirPath = .ok place)
    (hplace : fs.isDir place = true) (entry : EntryPoint α) (policyId : String) :
    Confined fs place policyId ((entry.run S policyId).run fs) ↔
      (∃ policy overwrite, entry = .setPolicy policy overwrite) ∨
        Char.ofNat 0 ∈ policyId.toList ∨
          ('/' ∉ policyId.toList ∧ ¬ ['.', '.'] <:+: policyId.toList) := by
  rw [← not_or]
  have hnul : Char.ofNat 0 ∉ S.policyDirPath.toList := (FileSystem.resolve_eq_ok.1 hdir).1
  cases entry with
  | setPolicy policy overwrite =>
    exact iff_of_true (confined_setPolicy hdir hplace policy overwrite)
      (.inl ⟨policy, overwrite, rfl⟩)
  | getPolicy =>
    rw [or_iff_right (by simp), EntryPoint.run, Store.getPolicy, Traced.bind_assoc]
    refine confined_readFile_iff (fun b fs => rfl) ?_ (resolve_policyFilePath hdir hplace)
    unfold Store.policyFilePath FileSystem.join
    split
    · simp
    · split <;> simp [hnul]
  | evaluate engine =>
    rw [or_iff_right (by simp), EntryPoint.run, Store.evaluate, Traced.bind_assoc]
    refine confined_readFile_iff ?_ (by simp [hnul]) (resolve_evaluate hdir hplace)
    intro b fs
    apply List.eq_nil_iff_forall_not_mem.2
    intro c hc
    refine Traced.Avoids.bind (P := fun _ => True) ?_ (fun _ => Traced.avoids_pure ()) fs c hc trivial
    split
    · exact Traced.avoids_lift _
    · exact Traced.avoids_lift _

/-! ## A policy beside the directory -/

/-- A directory of policies, and a file beside it. -/
def opaTree : FileSystem where
  isDir p := p = [] ∨ p = ["opa"]
  files p := if p = ["secret.rego"] then some [115] else none
  current := []
  isDir_root := rfl
  isDir_dropLast p h := by
    rcases of_decide_eq_true h with rfl | rfl <;> rfl
  isDir_of_file p b h := by
    split at h
    · next hp =>
      rw [hp]
      decide
    · cases h

/-- A store whose parser takes a policy without rules. A text without a package is refused. -/
def opaStore : Store where
  policyDirPath := "/opa"
  isAlphanumeric := Char.isAlphanum
  addPolicy _ policy := if policy = "package policy" then .ok () else .error "expecting `package`"
  sha384 _ := []
  isAlphanumeric_ascii _ _ := rfl

theorem resolve_opaStore : opaTree.resolve opaStore.policyDirPath = .ok ["opa"] := by
  have hpieces : FileSystem.pieces "/opa" = ["", "opa"] := by decide
  refine FileSystem.resolve_eq_ok.2 ⟨by decide, by decide, ?_⟩
  change opaTree.walk [] (FileSystem.pieces "/opa") = _
  rw [hpieces]
  rfl

/-- The default policy is read from the directory. -/
theorem confined_default_cpu : Confined opaTree ["opa"] "default_cpu"
    (((EntryPoint.getPolicy : EntryPoint Unit).run opaStore "default_cpu").run opaTree) := by
  refine (confined_iff resolve_opaStore (by decide) .getPolicy "default_cpu").2 ?_
  have hdot : '.' ∉ "default_cpu".toList := by decide
  exact .inr (.inr ⟨by decide, fun hdots => hdot (hdots.subset (by simp))⟩)

/-- `get_policy` of `../secret` reads the file beside the directory. -/
theorem not_confined_secret : ¬ ∀ (S : Store) (fs : FileSystem) (place : Place) (policyId : String)
    (entry : EntryPoint Unit), fs.resolve S.policyDirPath = .ok place → fs.isDir place = true →
      Confined fs place policyId ((entry.run S policyId).run fs) := by
  intro h
  obtain ⟨-, hrefused⟩ := h opaStore opaTree ["opa"] "../secret" .getPolicy resolve_opaStore
    (by decide)
  have hcalls := (hrefused (.inl (by decide))).1
  rw [EntryPoint.run, Store.getPolicy, Traced.bind_assoc, calls_readFile_bind (fun _ _ => rfl)]
    at hcalls
  · cases hcalls
  · decide

end Trustmee.Policy
