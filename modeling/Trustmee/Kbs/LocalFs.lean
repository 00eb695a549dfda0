import Trustmee.Foundations.Directories
import Trustmee.Foundations.Transition
import Trustmee.Kbs.ResourceDesc

/-!
# Secret resources in files

`LocalFs` keeps a secret resource in a file below the directory of the repository. A read makes the
path of the file in one piece and a write piece by piece; for a description that `try_from` builds
both are the same path, three names below the directory, and another one for each description. So a
read finds what the last successful write to the description wrote (`localFs_spec`).
-/

namespace Trustmee.Kbs

open FileSystem (join Grows IsName asPrefix)
open ResourceDesc (Accepted IsSegment Parsed parsed_iff tryFrom tryFrom_eq_ok)
open Transition

/-! ## The storage -/

/-- The result of an input or output operation. -/
def ofIo {α : Type} (x : Except IoError α) : Outcome α := .ofExcept (x.mapError IoError.display)

@[simp] theorem ofIo_eq_ok {α : Type} {x : Except IoError α} {a : α} :
    ofIo x = .ok a ↔ x = .ok a := by
  cases x <;> simp [ofIo, Except.mapError]

theorem ofIo_error_context_ne_ok {α : Type} {e : IoError} {msg : String} {a : α} :
    (ofIo (.error e)).context msg ≠ .ok a := by
  rw [ne_eq, Outcome.context_eq_ok, ofIo_eq_ok]
  exact fun h => by cases h

/-- `LocalFs`. -/
structure LocalFs where
  repoDirPath : String

namespace LocalFs

variable (repository : LocalFs)

/-- The path of a read. -/
def readPath (resourceDesc : ResourceDesc) : String :=
  join repository.repoDirPath (resourceDesc.repositoryName ++ "/" ++ resourceDesc.resourceType ++
    "/" ++ resourceDesc.resourceTag)

/-- The path of the directory that a write makes sure of. -/
def parentPath (resourceDesc : ResourceDesc) : String :=
  join (join repository.repoDirPath resourceDesc.repositoryName) resourceDesc.resourceType

/-- The path of a write. -/
def writePath (resourceDesc : ResourceDesc) : String :=
  join (repository.parentPath resourceDesc) resourceDesc.resourceTag

/-- `read_secret_resource`. -/
def readSecretResource (resourceDesc : ResourceDesc) (fs : FileSystem) :
    Outcome Bytes × FileSystem :=
  ((ofIo (fs.read (repository.readPath resourceDesc))).context "read resource from local fs", fs)

/-- The directory of a resource. -/
def ensureParent (resourceDesc : ResourceDesc) (fs : FileSystem) : Outcome Unit × FileSystem :=
  if fs.pathExists (repository.parentPath resourceDesc) then (.ok (), fs)
  else
    let (created, fs) := fs.createDirAll (repository.parentPath resourceDesc)
    ((ofIo created).context "create new resource path", fs)

/-- `write_secret_resource`. -/
def writeSecretResource (resourceDesc : ResourceDesc) (data : Bytes) (fs : FileSystem) :
    Outcome Unit × FileSystem :=
  match repository.ensureParent resourceDesc fs with
  | (.ok (), fs) =>
    match fs.write (repository.writePath resourceDesc) data with
    | .ok fs => (.ok (), fs)
    | .error e => ((ofIo (.error e)).context "write local fs", fs)
  | (created, fs) => (created, fs)

/-- The storage of a `ResourceStorage`. -/
def backend : StorageBackend FileSystem where
  readSecretResource := repository.readSecretResource
  writeSecretResource := repository.writeSecretResource

/-! ## The paths -/

/-- What leads from the repository to a resource. -/
def names (desc : ResourceDesc) : List String :=
  [desc.repositoryName, desc.resourceType, desc.resourceTag]

variable {repository} {desc desc' : ResourceDesc} {fs fs' : FileSystem} {q : Place} {data : Bytes}

theorem names_injective (h : names desc = names desc') : desc = desc' := by
  obtain ⟨repo, type, tag⟩ := desc
  obtain ⟨repo', type', tag'⟩ := desc'
  cases h
  rfl

theorem isName_of_mem_names (h : Accepted desc) {name : String} (hname : name ∈ names desc) :
    IsName name := by
  simp only [names, List.mem_cons, List.not_mem_nil, or_false] at hname
  rcases hname with rfl | rfl | rfl
  · exact h.repositoryName.isName
  · exact h.resourceType.isName
  · exact h.resourceTag.isName

theorem head_of_segment {s : String} (h : IsSegment s) : s.toList.head? ≠ some '/' :=
  fun hhead => h.slash_notMem (List.mem_of_head? hhead)

theorem last_of_segment {s : String} (h : IsSegment s) : s.toList.getLast? ≠ some '/' :=
  fun hlast => h.slash_notMem (List.mem_of_getLast? hlast)

theorem head_of_display (h : Accepted desc) : desc.display.toList.head? ≠ some '/' := by
  have hne : desc.repositoryName.toList ≠ [] := by simpa using h.repositoryName.1
  obtain ⟨c, l, hl⟩ := List.exists_cons_of_ne_nil hne
  have hhead := head_of_segment h.repositoryName
  rw [hl] at hhead
  simpa [ResourceDesc.display, hl] using hhead

/-- **Both make one path.** -/
theorem writePath_eq_readPath (h : Accepted desc) :
    repository.writePath desc = repository.readPath desc := by
  have hrepo := h.repositoryName
  have hlast : (desc.repositoryName ++ "/" ++ desc.resourceType).toList.getLast? ≠ some '/' := by
    have hne : desc.resourceType.toList ≠ [] := by simpa using h.resourceType.1
    rw [String.toList_append, List.getLast?_append_of_ne_nil _ hne]
    exact last_of_segment h.resourceType
  have hhead : (desc.repositoryName ++ "/" ++ desc.resourceType).toList.head? ≠ some '/' := by
    have hne : desc.repositoryName.toList ≠ [] := by simpa using hrepo.1
    obtain ⟨c, l, hl⟩ := List.exists_cons_of_ne_nil hne
    have hfirst := head_of_segment hrepo
    rw [hl] at hfirst
    simpa [hl] using hfirst
  rw [writePath, parentPath, FileSystem.join_join (head_of_segment hrepo) hrepo.1
    (last_of_segment hrepo) (head_of_segment h.resourceType),
    FileSystem.join_join hhead (by simp) hlast (head_of_segment h.resourceTag), readPath]

theorem readPath_eq (h : Accepted desc) :
    repository.readPath desc = asPrefix repository.repoDirPath ++ desc.display :=
  FileSystem.join_eq (head_of_display h)

/-- Each description has a path of its own. -/
theorem readPath_inj (h : Accepted desc) (h' : Accepted desc') :
    repository.readPath desc = repository.readPath desc' ↔ desc = desc' := by
  rw [readPath_eq h, readPath_eq h', String.append_right_inj]
  constructor
  · exact ResourceDesc.display_inj h h'
  · rintro rfl
    rfl

/-- **The path leads below the repository.** -/
theorem resolve_readPath (h : Accepted desc)
    (hq : fs.resolve (repository.readPath desc) = .ok q) :
    ∃ place, fs.base repository.repoDirPath = .ok place ∧ q = place ++ names desc := by
  have hdisplay : desc.display ≠ "" := by simp [ResourceDesc.display]
  obtain ⟨-, place, hplace, hwalk⟩ :=
    (FileSystem.resolve_join_eq_ok (head_of_display h) hdisplay).1 hq
  have hpieces : FileSystem.pieces desc.display = names desc :=
    ResourceDesc.split_display h.repositoryName.slash_notMem h.resourceType.slash_notMem
      h.resourceTag.slash_notMem
  rw [hpieces] at hwalk
  exact ⟨place, hplace, FileSystem.eq_append_of_walk (fun _ => isName_of_mem_names h) hwalk⟩

/-! ## Writes -/

theorem grows_ensureParent (repository : LocalFs) (desc : ResourceDesc) (fs : FileSystem) :
    Grows fs (repository.ensureParent desc fs).2 ∧
      (repository.ensureParent desc fs).2.files = fs.files := by
  rw [ensureParent]
  split
  · exact ⟨.refl _, rfl⟩
  · exact FileSystem.grows_createDirAll _ _

/-- The resource is in its file. -/
structure Stored (repository : LocalFs) (desc : ResourceDesc) (data : Bytes) (place : Place)
    (fs : FileSystem) : Prop where
  base : fs.base repository.repoDirPath = .ok place
  resolve : fs.resolve (repository.readPath desc) = .ok (place ++ names desc)
  files : fs.files (place ++ names desc) = some data

/-- **What a write does**: it stores the resource and leaves the other files alone, or it fails and
changes no file. -/
theorem writeSecretResource_spec (h : Accepted desc) {result : Outcome Unit}
    (hwrite : repository.writeSecretResource desc data fs = (result, fs')) :
    Grows fs fs' ∧ (result ≠ .ok () ∧ fs'.files = fs.files ∨ result = .ok () ∧
      ∃ place, Stored repository desc data place fs' ∧
        fs'.files = fs.files.insert (place ++ names desc) data) := by
  obtain ⟨hgrows, hfiles⟩ := grows_ensureParent repository desc fs
  rw [writeSecretResource] at hwrite
  cases hparent : repository.ensureParent desc fs with
  | mk created fs₁ =>
    rw [hparent] at hwrite hgrows hfiles
    cases created with
    | err e =>
      cases hwrite
      exact ⟨hgrows, .inl ⟨by simp, hfiles⟩⟩
    | panic msg =>
      cases hwrite
      exact ⟨hgrows, .inl ⟨by simp, hfiles⟩⟩
    | ok _ =>
      dsimp only at hwrite hgrows hfiles
      rw [writePath_eq_readPath h] at hwrite
      rcases FileSystem.write_cases fs₁ (repository.readPath desc) data with ⟨e, he⟩ |
        ⟨q, hdir, hresolve, hput⟩
      · rw [he] at hwrite
        cases hwrite
        exact ⟨hgrows, .inl ⟨ofIo_error_context_ne_ok, hfiles⟩⟩
      · rw [hput] at hwrite
        cases hwrite
        obtain ⟨place, hplace, rfl⟩ := resolve_readPath h hresolve
        have hgrows' := Grows.put (b := data) hdir
        refine ⟨hgrows.trans hgrows', .inr ⟨rfl, place,
          ⟨hgrows'.base hplace, hgrows'.resolve hresolve, ?_⟩, ?_⟩⟩
        · rw [FileSystem.files_put, Table.insert_self]
        · rw [FileSystem.files_put, hfiles]

theorem readSecretResource_of_stored {place : Place} (h : Stored repository desc data place fs) :
    repository.readSecretResource desc fs = (.ok data, fs) := by
  rw [readSecretResource, (FileSystem.read_eq_ok h.resolve).2 h.files]
  rfl

/-! ## Writes in a row -/

/-- A write, and how it ended. -/
structure WriteCall where
  desc : ResourceDesc
  data : Bytes
  result : Outcome Unit

/-- Writes to the storage, for descriptions that were parsed. -/
def writes (repository : LocalFs) : System FileSystem WriteCall where
  Init _ := True
  Step fs call fs' := Parsed call.desc ∧
    repository.writeSecretResource call.desc call.data fs = (call.result, fs')

variable {place : Place} {calls : List WriteCall} {call : WriteCall}

/-- A write to another description, and a write that fails, leave a resource as it is. -/
theorem Stored.step (h : Stored repository desc data place fs)
    (hstep : (writes repository).Step fs call fs')
    (hother : call.result = .ok () → call.desc ≠ desc) :
    Stored repository desc data place fs' := by
  obtain ⟨hparsed, hwrite⟩ := hstep
  obtain ⟨hgrows, ⟨-, hfiles⟩ | ⟨hok, place', hstored, hfiles⟩⟩ :=
    writeSecretResource_spec (parsed_iff.1 hparsed) hwrite
  · refine ⟨hgrows.base h.base, hgrows.resolve h.resolve, ?_⟩
    rw [hfiles, h.files]
  · refine ⟨hgrows.base h.base, hgrows.resolve h.resolve, ?_⟩
    obtain rfl : place' = place := Except.ok.inj (hstored.base.symm.trans (hgrows.base h.base))
    have hne : place' ++ names desc ≠ place' ++ names call.desc := fun heq =>
      hother hok (names_injective (List.append_cancel_left heq)).symm
    rw [hfiles, Table.insert_of_ne _ _ hne, h.files]

/-- Writes to other descriptions leave a resource as it is, by induction on the run. -/
theorem Stored.run (h : Stored repository desc data place fs)
    (hrun : Run (writes repository) fs calls fs')
    (hother : ∀ call ∈ calls, call.result = .ok () → call.desc ≠ desc) :
    Stored repository desc data place fs' := by
  induction hrun with
  | nil => exact h
  | snoc _ hstep ih =>
    have hbefore := ih fun call hcall => hother call (List.mem_append_left _ hcall)
    exact hbefore.step hstep (hother _ (by simp))

/-- The read after a successful write, and writes to others. -/
theorem read_of_run {before after : List WriteCall}
    (hrun : Run (writes repository) fs (before ++ call :: after) fs')
    (hok : call.result = .ok ())
    (hlast : ∀ later ∈ after, later.result = .ok () → later.desc ≠ call.desc) :
    repository.readSecretResource call.desc fs' = (.ok call.data, fs') := by
  obtain ⟨fs₁, -, hrest⟩ := hrun.split
  obtain ⟨fs₂, ⟨hparsed, hwrite⟩, hafter⟩ := hrest.exists_step
  obtain ⟨-, ⟨hfailed, -⟩ | ⟨-, place, hstored, -⟩⟩ :=
    writeSecretResource_spec (parsed_iff.1 hparsed) hwrite
  · exact absurd hok hfailed
  · exact readSecretResource_of_stored (hstored.run hafter hlast)

/-! ## Descriptions and their files -/

/-- A text is three segments with slashes between them. -/
def IsThreeSegments (s : String) : Prop :=
  ∃ repo type tag, s = repo ++ "/" ++ type ++ "/" ++ tag ∧ IsSegment repo ∧ IsSegment type ∧
    IsSegment tag

/-- A path goes from a directory down along names, in each tree in which it leads anywhere. -/
structure Below (dir path : String) (names : List String) : Prop where
  path_eq : path = asPrefix dir ++ "/".intercalate names
  isName : ∀ name ∈ names, IsName name
  resolve : ∀ fs q, FileSystem.resolve fs path = .ok q →
    ∃ place, fs.base dir = .ok place ∧ q = place ++ names

theorem exists_tryFrom_iff {s : String} :
    (∃ desc, tryFrom s = .ok desc) ↔ IsThreeSegments s := by
  constructor
  · rintro ⟨desc, h⟩
    obtain ⟨haccepted, rfl⟩ := tryFrom_eq_ok.1 h
    exact ⟨_, _, _, rfl, haccepted.repositoryName, haccepted.resourceType, haccepted.resourceTag⟩
  · rintro ⟨repo, type, tag, rfl, hrepo, htype, htag⟩
    exact ⟨⟨repo, type, tag⟩, tryFrom_eq_ok.2 ⟨⟨hrepo, htype, htag⟩, rfl⟩⟩

theorem below_readPath (h : Accepted desc) :
    Below repository.repoDirPath (repository.readPath desc) (names desc) where
  path_eq := by
    rw [readPath_eq h]
    rfl
  isName _ := isName_of_mem_names h
  resolve _ _ := resolve_readPath h

/-- **Descriptions are parsed exactly, and map to files of their own.** -/
theorem localFs_spec (repository : LocalFs) :
    (∀ s, (∃ desc, tryFrom s = .ok desc) ↔ IsThreeSegments s) ∧
    (∀ s desc, tryFrom s = .ok desc → desc.display = s ∧ tryFrom desc.display = .ok desc) ∧
    (∀ desc, Parsed desc → repository.writePath desc = repository.readPath desc ∧
      Below repository.repoDirPath (repository.readPath desc) (names desc)) ∧
    (∀ desc desc', Parsed desc → Parsed desc' →
      (repository.readPath desc = repository.writePath desc' ↔ desc = desc')) ∧
    (∀ fs before call after fs',
      Run (writes repository) fs (before ++ call :: after) fs' → call.result = .ok () →
      (∀ later ∈ after, later.result = .ok () → later.desc ≠ call.desc) →
      repository.readSecretResource call.desc fs' = (.ok call.data, fs')) := by
  refine ⟨fun s => exists_tryFrom_iff, fun s desc h => ?_, fun desc h => ?_,
    fun desc desc' h h' => ?_, fun fs before call after fs' hrun hok hlast => ?_⟩
  · obtain ⟨-, rfl⟩ := tryFrom_eq_ok.1 h
    exact ⟨rfl, h⟩
  · rw [parsed_iff] at h
    exact ⟨writePath_eq_readPath h, below_readPath h⟩
  · rw [parsed_iff] at h h'
    rw [writePath_eq_readPath h', readPath_inj h h']
  · exact read_of_run hrun hok hlast

/-- The directory of the example. -/
def exampleTree : FileSystem where
  isDir p := p = [] ∨ p = ["repository"]
  files := .empty
  current := []
  isDir_root := rfl
  isDir_dropLast p hp := by
    simp only [decide_eq_true_eq] at hp ⊢
    rcases hp with rfl | rfl
    · exact .inl rfl
    · exact .inl rfl
  isDir_of_file p b h := by cases h

/-- A write in a directory without the repository of the resource succeeds. -/
example : (LocalFs.writeSecretResource ⟨"/repository"⟩ ⟨"default", "key", "1"⟩ [7]
    exampleTree).1 = .ok () := by
  rfl

end LocalFs

end Trustmee.Kbs
