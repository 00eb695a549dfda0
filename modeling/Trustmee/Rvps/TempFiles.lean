import Trustmee.Rvps.InToto

/-!
# The files of a provenance

A file is put where the cleaned path leads, and the path may leave the temporary directory: nothing
compares the two. What is created lies in the directory exactly when each path stays in it, or leads
to where nothing can be created (`confined_iff`).
-/

namespace Trustmee.Rvps

open FileSystem (Blocked Extends Grows IsName absolute clean isName_of_mem_placeOf placeOf stem)

/-! ## The path of a file -/

/-- What stands before the last separator. -/
theorem beforeLast_append {s name : String} (h : '/' ∉ name.toList) :
    beforeLast (s ++ "/" ++ name) '/' = s := by
  have hlist : (s ++ "/" ++ name).toList.reverse =
      name.toList.reverse ++ '/' :: s.toList.reverse := by
    simp
  have hname : ∀ c ∈ name.toList.reverse, (c != '/') = true := by
    intro c hc
    rw [bne_iff_ne]
    rintro rfl
    exact h (List.mem_reverse.1 hc)
  rw [beforeLast, if_pos (by simp), hlist, List.dropWhile_append_of_pos hname,
    List.dropWhile_cons_of_neg (by simp), List.tail_cons, List.reverse_reverse,
    String.ofList_toList]

theorem beforeLast_absolute {p : Place} (hp : ∀ name ∈ p, IsName name) :
    beforeLast (absolute p) '/' = stem p.dropLast := by
  rcases List.eq_nil_or_concat' p with rfl | ⟨d, name, rfl⟩
  · rfl
  · rw [List.forall_mem_append, List.forall_mem_singleton] at hp
    have habsolute : absolute (d ++ [name]) = stem (d ++ [name]) := if_neg (by simp)
    rw [habsolute, FileSystem.stem_concat, beforeLast_append hp.2.2.2.2, List.dropLast_concat]

/-- The place of a file. -/
def placeOfKey (tempdirStr key : String) : Place := placeOf (tempdirStr ++ "/" ++ key)

variable {tempdirStr key content : String}

theorem isName_of_mem_placeOfKey : ∀ name ∈ placeOfKey tempdirStr key, IsName name :=
  isName_of_mem_placeOf

/-- **The file is at its place, and the directory above it.** -/
theorem getFilePath_eq : getFilePath tempdirStr key =
    (absolute (placeOfKey tempdirStr key), stem (placeOfKey tempdirStr key).dropLast) := by
  rw [getFilePath, clean]
  exact congrArg (Prod.mk _) (beforeLast_absolute isName_of_mem_placeOfKey)

/-- Different paths are different places. -/
theorem placeOfKey_ne {key' : String}
    (h : (getFilePath tempdirStr key).1 ≠ (getFilePath tempdirStr key').1) :
    placeOfKey tempdirStr key ≠ placeOfKey tempdirStr key' := by
  intro heq
  rw [getFilePath_eq, getFilePath_eq, heq] at h
  exact h rfl

/-! ## One turn -/

/-- The tree once the directory of a place is made. -/
@[irreducible] def withDirs (fs : FileSystem) (p : Place) : FileSystem :=
  (fs.createDirAll (stem p.dropLast)).2

theorem extends_withDirs (fs : FileSystem) (p : Place) : Extends fs (withDirs fs p) := by
  rw [withDirs]
  exact FileSystem.extends_createDirAll fs _

theorem files_withDirs (fs : FileSystem) (p : Place) : (withDirs fs p).files = fs.files := by
  rw [withDirs]
  exact (FileSystem.grows_createDirAll fs _).2

/-- A turn stops before it creates its file, with an error, or creates the file. -/
inductive Turn (placed : Placed) (key : String) (p : Place) : Outcome Unit × Placed → Prop
  | stops (e : Error)
      (hfails : placed.tree.createDirAll (stem p.dropLast) = (.ok (), withDirs placed.tree p) →
        ∀ created, (withDirs placed.tree p).create (absolute p) ≠ .ok created) :
      Turn placed key p (.err e, { placed with tree := withDirs placed.tree p })
  | creates (h : (withDirs placed.tree p).isDir p = false) (b : Bytes) (result : Outcome Unit)
      (filePaths : List String)
      (hmade : placed.tree.createDirAll (stem p.dropLast) = (.ok (), withDirs placed.tree p))
      (hcreated : (withDirs placed.tree p).create (absolute p) =
        .ok (p, (withDirs placed.tree p).put p [] h))
      (hresult : result = .ok () ∨ ∃ e, result = .err e) :
      Turn placed key p (result,
        ⟨(withDirs placed.tree p).put p b h, filePaths, placed.created ++ [(key, p)]⟩)

theorem turn_placeFile (tempdirStr key content : String) (placed : Placed) :
    Turn placed key (placeOfKey tempdirStr key) (placeFile tempdirStr placed (key, content)) := by
  rw [placeFile, getFilePath_eq]
  dsimp only
  cases hmake : placed.tree.createDirAll (stem (placeOfKey tempdirStr key).dropLast) with
  | mk made tree =>
    have hdirs : tree = withDirs placed.tree (placeOfKey tempdirStr key) := by
      rw [withDirs, hmake]
    subst hdirs
    cases made with
    | error e => exact .stops _ fun hok => by cases hmake.symm.trans hok
    | ok _ =>
      cases hcreate : (withDirs placed.tree (placeOfKey tempdirStr key)).create
          (absolute (placeOfKey tempdirStr key)) with
      | error e =>
        dsimp only
        rw [hcreate]
        exact .stops _ fun _ created hok => by cases hcreate.symm.trans hok
      | ok created =>
        obtain ⟨q, tree'⟩ := created
        obtain ⟨-, -, rfl, hnot, rfl⟩ :=
          (FileSystem.create_absolute_eq_ok isName_of_mem_placeOfKey).1 hcreate
        dsimp only
        rw [hcreate]
        cases hdecode : decodeBase64 content with
        | ok bytes =>
          dsimp only
          rw [FileSystem.writeAll_put]
          exact .creates hnot bytes _ _ hmake hcreate (.inl rfl)
        | err e => exact .creates hnot [] _ _ hmake hcreate (.inr ⟨e, rfl⟩)
        | panic m => exact absurd hdecode (Outcome.returns_okOr _ _ m)

variable {placed placed' : Placed} {fs : FileSystem} {p t : Place} {result : Outcome Unit}

/-- What was placed stays. -/
structure Later (placed placed' : Placed) : Prop where
  tree : Extends placed.tree placed'.tree
  created : ∀ file ∈ placed.created, file ∈ placed'.created

theorem Later.refl (placed : Placed) : Later placed placed := ⟨.refl _, fun _ h => h⟩

theorem Later.trans {placed'' : Placed} (h : Later placed placed') (h' : Later placed' placed'') :
    Later placed placed'' :=
  ⟨h.tree.trans h'.tree, fun file hfile => h'.created file (h.created file hfile)⟩

theorem Turn.later (h : Turn placed key p (result, placed')) : Later placed placed' := by
  have hdirs := extends_withDirs placed.tree p
  cases h with
  | stops e _ => exact ⟨hdirs, fun _ h => h⟩
  | creates h b _ filePaths _ _ _ =>
    exact ⟨hdirs.trans (FileSystem.extends_put h), fun _ h => List.mem_append_left _ h⟩

/-- A turn returns, and it creates its file when it succeeds. -/
theorem Turn.result_cases (h : Turn placed key p (result, placed')) :
    result = .ok () ∧ (key, p) ∈ placed'.created ∨ ∃ e, result = .err e := by
  cases h with
  | stops e _ => exact .inr ⟨e, rfl⟩
  | creates h b _ filePaths _ _ hresult => exact hresult.imp_left fun h => ⟨h, by simp⟩

/-- The files that were created are at the places of their keys, and no other file changed. -/
structure Recorded (tempdirStr : String) (fs : FileSystem) (placed : Placed) : Prop where
  places : ∀ key q, (key, q) ∈ placed.created →
    q = placeOfKey tempdirStr key ∧ (placed.tree.files q).isSome = true
  changed : ∀ q, placed.tree.files q ≠ fs.files q → ∃ key, (key, q) ∈ placed.created

theorem Turn.recorded (h : Turn placed key (placeOfKey tempdirStr key) (result, placed'))
    (hplaced : Recorded tempdirStr fs placed) : Recorded tempdirStr fs placed' := by
  have hlater := h.later
  have hfiles := congrFun (files_withDirs placed.tree (placeOfKey tempdirStr key))
  cases h with
  | stops e _ =>
    refine ⟨fun key q hmem => ?_, fun q hq => hplaced.changed q fun h => hq ((hfiles q).trans h)⟩
    obtain ⟨hq, hfile⟩ := hplaced.places key q hmem
    exact ⟨hq, hlater.tree.files q hfile⟩
  | creates h b _ filePaths _ _ _ =>
    have hput : ((withDirs placed.tree (placeOfKey tempdirStr key)).put _ b h).files =
      (withDirs placed.tree (placeOfKey tempdirStr key)).files.insert _ b := FileSystem.files_put
    refine ⟨fun key' q hmem => ?_, fun q hq => ?_⟩
    · rcases List.mem_append.1 hmem with hmem | hmem
      · obtain ⟨hq, hfile⟩ := hplaced.places key' q hmem
        exact ⟨hq, hlater.tree.files q hfile⟩
      · cases List.mem_singleton.1 hmem
        refine ⟨rfl, ?_⟩
        rw [hput, Table.insert_self]
        rfl
    · by_cases heq : q = placeOfKey tempdirStr key
      · exact ⟨key, List.mem_append_right _ (by simp [heq])⟩
      · have hkept := ((congrFun hput q).trans (Table.insert_of_ne _ _ heq)).trans (hfiles q)
        obtain ⟨key', hmem⟩ := hplaced.changed q fun h => hq (hkept.trans h)
        exact ⟨key', List.mem_append_left _ hmem⟩

/-- Everything new is below a place. -/
structure Inside (t : Place) (fs : FileSystem) (placed : Placed) : Prop where
  dirs : ∀ q, placed.tree.isDir q = true → fs.isDir q = true ∨ t <+: q
  created : ∀ key q, (key, q) ∈ placed.created → t <+: q

/-- **A turn stays below a directory** when its place is there, or nothing can be created at it. -/
theorem Turn.inside (h : Turn placed key p (result, placed')) (hp : ∀ name ∈ p, IsName name)
    (ht : placed.tree.isDir t = true) (hplaced : Inside t fs placed)
    (hturn : t <+: p ∨ placed.tree.Blocked p) : Inside t fs placed' := by
  have hdirs : ∀ q, (withDirs placed.tree p).isDir q = true → fs.isDir q = true ∨ t <+: q := by
    intro q hq
    rcases hturn with hinside | hblocked
    · have hnames : ∀ name ∈ p.dropLast, IsName name := fun name hname =>
        hp name ((List.dropLast_sublist p).subset hname)
      rw [withDirs] at hq
      rcases FileSystem.isDir_createDirAll hnames hq with hq | hbefore
      · exact hplaced.dirs q hq
      · -- It is on the way to the place, and so is the directory.
        rcases List.prefix_or_prefix_of_prefix (hbefore.trans (List.dropLast_prefix p)) hinside with
          hle | hge
        · exact hplaced.dirs q (FileSystem.isDir_of_isPrefix hle ht)
        · exact .inr hge
    · refine hplaced.dirs q ?_
      rcases hblocked.makes_nothing hp with ⟨e, he⟩ | ⟨hmade, -⟩
      · rwa [withDirs, he] at hq
      · rwa [withDirs, hmade] at hq
  cases h with
  | stops e _ => exact ⟨hdirs, hplaced.created⟩
  | creates h b _ filePaths hmade hcreated _ =>
    refine ⟨hdirs, fun key' q hmem => ?_⟩
    rcases List.mem_append.1 hmem with hmem | hmem
    · exact hplaced.created key' q hmem
    · cases List.mem_singleton.1 hmem
      refine hturn.resolve_right fun hblocked => ?_
      rcases hblocked.makes_nothing hp with ⟨e, he⟩ | ⟨hmade', e, he⟩
      · cases he.symm.trans hmade
      · have hsame : placed.tree = withDirs placed.tree p := by rw [withDirs, hmade']
        rw [hsame] at he
        cases he.symm.trans hcreated

/-- **A turn makes something where it is not blocked.** -/
theorem Turn.makes (h : Turn placed key p (result, placed')) (hp : ∀ name ∈ p, IsName name)
    (hfree : ¬ placed.tree.Blocked p) :
    (∃ r, r <+: p ∧ placed.tree.isDir r = false ∧ placed'.tree.isDir r = true) ∨
      (key, p) ∈ placed'.created := by
  rcases FileSystem.makes_of_not_blocked hp hfree with ⟨r, hr, hmissing, hmade⟩ | ⟨hmade, hnot, hok⟩
  · rw [← withDirs] at hmade
    refine .inl ⟨r, hr, hmissing, ?_⟩
    cases h with
    | stops e _ => exact hmade
    | creates h b _ filePaths _ _ _ => exact hmade
  · have hsame : placed.tree = withDirs placed.tree p := by rw [withDirs, hmade]
    cases h with
    | stops e hfails =>
      rw [← hsame] at hfails
      exact absurd hok (hfails hmade _)
    | creates h b _ filePaths _ _ _ => exact .inr (by simp)

/-- A turn fails where nothing can be created. -/
theorem Turn.exists_err (h : Turn placed key p (result, placed')) (hp : ∀ name ∈ p, IsName name)
    (hblocked : placed.tree.Blocked p) : ∃ e, result = .err e := by
  cases h with
  | stops e _ => exact ⟨e, rfl⟩
  | creates h b _ filePaths hmade hcreated _ =>
    rcases hblocked.makes_nothing hp with ⟨e, he⟩ | ⟨hmade', e, he⟩
    · cases he.symm.trans hmade
    · have hsame : placed.tree = withDirs placed.tree p := by rw [withDirs, hmade']
      rw [hsame] at he
      cases he.symm.trans hcreated

/-! ## The loop -/

variable {files : List (String × String)}

/-- What every turn keeps, the loop keeps. -/
theorem placeFiles_invariant {P : Placed → Prop} (h : P placed)
    (hturn : ∀ file ∈ files, ∀ a result b, P a →
      Turn a file.1 (placeOfKey tempdirStr file.1) (result, b) → P b) :
    P (placeFiles tempdirStr placed files).2 := by
  induction files generalizing placed with
  | nil => exact h
  | cons file files ih =>
    rw [List.forall_mem_cons] at hturn
    have hfirst := turn_placeFile tempdirStr file.1 file.2 placed
    rw [placeFiles]
    cases hfile : placeFile tempdirStr placed file with
    | mk result placed' =>
      rw [hfile] at hfirst
      have hnext := hturn.1 placed result placed' h hfirst
      cases result with
      | ok _ => exact ih hnext hturn.2
      | err e => exact hnext
      | panic m => exact hnext

theorem later_placeFiles : Later placed (placeFiles tempdirStr placed files).2 :=
  placeFiles_invariant (.refl placed) fun _ _ _ _ _ h hturn => h.trans hturn.later

/-- The loop creates all files, or fails. -/
theorem placeFiles_cases (tempdirStr : String) (placed : Placed) (files : List (String × String)) :
    (placeFiles tempdirStr placed files).1 = .ok () ∧ (∀ file ∈ files,
        (file.1, placeOfKey tempdirStr file.1) ∈ (placeFiles tempdirStr placed files).2.created) ∨
      ∃ e, (placeFiles tempdirStr placed files).1 = .err e := by
  induction files generalizing placed with
  | nil => exact .inl ⟨rfl, by simp⟩
  | cons file files ih =>
    have hturn := turn_placeFile tempdirStr file.1 file.2 placed
    rw [placeFiles]
    cases hfile : placeFile tempdirStr placed file with
    | mk result placed' =>
      rw [hfile] at hturn
      rcases hturn.result_cases with ⟨rfl, hmem⟩ | ⟨e, rfl⟩
      · refine (ih placed').imp_left fun ⟨hok, hall⟩ => ⟨hok, ?_⟩
        exact List.forall_mem_cons.2 ⟨later_placeFiles.created _ hmem, hall⟩
      · exact .inr ⟨e, rfl⟩

/-- **The loop fails where nothing can be created at the place of a file.** -/
theorem exists_err_of_blocked (tempdirStr : String) (placed : Placed)
    (h : ∃ file ∈ files, placed.tree.Blocked (placeOfKey tempdirStr file.1)) :
    ∃ e, (placeFiles tempdirStr placed files).1 = .err e := by
  induction files generalizing placed with
  | nil =>
    obtain ⟨file, hfile, -⟩ := h
    cases hfile
  | cons file files ih =>
    have hturn := turn_placeFile tempdirStr file.1 file.2 placed
    rw [placeFiles]
    cases hfile : placeFile tempdirStr placed file with
    | mk result placed' =>
      rw [hfile] at hturn
      rcases hturn.result_cases with ⟨rfl, -⟩ | ⟨e, rfl⟩
      · obtain ⟨file', hmem, hblocked⟩ := h
        rcases List.mem_cons.1 hmem with rfl | hmem
        · obtain ⟨e, he⟩ := hturn.exists_err isName_of_mem_placeOfKey hblocked
          cases he
        · exact ih placed' ⟨file', hmem, hblocked.mono hturn.later.tree⟩
      · exact ⟨e, rfl⟩

theorem recorded_placeFiles (files : List (String × String)) (h : Recorded tempdirStr fs placed) :
    Recorded tempdirStr fs (placeFiles tempdirStr placed files).2 :=
  placeFiles_invariant h fun _ _ _ _ _ h hturn => hturn.recorded h

/-- **The loop stays below a directory** when each file does, or is at a place where nothing can be
created. -/
theorem inside_placeFiles (ht : placed.tree.isDir t = true) (h : Inside t fs placed)
    (hfiles : ∀ file ∈ files, t <+: placeOfKey tempdirStr file.1 ∨
      placed.tree.Blocked (placeOfKey tempdirStr file.1)) :
    Inside t fs (placeFiles tempdirStr placed files).2 := by
  have hinvariant : Later placed (placeFiles tempdirStr placed files).2 ∧
      Inside t fs (placeFiles tempdirStr placed files).2 := by
    refine placeFiles_invariant (P := fun a => Later placed a ∧ Inside t fs a) ⟨.refl placed, h⟩ ?_
    rintro file hfile a result b ⟨hlater, ha⟩ hturn
    refine ⟨hlater.trans hturn.later, hturn.inside isName_of_mem_placeOfKey
      (hlater.tree.isDir t ht) ha ?_⟩
    exact (hfiles file hfile).imp_right fun hblocked => hblocked.mono hlater.tree
  exact hinvariant.2

/-! ## The call -/

/-- What the documentation says of `tempdir`: the path is absolute and leads to a new directory, and
nothing else changes. -/
structure MadeTempDir (fs : FileSystem) (path : String) (tree : FileSystem) : Prop where
  isAbsolute : path.toList.head? = some '/'
  resolves : tree.resolve path = .ok (placeOf path)
  isNew : fs.hasEntry (placeOf path) = false
  isDir_iff : ∀ q, tree.isDir q = true ↔ fs.isDir q = true ∨ q = placeOf path
  files : tree.files = fs.files
  current : tree.current = fs.current

namespace InTotoExtractor

/-- `tempdir` makes temporary directories. -/
def MakesTempDirs (E : InTotoExtractor) : Prop :=
  ∀ fs path tree, E.tempdir fs = .ok (path, tree) → MadeTempDir fs path tree

/-- The directories and files that a call creates are in its temporary directory, each key has a
file of its own unless another one has the same cleaned path, and a path that leaves the directory
makes the call fail. -/
structure StaysInside (fs : FileSystem) (tempdirStr : String) (files : Table String String)
    (run : Outcome (List ReferenceValue) × Placed) : Prop where
  dirs : ∀ q, run.2.tree.isDir q = true → fs.isDir q = false → placeOf tempdirStr <+: q
  created : ∀ key q, (key, q) ∈ run.2.created → placeOf tempdirStr <+: q
  changed : ∀ q, run.2.tree.files q ≠ fs.files q → ∃ key, (key, q) ∈ run.2.created
  distinct : ∀ key q key' q', (key, q) ∈ run.2.created → (key', q') ∈ run.2.created →
    (getFilePath tempdirStr key).1 ≠ (getFilePath tempdirStr key').1 → q ≠ q'
  stored : ∀ rvs, run.1 = .ok rvs → ∀ key content, files key = some content →
    ∃ q, (key, q) ∈ run.2.created ∧ (run.2.tree.files q).isSome = true
  leaving : (∃ key content, files key = some content ∧
    ¬ placeOf tempdirStr <+: placeOfKey tempdirStr key) → ∃ e, run.1 = .err e

/-- A call stays inside in every order of the files. -/
def AlwaysInside (E : InTotoExtractor) (fs : FileSystem) (provenance tempdirStr : String)
    (files : Table String String) : Prop :=
  ∀ iteration, StaysInside fs tempdirStr files (E.verifyAndExtract iteration fs provenance)

variable {E : InTotoExtractor} {tree : FileSystem} {provenance : String} {payload : Provenance}

/-- A call is its loop, and what follows when the loop succeeds. -/
theorem verifyAndExtract_eq (iteration : Table.Iteration String String)
    (hpayload : E.readProvenance provenance = .ok payload)
    (htempdir : E.tempdir fs = .ok (tempdirStr, tree)) :
    let loop := placeFiles tempdirStr ⟨tree, [], []⟩ (iteration.order payload.files)
    (E.verifyAndExtract iteration fs provenance).2 = loop.2 ∧
      ((∃ e, loop.1 = .err e ∧ (E.verifyAndExtract iteration fs provenance).1 = .err e) ∨
        loop.1 = .ok () ∧ ∀ file ∈ iteration.order payload.files,
          (file.1, placeOfKey tempdirStr file.1) ∈ loop.2.created) := by
  dsimp only
  have hcases := placeFiles_cases tempdirStr ⟨tree, [], []⟩ (iteration.order payload.files)
  rw [verifyAndExtract, hpayload]
  dsimp only
  rw [htempdir]
  dsimp only
  cases hloop : placeFiles tempdirStr ⟨tree, [], []⟩ (iteration.order payload.files) with
  | mk result placed =>
    rw [hloop] at hcases
    rcases hcases with ⟨hok, hall⟩ | ⟨e, he⟩
    · dsimp only at hok
      subst hok
      exact ⟨rfl, .inr ⟨rfl, hall⟩⟩
    · dsimp only at he
      subst he
      exact ⟨rfl, .inl ⟨e, rfl, rfl⟩⟩

/-- Nothing is placed yet. -/
theorem recorded_start (tempdirStr : String) (h : tree.files = fs.files) :
    Recorded tempdirStr fs ⟨tree, [], []⟩ where
  places key q hmem := by cases hmem
  changed q hq := absurd (congrFun h q) hq

theorem inside_start (h : MadeTempDir fs tempdirStr tree) :
    Inside (placeOf tempdirStr) fs ⟨tree, [], []⟩ where
  dirs q hq := by
    rcases (h.isDir_iff q).1 hq with hold | rfl
    · exact .inl hold
    · exact .inr (List.prefix_refl _)
  created key q hmem := by cases hmem

/-- A file that leaves the directory is the first in some order, and something is made outside. -/
theorem not_alwaysInside_of_leaving {l : List (String × String)}
    (hfiles : Table.Enumerates l payload.files) (hmade : MadeTempDir fs tempdirStr tree)
    (hpayload : E.readProvenance provenance = .ok payload)
    (htempdir : E.tempdir fs = .ok (tempdirStr, tree)) (hkey : payload.files key = some content)
    (hleaves : ¬ placeOf tempdirStr <+: placeOfKey tempdirStr key)
    (hfree : ¬ tree.Blocked (placeOfKey tempdirStr key)) :
    ¬ E.AlwaysInside fs provenance tempdirStr payload.files := by
  intro h
  obtain ⟨iteration, rest, horder⟩ := Table.exists_iteration_first hfiles hkey
  obtain ⟨hdirs, hcreated, -, -, -, -⟩ := h iteration
  have hrun := (verifyAndExtract_eq iteration hpayload htempdir).1
  rw [horder, placeFiles] at hrun
  have hturn := turn_placeFile tempdirStr key content ⟨tree, [], []⟩
  cases hfile : placeFile tempdirStr ⟨tree, [], []⟩ (key, content) with
  | mk result placed =>
    rw [hfile] at hturn hrun
    have hlater : Later placed (E.verifyAndExtract iteration fs provenance).2 := by
      rw [hrun]
      cases result with
      | ok _ => exact later_placeFiles
      | err e => exact .refl placed
      | panic m => exact .refl placed
    rcases hturn.makes isName_of_mem_placeOfKey hfree with ⟨r, hr, hmissing, hdir⟩ | hmem
    · have hnew : fs.isDir r = false := by
        rw [Bool.eq_false_iff]
        intro hold
        rw [(hmade.isDir_iff r).2 (.inl hold)] at hmissing
        cases hmissing
      exact hleaves ((hdirs r (hlater.tree.isDir r hdir) hnew).trans hr)
    · exact hleaves (hcreated _ _ (hlater.created _ hmem))

/-- **Everything that a provenance creates is in the temporary directory, in every order of its
files, exactly when each path stays there or leads to where nothing can be created.** -/
theorem staysInside_iff (hE : E.MakesTempDirs) {l : List (String × String)}
    (hpayload : E.readProvenance provenance = .ok payload)
    (hfiles : Table.Enumerates l payload.files)
    (htempdir : E.tempdir fs = .ok (tempdirStr, tree)) :
    E.AlwaysInside fs provenance tempdirStr payload.files ↔
      ∀ key content, payload.files key = some content →
        placeOf tempdirStr <+: placeOfKey tempdirStr key ∨
          tree.Blocked (placeOfKey tempdirStr key) := by
  have hmade := hE fs tempdirStr tree htempdir
  constructor
  · intro h key content hkey
    by_contra hnot
    rw [not_or] at hnot
    exact not_alwaysInside_of_leaving hfiles hmade hpayload htempdir hkey hnot.1 hnot.2 h
  · intro h iteration
    have henumerates := iteration.enumerates l payload.files hfiles
    obtain ⟨hplaced, hresult⟩ := verifyAndExtract_eq iteration hpayload htempdir
    have hrecorded := recorded_placeFiles (iteration.order payload.files)
      (recorded_start tempdirStr hmade.files)
    have hinside := inside_placeFiles ((hmade.isDir_iff _).2 (.inr rfl)) (inside_start hmade)
      fun file hfile => h file.1 file.2 ((henumerates.mem_iff _ _).1 hfile)
    rw [← hplaced] at hrecorded hinside
    refine ⟨fun q hq hnot => ?_, hinside.created, hrecorded.changed, ?_, ?_, ?_⟩
    · refine (hinside.dirs q hq).resolve_left fun hdir => ?_
      cases hnot.symm.trans hdir
    · intro key q key' q' hmem hmem' hne
      rw [(hrecorded.places key q hmem).1, (hrecorded.places key' q' hmem').1]
      exact placeOfKey_ne hne
    · intro rvs hok key content hkey
      rcases hresult with ⟨e, -, he⟩ | ⟨-, hall⟩
      · cases he.symm.trans hok
      · have hmem := hall (key, content) ((henumerates.mem_iff _ _).2 hkey)
        rw [← hplaced] at hmem
        exact ⟨_, hmem, (hrecorded.places _ _ hmem).2⟩
    · rintro ⟨key, content, hkey, hleaves⟩
      have hblocked := (h key content hkey).resolve_left hleaves
      obtain ⟨e, he⟩ := exists_err_of_blocked tempdirStr ⟨tree, [], []⟩
        ⟨_, (henumerates.mem_iff _ _).2 hkey, hblocked⟩
      rcases hresult with ⟨e, -, he⟩ | ⟨hok, -⟩
      · exact ⟨e, he⟩
      · cases he.symm.trans hok

/-! ## A path that leaves the directory -/

/-- A tree with a directory for temporary ones. -/
def tmpTree : FileSystem where
  isDir p := p = [] ∨ p = ["tmp"]
  files := .empty
  current := []
  isDir_root := rfl
  isDir_dropLast p hp := by
    simp only [decide_eq_true_eq] at hp ⊢
    rcases hp with rfl | rfl
    · exact .inl rfl
    · exact .inl rfl
  isDir_of_file p b h := by cases h

/-- A `tempdir` that always takes the same name. -/
def makeTmp (fs : FileSystem) : Except String (String × FileSystem) :=
  if h : fs.isDir ["tmp"] = true ∧ fs.files ["tmp", ".tmpA1b2C3"] = none then
    if fs.isDir ["tmp", ".tmpA1b2C3"] then .error "File exists (os error 17)"
    else .ok ("/tmp/.tmpA1b2C3", fs.makeDir ["tmp", ".tmpA1b2C3"] h.1 h.2)
  else .error "No such file or directory (os error 2)"

/-- The text of a provenance with one file. -/
def oneFile (key : String) : String :=
  "\x7b\"files\":\x7b\"" ++ key ++ "\":\"YQ==\"\x7d,\"line_normalization\":true\x7d"

def oneFilePayload (key : String) : Provenance :=
  ⟨"0.9", true, Table.empty.insert key "YQ=="⟩

/-- An extractor that reads the provenance. -/
def sampleInToto (key : String) : InTotoExtractor where
  serde := { fromStr := fun deserialize s =>
    if s = oneFile key then deserialize (.object
      [("files", .object [(key, .string "YQ==")]), ("line_normalization", .bool true)])
    else .error "expected value at line 1 column 1" }
  tempdir := makeTmp
  parseDateTime _ := .error "input contains invalid characters"
  verify _ _ _ _ _ _ := .error "Error:: failed to load layout"

theorem makesTempDirs_sampleInToto (key : String) : (sampleInToto key).MakesTempDirs := by
  intro fs path tree (h : makeTmp fs = .ok (path, tree))
  unfold makeTmp at h
  split at h
  · next hfree =>
    split at h
    · cases h
    · next hnot =>
      cases h
      have hplace : placeOf "/tmp/.tmpA1b2C3" = ["tmp", ".tmpA1b2C3"] := by decide
      refine ⟨by decide, ?_, ?_, fun q => ?_, rfl, rfl⟩
      · have hnames : ∀ name ∈ ["tmp", ".tmpA1b2C3"], IsName name := by decide
        have hnul : Char.ofNat 0 ∉ (absolute ["tmp", ".tmpA1b2C3"]).toList := by decide
        have hresolve : (fs.makeDir ["tmp", ".tmpA1b2C3"] hfree.1 hfree.2).resolve
          (absolute ["tmp", ".tmpA1b2C3"]) = _ := FileSystem.resolve_absolute hnames
        rw [if_neg hnul, (FileSystem.walk_root_eq_ok hnames).2 ⟨?_, rfl⟩] at hresolve
        · rw [hplace]
          exact hresolve
        · simp [FileSystem.makeDir, hfree.1]
      · rw [hplace, FileSystem.hasEntry, hfree.2, Bool.eq_false_iff.2 hnot]
        rfl
      · rw [hplace]
        simp [FileSystem.makeDir, or_comm]
  · cases h

theorem readProvenance_sampleInToto (key : String) :
    (sampleInToto key).readProvenance (oneFile key) = .ok (oneFilePayload key) := by
  rw [readProvenance]
  have hread : (sampleInToto key).serde.fromStr Provenance.fromValue (oneFile key) =
    .ok (oneFilePayload key) := if_pos rfl
  rw [hread]
  rfl

theorem enumerates_oneFilePayload (key : String) :
    Table.Enumerates [(key, "YQ==")] (oneFilePayload key).files :=
  Table.Enumerates.nil.cons rfl "YQ=="

/-- The directory that `tempdir` makes. -/
theorem exists_tempdir : ∃ tree, makeTmp tmpTree = .ok ("/tmp/.tmpA1b2C3", tree) :=
  ⟨_, rfl⟩

/-- A file whose path stays in the directory is created there. -/
theorem alwaysInside_sampleInToto : (sampleInToto "keys/a.pub").AlwaysInside tmpTree
    (oneFile "keys/a.pub") "/tmp/.tmpA1b2C3" (oneFilePayload "keys/a.pub").files := by
  refine (staysInside_iff (makesTempDirs_sampleInToto _) (readProvenance_sampleInToto _)
    (enumerates_oneFilePayload _) rfl).2 fun key content hkey => .inl ?_
  obtain ⟨rfl, -⟩ | ⟨-, hnone⟩ := Table.insert_eq_some hkey
  · decide
  · cases hnone

/-- **A path with two dots creates its file beside the directory.** -/
theorem not_alwaysInside : ¬ ∀ (E : InTotoExtractor), E.MakesTempDirs →
    ∀ (fs : FileSystem) (provenance : String) (payload : Provenance) (l : List (String × String))
      (tempdirStr : String) (tree : FileSystem), E.readProvenance provenance = .ok payload →
    Table.Enumerates l payload.files → E.tempdir fs = .ok (tempdirStr, tree) →
      E.AlwaysInside fs provenance tempdirStr payload.files := by
  intro h
  obtain ⟨tree, htree⟩ := exists_tempdir
  have hdirs : tree.isDir = fun q => decide (q = ["tmp", ".tmpA1b2C3"]) || tmpTree.isDir q := by
    cases htree
    rfl
  have hpayload := readProvenance_sampleInToto "../x"
  have hfiles := enumerates_oneFilePayload "../x"
  have hmade := makesTempDirs_sampleInToto "../x" tmpTree _ tree htree
  have hplace : placeOfKey "/tmp/.tmpA1b2C3" "../x" = ["tmp", "x"] := by decide
  have hkey : (oneFilePayload "../x").files "../x" = some "YQ==" := rfl
  have hleaves : ¬ placeOf "/tmp/.tmpA1b2C3" <+: placeOfKey "/tmp/.tmpA1b2C3" "../x" := by decide
  refine not_alwaysInside_of_leaving hfiles hmade hpayload htree hkey hleaves ?_
    (h (sampleInToto "../x") (makesTempDirs_sampleInToto _) tmpTree _ _ _ _ tree hpayload hfiles
      htree)
  rw [hplace]
  rintro (hnul | hobstructed | ⟨-, hdir | hnul⟩)
  · exact absurd hnul (by decide)
  · refine FileSystem.not_obstructed_of_isDir ?_ hobstructed
    rw [hdirs]
    rfl
  · rw [hdirs] at hdir
    cases hdir
  · exact absurd hnul (by decide)

end InTotoExtractor

end Trustmee.Rvps
