import Trustmee.Foundations.Directories

/-!
# Paths that are cleaned

An absolute path can be cleaned without a look at the tree: empty pieces and `.` go, and `..` takes
the name before it away (`clean`). What is left are names from the root, the place that the path
leads to if it leads anywhere (`eq_lexical_of_walk`). Of such a path `create_dir_all` makes the
directories that are missing, and none when it stops at a file (`Obstructed`).
-/

namespace Trustmee.FileSystem

variable {fs fs' : FileSystem} {p q r : Place} {l : List String} {name path : String}

/-! ## Cleaning -/

/-- One piece of a path, without a look at the tree. -/
def step (p : Place) (piece : String) : Place :=
  if piece = "" ∨ piece = "." then p else if piece = ".." then p.dropLast else p ++ [piece]

/-- The pieces of a path. -/
def lexical (p : Place) (l : List String) : Place := l.foldl step p

/-- The place of an absolute path. -/
def placeOf (path : String) : Place := lexical [] (pieces path)

/-- The text of a place, each name behind a slash. -/
def stem (p : Place) : String := String.ofList (p.flatMap fun name => '/' :: name.toList)

/-- The absolute path of a place. -/
def absolute (p : Place) : String := if p = [] then "/" else stem p

/-- `path_clean::clean`, of an absolute path. -/
def clean (path : String) : String := absolute (placeOf path)

/-- A path leads to its place. -/
theorem eq_lexical_of_walk (h : fs.walk p l = .ok q) : q = lexical p l := by
  induction l generalizing p with
  | nil =>
    cases h
    rfl
  | cons piece l ih =>
    obtain ⟨r, hr, hwalk⟩ := walk_cons_eq_ok.1 h
    obtain ⟨-, rfl⟩ := follow_eq_ok.1 hr
    exact ih hwalk

/-- What stands between separators has none. -/
theorem notMem_of_mem_splitOn {α : Type*} [DecidableEq α] {a : α} {l part : List α}
    (h : part ∈ l.splitOn a) : a ∉ part := by
  induction l generalizing part with
  | nil =>
    rw [List.splitOn_nil, List.mem_singleton] at h
    rw [h]
    exact List.not_mem_nil
  | cons x l ih =>
    rw [List.splitOn_cons_eq_if_modifyHead] at h
    split at h
    · rcases List.mem_cons.1 h with rfl | h
      · exact List.not_mem_nil
      · exact ih h
    · next hx =>
      obtain ⟨first, rest, hparts⟩ := List.exists_cons_of_ne_nil (List.splitOn_ne_nil a l)
      rw [hparts] at h ih
      rcases List.mem_cons.1 h with rfl | h
      · rw [List.mem_cons, not_or]
        exact ⟨fun heq => hx (by simp [heq]), ih List.mem_cons_self⟩
      · exact ih (List.mem_cons_of_mem _ h)

theorem slash_notMem_of_mem_pieces (h : name ∈ pieces path) : '/' ∉ name.toList := by
  obtain ⟨part, hpart, rfl⟩ := List.mem_map.1 h
  rw [String.toList_ofList]
  exact notMem_of_mem_splitOn hpart

/-- What is left are names. -/
theorem isName_of_mem_lexical (hp : ∀ name ∈ p, IsName name)
    (hl : ∀ piece ∈ l, '/' ∉ piece.toList) : ∀ name ∈ lexical p l, IsName name := by
  induction l generalizing p with
  | nil => exact hp
  | cons piece l ih =>
    rw [List.forall_mem_cons] at hl
    refine ih (fun name hname => ?_) hl.2
    rw [step] at hname
    split at hname
    · exact hp name hname
    · next hempty =>
      rw [not_or] at hempty
      split at hname
      · exact hp name ((List.dropLast_sublist p).subset hname)
      · next hdots =>
        rcases List.mem_append.1 hname with hname | hname
        · exact hp name hname
        · rw [List.mem_singleton.1 hname]
          exact ⟨hempty.1, hempty.2, hdots, hl.1⟩

theorem isName_of_mem_placeOf : ∀ name ∈ placeOf path, IsName name :=
  isName_of_mem_lexical (by simp) fun _ => slash_notMem_of_mem_pieces

/-! ## The path of a place -/

theorem stem_concat (p : Place) (name : String) : stem (p ++ [name]) = stem p ++ "/" ++ name := by
  rw [← String.toList_inj]
  simp [stem]

theorem pieces_stem (hp : ∀ name ∈ p, IsName name) : pieces (stem p) = "" :: p := by
  induction p using List.reverseRecOn with
  | nil => rfl
  | append_singleton p name ih =>
    rw [List.forall_mem_append, List.forall_mem_singleton] at hp
    rw [stem_concat, pieces_append, ih hp.1, pieces_of_notMem hp.2.2.2.2, List.cons_append]

theorem pieces_absolute (hp : ∀ name ∈ p, IsName name) :
    pieces (absolute p) = if p = [] then ["", ""] else "" :: p := by
  rw [absolute]
  split
  · rfl
  · exact pieces_stem hp

/-- A prefix of a directory is one. -/
theorem isDir_of_isPrefix (h : p <+: q) (hq : fs.isDir q = true) : fs.isDir p = true := by
  obtain ⟨l, rfl⟩ := h
  induction l using List.reverseRecOn with
  | nil => rwa [List.append_nil] at hq
  | append_singleton l name ih =>
    have hparent := fs.isDir_dropLast _ hq
    rw [← List.append_assoc, List.dropLast_concat] at hparent
    exact ih hparent

/-- Names lead to a directory. -/
theorem walk_of_isDir (hl : ∀ name ∈ l, IsName name) (hdir : fs.isDir (p ++ l) = true) :
    fs.walk p l = .ok (p ++ l) := by
  induction l using List.reverseRecOn with
  | nil =>
    rw [List.append_nil]
    rfl
  | append_singleton l name ih =>
    rw [List.forall_mem_append, List.forall_mem_singleton] at hl
    have hparent : fs.isDir (p ++ l) = true := isDir_of_isPrefix ⟨[name], by simp⟩ hdir
    rw [walk_append _ _ (ih hl.1 hparent), walk_name hparent hl.2, List.append_assoc]

theorem resolve_absolute (hp : ∀ name ∈ p, IsName name) :
    fs.resolve (absolute p) =
      if Char.ofNat 0 ∈ (absolute p).toList then .error .nulByte else fs.walk [] p := by
  have hhead : (absolute p).toList.head? = some '/' := by
    cases p with
    | nil => rfl
    | cons name p =>
      rw [absolute, if_neg (List.cons_ne_nil _ _), stem, String.toList_ofList]
      rfl
  have hne : absolute p ≠ "" := by
    intro h
    rw [h] at hhead
    cases hhead
  have hroot : fs.follow [] "" = .ok [] := follow_eq_ok.2 ⟨fs.isDir_root, rfl⟩
  rw [resolve, if_neg hne, start, if_pos hhead, pieces_absolute hp]
  split
  · rfl
  · split
    · next hnil =>
      rw [hnil, walk_cons, hroot]
      exact (walk_singleton "").trans hroot
    · rw [walk_cons, hroot]
      rfl

/-- Names lead from the root to what is below a directory. -/
theorem walk_root_eq_ok (hp : ∀ name ∈ p, IsName name) :
    fs.walk [] p = .ok q ↔ fs.isDir p.dropLast = true ∧ q = p := by
  rcases List.eq_nil_or_concat' p with rfl | ⟨l, name, rfl⟩
  · change Except.ok [] = _ ↔ _
    simp [fs.isDir_root, eq_comm]
  · rw [List.forall_mem_append, List.forall_mem_singleton] at hp
    rw [List.dropLast_concat, walk_append_eq_ok]
    constructor
    · rintro ⟨r, hr, hname⟩
      obtain rfl := eq_append_of_walk hp.1 hr
      rw [walk_singleton] at hname
      have hdir := (follow_eq_ok.1 hname).1
      rw [← walk_singleton, walk_name hdir hp.2] at hname
      cases hname
      exact ⟨hdir, rfl⟩
    · rintro ⟨hdir, rfl⟩
      exact ⟨l, walk_of_isDir hp.1 hdir, walk_name hdir hp.2⟩

/-- **A file is created below a directory**, where no directory is. -/
theorem create_absolute_eq_ok (hp : ∀ name ∈ p, IsName name) :
    fs.create (absolute p) = .ok (q, fs') ↔ Char.ofNat 0 ∉ (absolute p).toList ∧
      fs.isDir p.dropLast = true ∧ q = p ∧ ∃ h : fs.isDir p = false, fs' = fs.put p [] h := by
  rw [create, resolve_absolute hp]
  by_cases hnul : Char.ofNat 0 ∈ (absolute p).toList
  · simp [hnul]
  · rw [if_neg hnul]
    by_cases hdir : fs.isDir p.dropLast = true
    · rw [(walk_root_eq_ok hp).2 ⟨hdir, rfl⟩]
      by_cases hfile : fs.isDir p = false
      · simp [hnul, hdir, hfile, eq_comm]
      · simp [hfile]
    · cases hwalk : fs.walk [] p with
      | error e => simp [hdir]
      | ok q => exact absurd ((walk_root_eq_ok hp).1 hwalk).1 hdir

/-! ## Making the directory of a place -/

/-- There is a file on the way to a place. -/
def Obstructed (fs : FileSystem) (p : Place) : Prop :=
  ∃ q, q <+: p ∧ (fs.files q).isSome = true ∧ fs.isDir q.dropLast = true

theorem enter_name (hdir : fs.isDir p = true) (hname : IsName name) :
    fs.enter p name = if fs.isDir (p ++ [name]) = true then .ok (p ++ [name], fs)
      else if h : fs.isDir (p ++ [name]).dropLast = true ∧ fs.files (p ++ [name]) = none then
        .ok (p ++ [name], fs.makeDir (p ++ [name]) h.1 h.2)
      else .error .notADirectory := by
  have hfollow : fs.follow p name = .ok (p ++ [name]) := by
    rw [← walk_singleton]
    exact walk_name hdir hname
  rw [enter, hfollow]

/-- Directories that are there are walked. -/
theorem enterAll_append (hl : ∀ name ∈ l, IsName name) (hdir : fs.isDir (p ++ l) = true)
    (l' : List String) : fs.enterAll p (l ++ l') = fs.enterAll (p ++ l) l' := by
  induction l generalizing p with
  | nil => rw [List.nil_append, List.append_nil]
  | cons name l ih =>
    rw [List.forall_mem_cons] at hl
    have hp : fs.isDir p = true := isDir_of_isPrefix (List.prefix_append _ _) hdir
    have hnext : fs.isDir (p ++ [name]) = true := isDir_of_isPrefix ⟨l, by simp⟩ hdir
    rw [← List.singleton_append, ← List.append_assoc] at hdir
    rw [List.cons_append, enterAll, enter_name hp hl.1, if_pos hnext]
    dsimp only
    rw [ih hl.2 hdir, List.append_assoc, List.singleton_append]

/-- What is made is on the way. -/
theorem isDir_enterAll (hl : ∀ name ∈ l, IsName name) (hp : fs.isDir p = true)
    (hr : (fs.enterAll p l).2.isDir r = true) : fs.isDir r = true ∨ r <+: p ++ l := by
  induction l generalizing fs p with
  | nil => exact .inl hr
  | cons name l ih =>
    rw [List.forall_mem_cons] at hl
    have hpath : p ++ name :: l = p ++ [name] ++ l := by simp
    rw [enterAll, enter_name hp hl.1] at hr
    rw [hpath]
    by_cases hdir : fs.isDir (p ++ [name]) = true
    · rw [if_pos hdir] at hr
      exact ih hl.2 hdir hr
    · rw [if_neg hdir] at hr
      by_cases hfree : fs.isDir (p ++ [name]).dropLast = true ∧ fs.files (p ++ [name]) = none
      · rw [dif_pos hfree] at hr
        rcases ih hl.2 (by simp [makeDir]) hr with hmade | hbefore
        · rcases (Bool.or_eq_true_iff.1 hmade) with heq | hr
          · rw [of_decide_eq_true heq]
            exact .inr (List.prefix_append _ _)
          · exact .inl hr
        · exact .inr hbefore
      · rw [dif_neg hfree] at hr
        exact .inl hr

/-- The way to a place leaves the directories at some name. -/
theorem exists_first_missing (hp : fs.isDir p = true) (hl : fs.isDir (p ++ l) = false) :
    ∃ a name rest, l = a ++ name :: rest ∧ fs.isDir (p ++ a) = true ∧
      fs.isDir (p ++ a ++ [name]) = false := by
  induction l generalizing p with
  | nil =>
    rw [List.append_nil, hp] at hl
    cases hl
  | cons name l ih =>
    by_cases hdir : fs.isDir (p ++ [name]) = true
    · obtain ⟨a, name', rest, rfl, ha, hname'⟩ := ih hdir (by simpa using hl)
      exact ⟨name :: a, name', rest, rfl, by simpa using ha, by simpa using hname'⟩
    · exact ⟨[], name, l, rfl, by simpa using hp, by simpa using hdir⟩

/-- The directories of a path are entered from the root. -/
theorem createDirAll_stem (hp : ∀ name ∈ p, IsName name) (hnul : Char.ofNat 0 ∉ (stem p).toList) :
    fs.createDirAll (stem p) = if fs.isFile (stem p) = true then (.error .alreadyExists, fs)
      else fs.enterAll [] p := by
  have hroot : fs.enter [] "" = .ok ([], fs) := by
    have hfollow : fs.follow [] "" = .ok [] := follow_eq_ok.2 ⟨fs.isDir_root, rfl⟩
    rw [enter, hfollow]
    exact if_pos fs.isDir_root
  cases p with
  | nil =>
    have hfile : fs.isFile (stem []) = false := rfl
    rw [hfile]
    rfl
  | cons name p =>
    have hhead : (stem (name :: p)).toList.head? = some '/' := by
      rw [stem, String.toList_ofList]
      rfl
    have hne : stem (name :: p) ≠ "" := by
      intro h
      rw [h] at hhead
      cases hhead
    rw [createDirAll, if_neg hne, if_neg hnul, start, if_pos hhead, pieces_stem hp, enterAll, hroot]

theorem createDirAll_of_nul (hnul : Char.ofNat 0 ∈ path.toList) :
    fs.createDirAll path = (.error .nulByte, fs) := by
  have hne : path ≠ "" := by
    intro h
    rw [h] at hnul
    cases hnul
  rw [createDirAll, if_neg hne, if_pos hnul]

theorem obstructed_of_isFile (hp : ∀ name ∈ p, IsName name) (hfile : fs.isFile (stem p) = true) :
    fs.Obstructed p := by
  rw [isFile] at hfile
  split at hfile
  · next q hq =>
    cases p with
    | nil => cases hq
    | cons name p =>
      have habsolute : absolute (name :: p) = stem (name :: p) := if_neg (List.cons_ne_nil _ _)
      rw [← habsolute, resolve_absolute hp] at hq
      split at hq
      · cases hq
      · obtain ⟨hdir, rfl⟩ := (walk_root_eq_ok hp).1 hq
        exact ⟨_, List.prefix_refl _, hfile, hdir⟩
  · cases hfile

/-- Nothing is in the way of a directory that is there. -/
theorem not_obstructed_of_isDir (hdir : fs.isDir p = true) : ¬ fs.Obstructed p := by
  rintro ⟨q, hbefore, hfile, -⟩
  obtain ⟨b, hb⟩ := Option.isSome_iff_exists.1 hfile
  cases (isDir_of_isPrefix hbefore hdir).symm.trans (fs.isDir_of_file q b hb)

/-- A directory that is there is not made. -/
theorem createDirAll_of_isDir (hp : ∀ name ∈ p, IsName name)
    (hnul : Char.ofNat 0 ∉ (stem p).toList) (hdir : fs.isDir p = true) :
    fs.createDirAll (stem p) = (.ok (), fs) := by
  have hfile : ¬ fs.isFile (stem p) = true := fun h =>
    not_obstructed_of_isDir hdir (obstructed_of_isFile hp h)
  have happend := enterAll_append (p := []) hp hdir []
  rw [List.append_nil] at happend
  rw [createDirAll_stem hp hnul, if_neg hfile, happend]
  rfl

/-- **Behind a file no directory is made.** -/
theorem createDirAll_of_obstructed (hp : ∀ name ∈ p, IsName name) (h : fs.Obstructed p) :
    ∃ e, fs.createDirAll (stem p) = (.error e, fs) := by
  by_cases hnul : Char.ofNat 0 ∈ (stem p).toList
  · exact ⟨_, createDirAll_of_nul hnul⟩
  · rw [createDirAll_stem hp hnul]
    split
    · exact ⟨_, rfl⟩
    · obtain ⟨q, ⟨rest, rfl⟩, hfile, hdir⟩ := h
      obtain ⟨b, hb⟩ := Option.isSome_iff_exists.1 hfile
      have hnot := fs.isDir_of_file q b hb
      rcases List.eq_nil_or_concat' q with rfl | ⟨a, name, rfl⟩
      · cases hnot.symm.trans fs.isDir_root
      · rw [List.dropLast_concat] at hdir
        simp only [List.forall_mem_append, List.forall_mem_singleton] at hp
        rw [List.append_assoc, enterAll_append (p := []) hp.1.1 hdir, List.nil_append,
          List.singleton_append, enterAll, enter_name hdir hp.1.2, if_neg (by simp [hnot]),
          dif_neg (by simp [hb])]
        exact ⟨_, rfl⟩

/-- What is made is on the way to the place. -/
theorem isDir_createDirAll (hp : ∀ name ∈ p, IsName name)
    (hr : (fs.createDirAll (stem p)).2.isDir r = true) : fs.isDir r = true ∨ r <+: p := by
  by_cases hnul : Char.ofNat 0 ∈ (stem p).toList
  · rw [createDirAll_of_nul hnul] at hr
    exact .inl hr
  · rw [createDirAll_stem hp hnul] at hr
    split at hr
    · exact .inl hr
    · exact isDir_enterAll hp fs.isDir_root hr

/-- **A directory that is missing is made**, or the first one of those above it, unless there is a
file on the way. -/
theorem exists_made (hp : ∀ name ∈ p, IsName name) (hnul : Char.ofNat 0 ∉ (stem p).toList)
    (hdir : fs.isDir p = false) (hfree : ¬ fs.Obstructed p) :
    ∃ r, r <+: p ∧ fs.isDir r = false ∧ (fs.createDirAll (stem p)).2.isDir r = true := by
  obtain ⟨a, name, rest, rfl, ha, hname⟩ := exists_first_missing fs.isDir_root hdir
  rw [List.nil_append] at ha hname
  have hbefore : a ++ [name] <+: a ++ name :: rest := ⟨rest, by simp⟩
  have hnone : fs.files (a ++ [name]) = none := by
    by_contra hsome
    exact hfree ⟨a ++ [name], hbefore, Option.isSome_iff_ne_none.2 hsome, by simpa using ha⟩
  have hfile : ¬ fs.isFile (stem (a ++ name :: rest)) = true := fun h =>
    hfree (obstructed_of_isFile hp h)
  refine ⟨a ++ [name], hbefore, hname, ?_⟩
  rw [createDirAll_stem hp hnul]
  rw [List.forall_mem_append, List.forall_mem_cons] at hp
  rw [if_neg hfile, enterAll_append (p := []) hp.1 ha,
    List.nil_append, enterAll, enter_name ha hp.2.1, if_neg (by simp [hname]),
    dif_pos ⟨by simpa using ha, hnone⟩]
  exact (enterAll_grows _ _ _).1.isDir _ (by simp [makeDir])

/-! ## Making a file and the directories above it -/

/-- There are only more directories and files. -/
structure Extends (fs fs' : FileSystem) : Prop extends Grows fs fs' where
  files : ∀ q, (fs.files q).isSome = true → (fs'.files q).isSome = true

theorem Extends.refl (fs : FileSystem) : Extends fs fs := ⟨.refl fs, fun _ h => h⟩

theorem Extends.trans {fs'' : FileSystem} (h : Extends fs fs') (h' : Extends fs' fs'') :
    Extends fs fs'' :=
  ⟨h.toGrows.trans h'.toGrows, fun q hq => h'.files q (h.files q hq)⟩

theorem extends_createDirAll (fs : FileSystem) (path : String) :
    Extends fs (fs.createDirAll path).2 := by
  obtain ⟨hgrows, hfiles⟩ := grows_createDirAll fs path
  exact ⟨hgrows, fun q hq => by rwa [hfiles]⟩

theorem extends_put {b : Bytes} (h : fs.isDir p = false) : Extends fs (fs.put p b h) := by
  refine ⟨.put h, fun q hq => ?_⟩
  rw [files_put]
  by_cases heq : q = p
  · rw [heq, Table.insert_self]
    rfl
  · rwa [Table.insert_of_ne _ _ heq]

/-- What is written to a file that was created is in it. -/
theorem writeAll_put {b : Bytes} (h : fs.isDir p = false) :
    (fs.put p [] h).writeAll p b = fs.put p b h := by
  rw [writeAll, dif_pos (by simpa using h)]
  simp only [put, Table.insert_insert]

/-- Neither the directories above a place nor a file at it can be made: there is a file on the way,
or a directory at the place, or the path has a NUL. -/
def Blocked (fs : FileSystem) (p : Place) : Prop :=
  Char.ofNat 0 ∈ (stem p.dropLast).toList ∨ fs.Obstructed p.dropLast ∨
    fs.isDir p.dropLast = true ∧ (fs.isDir p = true ∨ Char.ofNat 0 ∈ (absolute p).toList)

theorem Blocked.mono (h : fs.Blocked p) (hfs : Extends fs fs') : fs'.Blocked p := by
  rcases h with hnul | ⟨q, hbefore, hfile, hdir⟩ | ⟨hdir, hp⟩
  · exact .inl hnul
  · exact .inr (.inl ⟨q, hbefore, hfs.files q hfile, hfs.isDir _ hdir⟩)
  · exact .inr (.inr ⟨hfs.isDir _ hdir, hp.imp_left (hfs.isDir p)⟩)

/-- **Nothing is made where it is blocked.** -/
theorem Blocked.makes_nothing (hp : ∀ name ∈ p, IsName name) (h : fs.Blocked p) :
    (∃ e, fs.createDirAll (stem p.dropLast) = (.error e, fs)) ∨
      fs.createDirAll (stem p.dropLast) = (.ok (), fs) ∧
        ∃ e, fs.create (absolute p) = .error e := by
  have hnames : ∀ name ∈ p.dropLast, IsName name := fun name hname =>
    hp name ((List.dropLast_sublist p).subset hname)
  by_cases hnul : Char.ofNat 0 ∈ (stem p.dropLast).toList
  · exact .inl ⟨_, createDirAll_of_nul hnul⟩
  · rcases h.resolve_left hnul with hobstructed | ⟨hdir, hblocked⟩
    · exact .inl (createDirAll_of_obstructed hnames hobstructed)
    · refine .inr ⟨createDirAll_of_isDir hnames hnul hdir, ?_⟩
      cases hcreate : fs.create (absolute p) with
      | error e => exact ⟨e, rfl⟩
      | ok created =>
        obtain ⟨hnul', -, -, hnot, -⟩ := (create_absolute_eq_ok hp).1 hcreate
        rcases hblocked with hdir' | hnul''
        · cases hdir'.symm.trans hnot
        · exact absurd hnul'' hnul'

/-- **Something is made where it is not blocked**: a directory on the way, or the file. -/
theorem makes_of_not_blocked (hp : ∀ name ∈ p, IsName name) (h : ¬ fs.Blocked p) :
    (∃ r, r <+: p ∧ fs.isDir r = false ∧
        (fs.createDirAll (stem p.dropLast)).2.isDir r = true) ∨
      fs.createDirAll (stem p.dropLast) = (.ok (), fs) ∧ ∃ hnot : fs.isDir p = false,
        fs.create (absolute p) = .ok (p, fs.put p [] hnot) := by
  have hnames : ∀ name ∈ p.dropLast, IsName name := fun name hname =>
    hp name ((List.dropLast_sublist p).subset hname)
  rw [Blocked, not_or, not_or, not_and_or, not_or] at h
  obtain ⟨hnul, hfree, hplace⟩ := h
  by_cases hdir : fs.isDir p.dropLast = true
  · obtain ⟨hnot, hnul'⟩ := hplace.resolve_left (not_not_intro hdir)
    have hnot := Bool.eq_false_iff.2 hnot
    exact .inr ⟨createDirAll_of_isDir hnames hnul hdir, hnot,
      (create_absolute_eq_ok hp).2 ⟨hnul', hdir, rfl, hnot, rfl⟩⟩
  · obtain ⟨r, hr, hmissing, hmade⟩ := exists_made hnames hnul (Bool.eq_false_iff.2 hdir) hfree
    exact .inl ⟨r, hr.trans (List.dropLast_prefix p), hmissing, hmade⟩

end Trustmee.FileSystem
