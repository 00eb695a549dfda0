import Trustmee.Foundations.FileSystem

/-!
# Directories that are made

`create_dir_all` walks a path and makes the directories that are missing. It changes no file and
removes no directory (`grows_createDirAll`), so paths lead where they led. What is joined to a
directory is walked from the place of the directory, also when its path is empty
(`resolve_join_eq_ok`); names that are joined to it lead below it (`eq_append_of_walk`).
-/

namespace Trustmee.FileSystem

variable {fs fs' fs'' : FileSystem} {dir path : String} {p q : Place} {l : List String}

/-! ## Making directories -/

/-- The tree with one more directory, where nothing is. -/
def makeDir (fs : FileSystem) (p : Place) (hparent : fs.isDir p.dropLast = true)
    (hfile : fs.files p = none) : FileSystem where
  isDir q := decide (q = p) || fs.isDir q
  files := fs.files
  current := fs.current
  isDir_root := by rw [fs.isDir_root, Bool.or_true]
  isDir_dropLast q hq := by
    rw [Bool.or_eq_true, decide_eq_true_eq] at hq ⊢
    rcases hq with rfl | hq
    · exact .inr hparent
    · exact .inr (fs.isDir_dropLast q hq)
  isDir_of_file q b hq := by
    rw [Bool.or_eq_false_iff, decide_eq_false_iff_not]
    refine ⟨?_, fs.isDir_of_file q b hq⟩
    rintro rfl
    cases hfile.symm.trans hq

/-- One piece of a path, with the directory that it leads to. -/
def enter (fs : FileSystem) (p : Place) (piece : String) : Except IoError (Place × FileSystem) :=
  match fs.follow p piece with
  | .error e => .error e
  | .ok q =>
    if fs.isDir q then .ok (q, fs)
    else if h : fs.isDir q.dropLast = true ∧ fs.files q = none then .ok (q, fs.makeDir q h.1 h.2)
    else .error .notADirectory

/-- The pieces of a path. What was made stays when a piece fails. -/
def enterAll (fs : FileSystem) (p : Place) : List String → Except IoError Unit × FileSystem
  | [] => (.ok (), fs)
  | piece :: l =>
    match fs.enter p piece with
    | .ok (q, fs') => enterAll fs' q l
    | .error e => (.error e, fs)

/-- A path leads to a file. -/
def isFile (fs : FileSystem) (path : String) : Bool :=
  match fs.resolve path with
  | .ok p => (fs.files p).isSome
  | .error _ => false

/-- `fs::create_dir_all`. -/
def createDirAll (fs : FileSystem) (path : String) : Except IoError Unit × FileSystem :=
  if path = "" then (.ok (), fs)
  else if Char.ofNat 0 ∈ path.toList then (.error .nulByte, fs)
  else if fs.isFile path then (.error .alreadyExists, fs)
  else fs.enterAll (fs.start path) (pieces path)

/-- Directories are only added. -/
structure Grows (fs fs' : FileSystem) : Prop where
  isDir : ∀ q, fs.isDir q = true → fs'.isDir q = true
  current : fs'.current = fs.current

namespace Grows

theorem refl (fs : FileSystem) : Grows fs fs := ⟨fun _ h => h, rfl⟩

theorem trans (h : Grows fs fs') (h' : Grows fs' fs'') : Grows fs fs'' :=
  ⟨fun q hq => h'.isDir q (h.isDir q hq), h'.current.trans h.current⟩

theorem put {b : Bytes} (h : fs.isDir p = false) : Grows fs (fs.put p b h) := ⟨fun _ h => h, rfl⟩

theorem resolve (h : Grows fs fs') (hpath : fs.resolve path = .ok p) : fs'.resolve path = .ok p :=
  resolve_of_isDir hpath h.isDir h.current

end Grows

theorem enter_eq_ok {piece : String} (h : fs.enter p piece = .ok (q, fs')) :
    Grows fs fs' ∧ fs'.files = fs.files := by
  unfold enter at h
  split at h
  · cases h
  · split at h
    · cases h
      exact ⟨.refl _, rfl⟩
    · split at h
      · cases h
        exact ⟨⟨fun q hq => by simp [makeDir, hq], rfl⟩, rfl⟩
      · cases h

theorem enterAll_grows (fs : FileSystem) (p : Place) (l : List String) :
    Grows fs (fs.enterAll p l).2 ∧ (fs.enterAll p l).2.files = fs.files := by
  induction l generalizing fs p with
  | nil => exact ⟨.refl _, rfl⟩
  | cons piece l ih =>
    rw [enterAll]
    cases h : fs.enter p piece with
    | error e => exact ⟨.refl _, rfl⟩
    | ok entered =>
      obtain ⟨hgrows, hfiles⟩ := enter_eq_ok h
      obtain ⟨hgrows', hfiles'⟩ := ih entered.2 entered.1
      exact ⟨hgrows.trans hgrows', hfiles'.trans hfiles⟩

/-- **No file changes, and no directory goes.** -/
theorem grows_createDirAll (fs : FileSystem) (path : String) :
    Grows fs (fs.createDirAll path).2 ∧ (fs.createDirAll path).2.files = fs.files := by
  unfold createDirAll
  split
  · exact ⟨.refl _, rfl⟩
  · split
    · exact ⟨.refl _, rfl⟩
    · split
      · exact ⟨.refl _, rfl⟩
      · exact enterAll_grows _ _ _

/-- A write fails, or it puts the file at the place of the path. -/
theorem write_cases (fs : FileSystem) (path : String) (b : Bytes) :
    (∃ e, fs.write path b = .error e) ∨
      ∃ p, ∃ h : fs.isDir p = false, fs.resolve path = .ok p ∧
        fs.write path b = .ok (fs.put p b h) := by
  rw [write]
  cases hpath : fs.resolve path with
  | error e => exact .inl ⟨e, rfl⟩
  | ok p =>
    by_cases hdir : fs.isDir p = false
    · exact .inr ⟨p, hdir, rfl, dif_pos hdir⟩
    · exact .inl ⟨.isADirectory, dif_neg hdir⟩

/-! ## What is joined to a directory -/

theorem walk_append_eq_ok {l l' : List String} :
    fs.walk p (l ++ l') = .ok q ↔ ∃ r, fs.walk p l = .ok r ∧ fs.walk r l' = .ok q := by
  cases h : fs.walk p l with
  | ok r => simp [walk_append l l' h]
  | error e =>
    rw [walk] at h
    rw [walk, List.foldlM_append, h]
    simp [bind, Except.bind]

theorem walk_cons_eq_ok {piece : String} : fs.walk p (piece :: l) = .ok q ↔
    ∃ r, fs.follow p piece = .ok r ∧ fs.walk r l = .ok q := by
  rw [walk_cons]
  cases fs.follow p piece <;> simp [Except.bind]

/-- A step goes on from a directory. -/
theorem follow_eq_ok {piece : String} : fs.follow p piece = .ok q ↔ fs.isDir p = true ∧
    q = if piece = "" ∨ piece = "." then p else if piece = ".." then p.dropLast
      else p ++ [piece] := by
  unfold follow
  by_cases hdir : fs.isDir p = true
  · simp [hdir, eq_comm]
  · simp [hdir]

/-- Names lead down. -/
theorem eq_append_of_walk (hnames : ∀ name ∈ l, IsName name) (h : fs.walk p l = .ok q) :
    q = p ++ l := by
  induction l generalizing p with
  | nil =>
    cases h
    rw [List.append_nil]
  | cons name l ih =>
    rw [List.forall_mem_cons] at hnames
    obtain ⟨⟨hempty, hdot, hdots, -⟩, hrest⟩ := hnames
    obtain ⟨r, hr, hwalk⟩ := walk_cons_eq_ok.1 h
    obtain ⟨-, rfl⟩ := follow_eq_ok.1 hr
    rw [ih hrest hwalk, if_neg (by simp [hempty, hdot]), if_neg hdots, List.append_assoc,
      List.singleton_append]

theorem pieces_ne_nil (path : String) : pieces path ≠ [] := by
  rw [pieces, ne_eq, List.map_eq_nil_iff]
  exact List.splitOn_ne_nil _ _

/-- A walk along the pieces of a path starts from a directory. -/
theorem isDir_of_walk (h : fs.walk p (pieces path) = .ok q) : fs.isDir p = true := by
  obtain ⟨piece, l, hl⟩ := List.exists_cons_of_ne_nil (pieces_ne_nil path)
  rw [hl] at h
  obtain ⟨r, hr, -⟩ := walk_cons_eq_ok.1 h
  exact (follow_eq_ok.1 hr).1

/-- The place of the directory that paths are joined to; the empty path is the current one. -/
def base (fs : FileSystem) (dir : String) : Except IoError Place :=
  if dir = "" then .ok fs.current else fs.resolve dir

theorem Grows.base (h : Grows fs fs') (hbase : fs.base dir = .ok p) : fs'.base dir = .ok p := by
  unfold FileSystem.base at hbase ⊢
  split
  · next hempty =>
    rw [if_pos hempty] at hbase
    rw [h.current, hbase]
  · next hempty =>
    rw [if_neg hempty] at hbase
    exact h.resolve hbase

/-- A path ends in a slash where a slash follows another path. -/
theorem exists_of_ends {dir : String} (h : dir.toList.getLast? = some '/') :
    ∃ s : String, dir = s ++ "/" := by
  obtain ⟨l, hl⟩ := List.getLast?_eq_some_iff.1 h
  refine ⟨String.ofList l, ?_⟩
  rw [← String.toList_inj, hl]
  simp

theorem resolve_of_append {s : String} (h : fs.resolve (s ++ "/" ++ path) = .ok q) :
    Char.ofNat 0 ∉ s.toList ∧ Char.ofNat 0 ∉ path.toList ∧ ∃ p,
      fs.walk (fs.start (s ++ "/")) (pieces s) = .ok p ∧ fs.walk p (pieces path) = .ok q := by
  obtain ⟨hnul, -, hwalk⟩ := resolve_eq_ok.1 h
  have hstart : fs.start (s ++ "/" ++ path) = fs.start (s ++ "/") := by
    rw [start, start]
    cases hs : s.toList <;> simp [hs]
  rw [pieces_append, hstart] at hwalk
  simp only [String.toList_append, List.mem_append, not_or] at hnul
  exact ⟨hnul.1.1, hnul.2, walk_append_eq_ok.1 hwalk⟩

/-- The path before the slash leads to a directory. -/
theorem resolve_slash {s : String} (hnul : Char.ofNat 0 ∉ s.toList)
    (hwalk : fs.walk (fs.start (s ++ "/")) (pieces s) = .ok p) (hdir : fs.isDir p = true) :
    fs.resolve (s ++ "/") = .ok p := by
  have happend : fs.resolve (s ++ "/" ++ "") = _ := resolve_after_slash hnul hwalk
  rw [String.append_empty, if_neg (by simp), pieces_of_notMem (by simp), walk_singleton] at happend
  rw [happend, follow_eq_ok]
  exact ⟨hdir, rfl⟩

/-- **A relative path that is joined to a directory is walked from there**, and leads nowhere
without the directory. -/
theorem resolve_join_eq_ok (hrelative : path.toList.head? ≠ some '/') (hne : path ≠ "") :
    fs.resolve (join dir path) = .ok q ↔ Char.ofNat 0 ∉ path.toList ∧
      ∃ p, fs.base dir = .ok p ∧ fs.walk p (pieces path) = .ok q := by
  by_cases hempty : dir = ""
  · subst hempty
    have hstart : fs.start path = fs.current := by rw [start, if_neg hrelative]
    rw [join, if_neg hrelative, if_pos (.inl rfl), String.empty_append, resolve_eq_ok, hstart, base,
      if_pos rfl]
    simp [hne]
  · rw [base, if_neg hempty]
    constructor
    · intro h
      rw [join, if_neg hrelative] at h
      split at h
      · next hends =>
        obtain ⟨s, rfl⟩ := exists_of_ends (hends.resolve_left hempty)
        obtain ⟨hnul, hpath, p, hwalk, hrest⟩ := resolve_of_append h
        exact ⟨hpath, p, resolve_slash hnul hwalk (isDir_of_walk hrest), hrest⟩
      · obtain ⟨hnul, hpath, p, hwalk, hrest⟩ := resolve_of_append h
        refine ⟨hpath, p, resolve_eq_ok.2 ⟨hnul, hempty, ?_⟩, hrest⟩
        have hstart : fs.start (dir ++ "/") = fs.start dir := by
          rw [start, start]
          cases hs : dir.toList with
          | nil => exact absurd (String.toList_eq_nil_iff.1 hs) hempty
          | cons c l => simp [hs]
        rw [← hstart, hwalk]
    · rintro ⟨hnul, p, hbase, hwalk⟩
      rw [resolve_join hbase hrelative, if_neg hnul, hwalk]

/-- A directory in front of what is joined to it. -/
def asPrefix (dir : String) : String :=
  if dir = "" ∨ dir.toList.getLast? = some '/' then dir else dir ++ "/"

theorem join_eq (hrelative : path.toList.head? ≠ some '/') :
    join dir path = asPrefix dir ++ path := by
  rw [join, if_neg hrelative, asPrefix]
  split <;> rfl

/-- What is joined to a path that does not end in a slash follows a slash. -/
theorem asPrefix_append {a : String} (hne : a ≠ "") (hend : a.toList.getLast? ≠ some '/') :
    asPrefix (dir ++ a) = dir ++ a ++ "/" := by
  have hlast : (dir ++ a).toList.getLast? = a.toList.getLast? := by
    rw [String.toList_append, List.getLast?_append_of_ne_nil _ (by simpa using hne)]
  rw [asPrefix, if_neg]
  rw [hlast, not_or]
  exact ⟨by simp [hne], hend⟩

/-- Two joins are one. -/
theorem join_join {a b : String} (hrelative : a.toList.head? ≠ some '/') (hne : a ≠ "")
    (hend : a.toList.getLast? ≠ some '/') (hrelative' : b.toList.head? ≠ some '/') :
    join (join dir a) b = join dir (a ++ "/" ++ b) := by
  have hhead : (a ++ "/" ++ b).toList.head? ≠ some '/' := by
    obtain ⟨c, l, hl⟩ := List.exists_cons_of_ne_nil (show a.toList ≠ [] by simpa using hne)
    rw [hl] at hrelative
    simpa [hl] using hrelative
  rw [join_eq hrelative, join_eq hrelative', join_eq hhead, asPrefix_append hne hend,
    String.append_assoc, String.append_assoc, String.append_assoc]

end Trustmee.FileSystem
