import Trustmee.Foundations.Bytes
import Trustmee.Foundations.Table
import Mathlib.Tactic.SplitIfs

/-!
# Files and their paths

A tree of directories and files, without links, and what the calls of the standard library make of a
path. It is split at slashes, and its pieces lead from the root, or from the directory of the
process, to the place that the call is about: an empty piece and `.` stay where they are, `..` goes
up, and a name goes down (`resolve`). What follows a directory in a path is walked from there
(`resolve_join`), so that a name after it is a child of the directory (`resolve_join_name`).
-/

namespace Trustmee

/-- A place in a tree: the names on the way from the root. -/
abbrev Place := List String

/-- Why a call on a file fails. -/
inductive IoError
  | notFound | alreadyExists | isADirectory | notADirectory | nulByte | invalidUtf8
  deriving DecidableEq

/-- How `{}` prints an `io::Error`. -/
def IoError.display : IoError → String
  | notFound => "No such file or directory (os error 2)"
  | alreadyExists => "File exists (os error 17)"
  | isADirectory => "Is a directory (os error 21)"
  | notADirectory => "Not a directory (os error 20)"
  | nulByte => "file name contained an unexpected NUL byte"
  | invalidUtf8 => "stream did not contain valid UTF-8"

/-- A tree of directories and files, and the directory that relative paths start from. -/
structure FileSystem where
  isDir : Place → Bool
  files : Table Place Bytes
  current : Place
  isDir_root : isDir [] = true
  isDir_dropLast : ∀ p, isDir p = true → isDir p.dropLast = true
  isDir_of_file : ∀ p b, files p = some b → isDir p = false

namespace FileSystem

/-! ## Paths -/

/-- What stands between the slashes of a path. -/
def pieces (path : String) : List String := (path.toList.splitOn '/').map String.ofList

/-- `Path::join` and `PathBuf::push`: an absolute path replaces the one before it. -/
def join (base path : String) : String :=
  if path.toList.head? = some '/' then path
  else if base = "" ∨ base.toList.getLast? = some '/' then base ++ path
  else base ++ "/" ++ path

/-- A piece of a path that goes down. -/
def IsName (s : String) : Prop := s ≠ "" ∧ s ≠ "." ∧ s ≠ ".." ∧ '/' ∉ s.toList

instance (s : String) : Decidable (IsName s) := inferInstanceAs (Decidable (_ ∧ _ ∧ _ ∧ _))

/-- There is a directory or a file at a place. -/
def hasEntry (fs : FileSystem) (p : Place) : Bool := fs.isDir p || (fs.files p).isSome

/-- One piece of a path, from a place that has to be a directory. -/
def follow (fs : FileSystem) (p : Place) (piece : String) : Except IoError Place :=
  if fs.isDir p then
    .ok (if piece = "" ∨ piece = "." then p else if piece = ".." then p.dropLast else p ++ [piece])
  else .error (if (fs.files p).isSome then .notADirectory else .notFound)

/-- The pieces of a path, one after the other. -/
def walk (fs : FileSystem) (p : Place) (l : List String) : Except IoError Place :=
  l.foldlM fs.follow p

/-- Where the walk of a path starts. -/
def start (fs : FileSystem) (path : String) : Place :=
  if path.toList.head? = some '/' then [] else fs.current

/-- The place that a path leads to. -/
def resolve (fs : FileSystem) (path : String) : Except IoError Place :=
  if Char.ofNat 0 ∈ path.toList then .error .nulByte
  else if path = "" then .error .notFound
  else fs.walk (fs.start path) (pieces path)

/-! ## Calls -/

/-- `Path::exists`. -/
def pathExists (fs : FileSystem) (path : String) : Bool :=
  match fs.resolve path with
  | .ok p => fs.hasEntry p
  | .error _ => false

/-- `fs::read`. -/
def read (fs : FileSystem) (path : String) : Except IoError Bytes :=
  match fs.resolve path with
  | .error e => .error e
  | .ok p =>
    if fs.isDir p then .error .isADirectory
    else match fs.files p with
      | some b => .ok b
      | none => .error .notFound

/-- The tree with a file at a place that is no directory. -/
def put (fs : FileSystem) (p : Place) (b : Bytes) (h : fs.isDir p = false) : FileSystem where
  isDir := fs.isDir
  files := fs.files.insert p b
  current := fs.current
  isDir_root := fs.isDir_root
  isDir_dropLast := fs.isDir_dropLast
  isDir_of_file q c hq := by
    rcases Table.insert_eq_some hq with ⟨rfl, -⟩ | ⟨-, hfile⟩
    · exact h
    · exact fs.isDir_of_file q c hfile

/-- The tree without a file. -/
def drop (fs : FileSystem) (p : Place) : FileSystem where
  isDir := fs.isDir
  files := fs.files.erase p
  current := fs.current
  isDir_root := fs.isDir_root
  isDir_dropLast := fs.isDir_dropLast
  isDir_of_file q c hq := fs.isDir_of_file q c (Table.erase_eq_some hq).2

/-- `fs::write`. -/
def write (fs : FileSystem) (path : String) (b : Bytes) : Except IoError FileSystem :=
  match fs.resolve path with
  | .error e => .error e
  | .ok p => if h : fs.isDir p = false then .ok (fs.put p b h) else .error .isADirectory

/-- `File::create`: the place of the file, and the tree with the file empty. -/
def create (fs : FileSystem) (path : String) : Except IoError (Place × FileSystem) :=
  match fs.resolve path with
  | .error e => .error e
  | .ok p => if h : fs.isDir p = false then .ok (p, fs.put p [] h) else .error .isADirectory

/-- `write_all`, to a file that was created. -/
def writeAll (fs : FileSystem) (file : Place) (b : Bytes) : FileSystem :=
  if h : fs.isDir file = false then fs.put file b h else fs

/-- `env::current_dir`. -/
def currentDir (fs : FileSystem) : Except IoError Place :=
  if fs.isDir fs.current then .ok fs.current else .error .notFound

/-- `env::set_current_dir`. -/
def setCurrentDir (fs : FileSystem) (path : String) : Except IoError FileSystem :=
  match fs.resolve path with
  | .error e => .error e
  | .ok p =>
    if fs.isDir p then .ok { fs with current := p }
    else .error (if (fs.files p).isSome then .notADirectory else .notFound)

/-- `fs::remove_file`. -/
def removeFile (fs : FileSystem) (path : String) : Except IoError FileSystem :=
  match fs.resolve path with
  | .error e => .error e
  | .ok p =>
    if fs.isDir p then .error .isADirectory
    else match fs.files p with
      | some _ => .ok (fs.drop p)
      | none => .error .notFound

/-- The names are those of the entries of a directory, in some order. -/
def Lists (fs : FileSystem) (p : Place) (names : List String) : Prop :=
  names.Nodup ∧ ∀ name, name ∈ names ↔ fs.hasEntry (p ++ [name]) = true

/-- An order in which `fs::read_dir` gives the names of a directory that has finitely many. -/
structure Listing where
  names : FileSystem → Place → List String
  lists : ∀ (fs : FileSystem) (p : Place) (l : List String), fs.Lists p l → fs.Lists p (names fs p)

instance : Nonempty Listing := by
  classical
  have h : ∀ (fs : FileSystem) (p : Place), ∃ names, (∃ l, fs.Lists p l) → fs.Lists p names := by
    intro fs p
    by_cases hfinite : ∃ l, fs.Lists p l
    · obtain ⟨l, h⟩ := hfinite
      exact ⟨l, fun _ => h⟩
    · exact ⟨[], fun h => absurd h hfinite⟩
  choose names hnames using h
  exact ⟨⟨names, fun fs p l hl => hnames fs p ⟨l, hl⟩⟩⟩

/-- `fs::read_dir`, and the names that it goes through. -/
def readDir (listing : Listing) (fs : FileSystem) (path : String) : Except IoError (List String) :=
  match fs.resolve path with
  | .error e => .error e
  | .ok p =>
    if fs.isDir p then .ok (listing.names fs p)
    else .error (if (fs.files p).isSome then .notADirectory else .notFound)

/-! ## Where paths lead -/

theorem pieces_append (base path : String) :
    pieces (base ++ "/" ++ path) = pieces base ++ pieces path := by
  have hlist : (base ++ "/" ++ path).toList = base.toList ++ '/' :: path.toList := by simp
  rw [pieces, hlist, List.splitOn_append_cons_of_beq _ _ (beq_self_eq_true '/'), List.map_append]
  rfl

theorem pieces_of_notMem {s : String} (h : '/' ∉ s.toList) : pieces s = [s] := by
  rw [pieces, List.splitOn_eq_singleton h, List.map_singleton, String.ofList_toList]

variable {fs : FileSystem} {base path name : String} {p : Place}

theorem walk_append (l l' : List String) {q : Place} (h : fs.walk p l = .ok q) :
    fs.walk p (l ++ l') = fs.walk q l' := by
  rw [walk, List.foldlM_append]
  rw [walk] at h
  rw [h]
  rfl

theorem walk_cons (piece : String) (l : List String) :
    fs.walk p (piece :: l) = (fs.follow p piece).bind fun q => fs.walk q l := List.foldlM_cons

theorem walk_singleton (piece : String) : fs.walk p [piece] = fs.follow p piece := by
  rw [walk_cons]
  cases fs.follow p piece <;> rfl

theorem walk_name (hdir : fs.isDir p = true) (hname : IsName name) :
    fs.walk p [name] = .ok (p ++ [name]) := by
  obtain ⟨hempty, hdot, hdots, -⟩ := hname
  rw [walk_singleton]
  simp [follow, hdir, hempty, hdot, hdots]

/-- A path that leads somewhere is not empty, and has no NUL in it. -/
theorem resolve_eq_ok : fs.resolve path = .ok p ↔
    Char.ofNat 0 ∉ path.toList ∧ path ≠ "" ∧ fs.walk (fs.start path) (pieces path) = .ok p := by
  unfold resolve
  by_cases hnul : Char.ofNat 0 ∈ path.toList
  · simp [hnul]
  · by_cases hempty : path = ""
    · simp [hempty]
    · simp only [if_neg hnul, if_neg hempty]
      simp [hnul, hempty]

/-- What follows a slash is walked from where the pieces before it lead. -/
theorem resolve_after_slash (hnul : Char.ofNat 0 ∉ base.toList)
    (hwalk : fs.walk (fs.start (base ++ "/")) (pieces base) = .ok p) :
    fs.resolve (base ++ "/" ++ path) =
      if Char.ofNat 0 ∈ path.toList then .error .nulByte else fs.walk p (pieces path) := by
  have hhead : (base ++ "/" ++ path).toList.head? = (base ++ "/").toList.head? := by
    cases h : base.toList with
    | nil => simp [h]
    | cons c l => simp [h]
  have hmem : Char.ofNat 0 ∈ (base ++ "/" ++ path).toList ↔ Char.ofNat 0 ∈ path.toList := by
    simp [hnul]
  have hne : base ++ "/" ++ path ≠ "" := by simp
  have hstart : fs.start (base ++ "/" ++ path) = fs.start (base ++ "/") := by
    rw [start, start, hhead]
  rw [resolve, if_neg hne, hstart, pieces_append, walk_append _ _ hwalk]
  simp only [hmem]

/-- What follows a path and a slash is walked from where the path leads. -/
theorem resolve_append (hbase : fs.resolve base = .ok p) :
    fs.resolve (base ++ "/" ++ path) =
      if Char.ofNat 0 ∈ path.toList then .error .nulByte else fs.walk p (pieces path) := by
  obtain ⟨hnul, hempty, hwalk⟩ := resolve_eq_ok.1 hbase
  have hstart : fs.start (base ++ "/") = fs.start base := by
    have hne : base.toList ≠ [] := by simpa using hempty
    obtain ⟨c, l, hl⟩ := List.exists_cons_of_ne_nil hne
    simp [start, hl]
  exact resolve_after_slash hnul (by rw [hstart, hwalk])

/-- A path that ends in a slash leads where it leads without. -/
theorem walk_of_slash (h : fs.resolve (base ++ "/") = .ok p) :
    fs.walk (fs.start (base ++ "/")) (pieces base) = .ok p := by
  have hpieces : pieces (base ++ "/") = pieces base ++ [""] := by
    have := pieces_append base ""
    simpa [pieces_of_notMem (s := "") (by simp)] using this
  obtain ⟨-, -, hwalk⟩ := resolve_eq_ok.1 h
  rw [hpieces] at hwalk
  cases hfirst : fs.walk (fs.start (base ++ "/")) (pieces base) with
  | error e =>
    rw [walk] at hfirst
    rw [walk, List.foldlM_append, hfirst] at hwalk
    cases hwalk
  | ok q =>
    rw [walk_append _ _ hfirst] at hwalk
    simp only [walk, List.foldlM_cons, follow] at hwalk
    split at hwalk
    · exact hwalk
    · cases hwalk

/-- What is joined to a directory is walked from there. -/
theorem resolve_join (hbase : fs.resolve base = .ok p)
    (hrelative : path.toList.head? ≠ some '/') :
    fs.resolve (join base path) =
      if Char.ofNat 0 ∈ path.toList then .error .nulByte else fs.walk p (pieces path) := by
  obtain ⟨hnul, hempty, -⟩ := resolve_eq_ok.1 hbase
  unfold join
  rw [if_neg hrelative]
  split
  · next hends =>
    obtain ⟨l, hl⟩ := List.getLast?_eq_some_iff.1 (hends.resolve_left hempty)
    have hslash : base = String.ofList l ++ "/" := by
      rw [← String.toList_inj, hl]
      simp
    rw [hslash] at hbase hnul
    have hnul' : Char.ofNat 0 ∉ (String.ofList l).toList := by
      intro h
      rw [String.toList_append] at hnul
      exact hnul (List.mem_append_left _ h)
    rw [hslash, resolve_after_slash hnul' (walk_of_slash hbase)]
  · exact resolve_append hbase

/-- A name that is joined to a directory is the name of a child. -/
theorem resolve_join_name (hbase : fs.resolve base = .ok p) (hdir : fs.isDir p = true)
    (hname : IsName name) (hnul : Char.ofNat 0 ∉ name.toList) :
    fs.resolve (join base name) = .ok (p ++ [name]) := by
  have hslash : '/' ∉ name.toList := hname.2.2.2
  have hhead : name.toList.head? ≠ some '/' := fun h => hslash (List.mem_of_head? h)
  rw [resolve_join hbase hhead, if_neg hnul, pieces_of_notMem hslash, walk_name hdir hname]

/-- What is no name leads from a directory to a directory. -/
theorem exists_resolve_join_of_not_isName (hbase : fs.resolve base = .ok p)
    (hdir : fs.isDir p = true) (hname : name = "" ∨ name = "." ∨ name = "..") :
    ∃ q, fs.resolve (join base name) = .ok q ∧ fs.isDir q = true := by
  rcases hname with rfl | rfl | rfl
  · refine ⟨p, ?_, hdir⟩
    rw [resolve_join hbase (by decide), if_neg (by decide), pieces_of_notMem (by decide),
      walk_singleton]
    simp [follow, hdir]
  · refine ⟨p, ?_, hdir⟩
    rw [resolve_join hbase (by decide), if_neg (by decide), pieces_of_notMem (by decide),
      walk_singleton]
    simp [follow, hdir]
  · refine ⟨p.dropLast, ?_, fs.isDir_dropLast p hdir⟩
    rw [resolve_join hbase (by decide), if_neg (by decide), pieces_of_notMem (by decide),
      walk_singleton]
    simp [follow, hdir]

/-! ## Calls at a place -/

variable {b : Bytes}

theorem pathExists_eq (h : fs.resolve path = .ok p) : fs.pathExists path = fs.hasEntry p := by
  rw [pathExists, h]

theorem hasEntry_eq (h : fs.isDir p = false) : fs.hasEntry p = (fs.files p).isSome := by
  rw [hasEntry, h, Bool.false_or]

theorem read_eq_ok (h : fs.resolve path = .ok p) :
    fs.read path = .ok b ↔ fs.files p = some b := by
  rw [read, h]
  dsimp only
  split
  · next hdir =>
    have hnone : fs.files p ≠ some b := fun hfile => by
      rw [fs.isDir_of_file p b hfile] at hdir
      cases hdir
    simp [hnone]
  · cases fs.files p with
    | none => simp
    | some c => simp

theorem read_of_isDir (h : fs.resolve path = .ok p) (hdir : fs.isDir p = true) :
    fs.read path = .error .isADirectory := by
  rw [read, h]
  exact if_pos hdir

theorem write_eq (h : fs.resolve path = .ok p) (hdir : fs.isDir p = false) (b : Bytes) :
    fs.write path b = .ok (fs.put p b hdir) := by
  rw [write, h]
  exact dif_pos hdir

theorem write_of_isDir (h : fs.resolve path = .ok p) (hdir : fs.isDir p = true) (b : Bytes) :
    fs.write path b = .error .isADirectory := by
  rw [write, h]
  exact dif_neg (by simp [hdir])

theorem removeFile_eq (h : fs.resolve path = .ok p) (hfile : fs.files p = some b) :
    fs.removeFile path = .ok (fs.drop p) := by
  rw [removeFile, h]
  dsimp only
  rw [if_neg (by simp [fs.isDir_of_file p b hfile]), hfile]

theorem readDir_eq (listing : Listing) (h : fs.resolve path = .ok p) (hdir : fs.isDir p = true) :
    fs.readDir listing path = .ok (listing.names fs p) := by
  rw [readDir, h]
  exact if_pos hdir

@[simp] theorem isDir_put {h : fs.isDir p = false} : (fs.put p b h).isDir = fs.isDir := rfl

@[simp] theorem isDir_drop : (fs.drop p).isDir = fs.isDir := rfl

@[simp] theorem files_put {h : fs.isDir p = false} :
    (fs.put p b h).files = fs.files.insert p b := rfl

@[simp] theorem files_drop : (fs.drop p).files = fs.files.erase p := rfl

/-- A path leads where it led as long as the directories stay. -/
theorem resolve_of_isDir {fs' : FileSystem} (h : fs.resolve path = .ok p)
    (hdir : ∀ q, fs.isDir q = true → fs'.isDir q = true) (hcurrent : fs'.current = fs.current) :
    fs'.resolve path = .ok p := by
  have hwalk : ∀ (l : List String) (q : Place), fs.walk q l = .ok p → fs'.walk q l = .ok p := by
    intro l
    induction l with
    | nil => exact fun q h => h
    | cons piece l ih =>
      intro q h
      rw [walk_cons, follow] at h ⊢
      split at h
      · next hq =>
        rw [if_pos (hdir q hq)]
        exact ih _ h
      · cases h
  rw [resolve_eq_ok] at h ⊢
  obtain ⟨hnul, hempty, h⟩ := h
  rw [start] at h
  rw [start, hcurrent]
  exact ⟨hnul, hempty, hwalk _ _ h⟩

theorem resolve_put {h : fs.isDir p = false} {q : Place} (hpath : fs.resolve path = .ok q) :
    (fs.put p b h).resolve path = .ok q :=
  resolve_of_isDir hpath (fun _ h => h) rfl

theorem resolve_drop {q : Place} (hpath : fs.resolve path = .ok q) :
    (fs.drop p).resolve path = .ok q :=
  resolve_of_isDir hpath (fun _ h => h) rfl

/-- What is written is read. -/
theorem read_of_write {fs' : FileSystem} (h : fs.write path b = .ok fs') : fs'.read path = .ok b := by
  unfold write at h
  split at h
  · cases h
  · next p hpath =>
    split at h
    · next hdir =>
      cases h
      rw [read_eq_ok (resolve_put hpath), files_put, Table.insert_self]
    · cases h

end FileSystem

end Trustmee
