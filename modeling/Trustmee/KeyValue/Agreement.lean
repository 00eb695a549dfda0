import Trustmee.KeyValue.Backends

/-!
# Which backends are the map

Of the four backends only `Memory` implements the map on all operations. `LocalJson` takes the
overwrite flag the other way round, `LocalFs` reports the keys that it wrote without overwriting as
present before and takes the keys that are no file names for directories, and `Postgres` fails on the
absent keys that it is asked for. Operations that avoid this are answered from the map
(`implements_iff`).
-/

namespace Trustmee.KeyValue

variable {t : Table String Bytes} {key : String} {value : Bytes} {parameters : SetParameters}

/-! ## Answers of the map -/

/-- The keys of an enumeration are the answer to `list`. -/
theorem answers_list {l : List (String × Bytes)} (h : Table.Enumerates l t) :
    Answers t .list (.ok (.keys (l.map Prod.fst))) :=
  ⟨_, rfl, h.nodup, fun _ => h.mem_keys⟩

theorem answers_set_iff {a : Answer} (h : parameters.overwrite = true ∨ t key = none) :
    Answers t (.set key value parameters) a ↔ a = .ok .done := by
  rw [Answers, if_pos h]

/-- What a `set` of the map does: it inserts, or fails and leaves the map as it is. -/
theorem answers_set {result : Except KeyValueStorageError Unit × Table String Bytes} {e}
    (h : result = if parameters.overwrite = true ∨ t key = none then (.ok (), t.insert key value)
      else (.error e, t)) :
    Answers t (.set key value parameters) (answer (fun _ => .done) result).1 ∧
      (answer (fun _ => .done) result).2 = next t (.set key value parameters) := by
  subst h
  rw [Answers, next]
  split
  · exact ⟨rfl, rfl⟩
  · exact ⟨⟨e, rfl⟩, rfl⟩

/-! ## Memory -/

theorem Memory.set_eq : Memory.set t key value parameters =
    if parameters.overwrite = true ∨ t key = none then (.ok (), t.insert key value)
    else (.error (.setKeyFailed "key already exists" key), t) := by
  unfold Memory.set
  by_cases hoverwrite : parameters.overwrite = true
  · simp [hoverwrite]
  · cases hkey : t key <;> simp [hoverwrite]

/-- The hash map is the map. -/
def Backend.memoryRepresents : Backend.memory.storage.Represents fun _ _ => True where
  Rep s t := s = t
  empty := rfl
  step := by
    intro s t l order op hrep hl _
    subst hrep
    simp only [iff_true, forall_const]
    cases op with
    | set key value parameters => exact answers_set Memory.set_eq
    | list => exact ⟨answers_list (order.enumerates l s hl), rfl⟩
    | get key => exact ⟨rfl, rfl⟩
    | delete key => exact ⟨rfl, rfl⟩

/-! ## Rows -/

theorem Postgres.set_eq (table : String) (t : Table String Bytes) (value : Bytes)
    (parameters : SetParameters) (hvalid : isValidKey key = true) :
    Postgres.set table t key value parameters =
      if parameters.overwrite = true ∨ t key = none then (.ok (), t.insert key value)
      else (.error (.setKeyFailed ("error returned from database: duplicate key value violates " ++
        "unique constraint \"" ++ table ++ "_pkey\"") key), t) := by
  rw [Postgres.set, if_pos hvalid]
  by_cases hoverwrite : parameters.overwrite = true
  · simp [hoverwrite]
  · cases hkey : t key <;> simp [hoverwrite, String.append_assoc]

theorem Postgres.answers_get (t : Table String Bytes) (key : String) :
    Answers t (.get key) ((Postgres.get t key).map .value) ↔ t key ≠ none := by
  cases hkey : t key <;> simp [Answers, Postgres.get, hkey, Except.map]

/-- No absent key is asked for. -/
def MeetsPostgres (t : Table String Bytes) : Op → Prop
  | .get key => t key ≠ none
  | _ => True

/-- The rows are the map, but for absent keys that are asked for. -/
def Backend.postgresRepresents (table : String) :
    (Backend.postgres table).storage.Represents MeetsPostgres where
  Rep s t := s = t
  empty := rfl
  step := by
    intro s t l order op hrep hl hvalid
    subst hrep
    cases op with
    | set key value parameters =>
      have h := answers_set (Postgres.set_eq table s value parameters hvalid)
      exact ⟨iff_of_true h.1 trivial, fun _ => h.2⟩
    | list =>
      exact ⟨iff_of_true (answers_list (order.enumerates l s hl)) trivial, fun _ => rfl⟩
    | get key => exact ⟨Postgres.answers_get s key, fun _ => rfl⟩
    | delete key => exact ⟨iff_of_true rfl trivial, fun _ => rfl⟩

/-! ## The file -/

variable {file : Json}

/-- The items of the file are the texts of the values. -/
def LocalJson.Holds (file : Json) (t : Table String Bytes) : Prop :=
  LocalJson.readItems file = .ok fun key => (t key).map Base64.encodeUrlSafe

namespace LocalJson

theorem decodeValue_encode (fail : String → KeyValueStorageError) (v : Option Bytes) :
    decodeValue fail (v.map Base64.encodeUrlSafe) = .ok v := by
  cases v with
  | none => rfl
  | some b => simp [decodeValue]

/-- A map of texts that is written is read back. -/
theorem holds_writeItems (iteration : Table.Iteration String String) {l : List (String × Bytes)}
    (hl : Table.Enumerates l t) :
    Holds (writeItems iteration fun key => (t key).map Base64.encodeUrlSafe) t :=
  Deserialize.hashMap_string (iteration.enumerates _ _ (hl.map Base64.encodeUrlSafe))

/-- An absent key is set. -/
theorem set_absent (iteration : Table.Iteration String String) {l : List (String × Bytes)}
    (h : Holds file t) (hl : Table.Enumerates l t) (value : Bytes) (parameters : SetParameters)
    (hkey : t key = none) : (set iteration file key value parameters).1 = .ok () ∧
      Holds (set iteration file key value parameters).2 (t.insert key value) := by
  have hitems : Table.insert (fun key => (t key).map Base64.encodeUrlSafe) key
      (Base64.encodeUrlSafe value) = fun k => (t.insert key value k).map Base64.encodeUrlSafe := by
    funext k
    rw [Table.insert_apply, Table.insert_apply]
    split <;> rfl
  have hset : set iteration file key value parameters =
      (.ok (), writeItems iteration fun k => (t.insert key value k).map Base64.encodeUrlSafe) := by
    rw [set, h]
    simp [hkey, hitems]
  rw [hset]
  exact ⟨rfl, holds_writeItems iteration (hl.insert key value)⟩

/-- A key that is there is overwritten when it should not be, and not when it should. -/
theorem not_answers_set_present (iteration : Table.Iteration String String) (h : Holds file t)
    (value : Bytes) (parameters : SetParameters) (hkey : t key ≠ none) :
    ¬ Answers t (.set key value parameters)
      ((set iteration file key value parameters).1.map fun _ => .done) := by
  obtain ⟨v, hv⟩ := Option.ne_none_iff_exists'.1 hkey
  rw [set, h]
  by_cases hoverwrite : parameters.overwrite = true
  · simp [Answers, hoverwrite, hv, Except.map]
  · simp [Answers, hoverwrite, hv, Except.map]

theorem list_eq (iteration : Table.Iteration String String) {l : List (String × Bytes)}
    (h : Holds file t) (hl : Table.Enumerates l t) :
    Answers t .list ((list iteration file).map .keys) := by
  have horder := iteration.enumerates _ _ (hl.map Base64.encodeUrlSafe)
  rw [list, h]
  refine ⟨_, rfl, horder.nodup, ?_⟩
  intro key
  rw [horder.mem_keys, Option.isSome_map]

theorem get_eq (h : Holds file t) (key : String) : get file key = .ok (t key) := by
  rw [get, h]
  exact decodeValue_encode _ _

theorem delete_eq (iteration : Table.Iteration String String) {l : List (String × Bytes)}
    (h : Holds file t) (hl : Table.Enumerates l t) (key : String) :
    (delete iteration file key).1 = .ok (t key) ∧
      Holds (delete iteration file key).2 (t.erase key) := by
  have hitems : Table.erase (fun key => (t key).map Base64.encodeUrlSafe) key =
      fun k => (t.erase key k).map Base64.encodeUrlSafe := by
    funext k
    unfold Table.erase
    split <;> rfl
  have hdelete : delete iteration file key =
      (.ok (t key), writeItems iteration fun k => (t.erase key k).map Base64.encodeUrlSafe) := by
    rw [delete, h]
    dsimp only
    rw [decodeValue_encode, hitems]
  rw [hdelete]
  exact ⟨rfl, holds_writeItems iteration (hl.erase key)⟩

end LocalJson

/-- Only absent keys are set. -/
def MeetsLocalJson (t : Table String Bytes) : Op → Prop
  | .set key _ _ => t key = none
  | _ => True

/-- The file holds the map, as long as only absent keys are set. -/
def Backend.localJsonRepresents : Backend.localJson.storage.Represents MeetsLocalJson where
  Rep := LocalJson.Holds
  empty := rfl
  step := by
    intro s t l order op h hl _
    cases op with
    | set key value parameters =>
      by_cases hkey : t key = none
      · obtain ⟨hok, hfile⟩ := LocalJson.set_absent order h hl value parameters hkey
        constructor
        · exact iff_of_true ((answers_set_iff (.inr hkey)).2 (congrArg (Except.map _) hok)) hkey
        · intro _
          rw [next, if_pos (.inr hkey)]
          exact hfile
      · exact ⟨iff_of_false (LocalJson.not_answers_set_present order h value parameters hkey) hkey,
          fun hnone => absurd hnone hkey⟩
    | list => exact ⟨iff_of_true (LocalJson.list_eq order h hl) trivial, fun _ => h⟩
    | get key =>
      exact ⟨iff_of_true (congrArg (Except.map _) (LocalJson.get_eq h key)) trivial, fun _ => h⟩
    | delete key =>
      obtain ⟨hok, hfile⟩ := LocalJson.delete_eq order h hl key
      exact ⟨iff_of_true (congrArg (Except.map _) hok) trivial, fun _ => hfile⟩

/-! ## Names of files -/

namespace LocalFs

theorem unescapeSlash_cons {c : Char} (h : c ≠ '\\') (l : List Char) :
    unescapeSlash (c :: l) = c :: unescapeSlash l := by
  rw [unescapeSlash]
  simp [h]

theorem unescapeSlash_escapeSlash {l : List Char} (h : '\\' ∉ l) :
    unescapeSlash (escapeSlash l) = l := by
  induction l with
  | nil => rfl
  | cons c l ih =>
    rw [List.mem_cons, not_or] at h
    rw [escapeSlash]
    split
    · next hc => rw [unescapeSlash, ih h.2, hc]
    · rw [unescapeSlash_cons (Ne.symm h.1), ih h.2]

theorem mem_escapeSlash {l : List Char} {c : Char} (h : c ∈ escapeSlash l) :
    (c ∈ l ∧ c ≠ '/') ∨ c ∈ ['\\', 'x', '2', 'F'] := by
  induction l with
  | nil => cases h
  | cons d l ih =>
    rw [escapeSlash] at h
    split at h
    · have hsplit : c ∈ ['\\', 'x', '2', 'F'] ∨ c ∈ escapeSlash l := List.mem_append.1 h
      rcases hsplit with h | h
      · exact .inr h
      · exact (ih h).imp_left fun h => ⟨List.mem_cons_of_mem _ h.1, h.2⟩
    · next hd =>
      rcases List.mem_cons.1 h with rfl | h
      · exact .inl ⟨List.mem_cons_self, hd⟩
      · exact (ih h).imp_left fun h => ⟨List.mem_cons_of_mem _ h.1, h.2⟩

/-- The keys whose names are directories. -/
def directoryKeys : List String := ["", ".", ".."]

/-- A key with a file. -/
def IsFileKey (key : String) : Prop := isValidKey key = true ∧ key ∉ directoryKeys

theorem notMem_of_isValidKey (h : isValidKey key = true) {c : Char}
    (hc : (c.isAlphanum || c == '-' || c == '_' || c == '.' || c == '/') = false) :
    c ∉ key.toList := by
  intro hmem
  rw [List.all_eq_true.1 h c hmem] at hc
  cases hc

theorem keyOf_fileName (h : isValidKey key = true) : keyOf (fileName key) = key := by
  rw [keyOf, fileName, String.toList_ofList,
    unescapeSlash_escapeSlash (notMem_of_isValidKey h (by decide)), String.ofList_toList]

theorem notMem_fileName (h : isValidKey key = true) {c : Char}
    (hc : (c.isAlphanum || c == '-' || c == '_' || c == '.' || c == '/') = false)
    (hescape : c ∉ ['\\', 'x', '2', 'F']) : c ∉ (fileName key).toList := by
  intro hmem
  rw [fileName, String.toList_ofList] at hmem
  rcases mem_escapeSlash hmem with hmem | hmem
  · exact notMem_of_isValidKey h hc hmem.1
  · exact hescape hmem

/-- The name of a key is the name of a file. -/
theorem isName_fileName (h : IsFileKey key) : FileSystem.IsName (fileName key) := by
  obtain ⟨hvalid, hkey⟩ := h
  have hne : ∀ name ∈ directoryKeys, fileName key ≠ name := by
    intro name hname heq
    have hback : key = keyOf name := by rw [← heq, keyOf_fileName hvalid]
    have hsame : keyOf name = name := by
      simp only [directoryKeys, List.mem_cons, List.not_mem_nil, or_false] at hname
      rcases hname with rfl | rfl | rfl <;> decide
    rw [hback, hsame] at hkey
    exact hkey hname
  refine ⟨hne _ (by simp [directoryKeys]), hne _ (by simp [directoryKeys]),
    hne _ (by simp [directoryKeys]), ?_⟩
  intro hmem
  rw [fileName, String.toList_ofList] at hmem
  rcases mem_escapeSlash hmem with hmem | hmem
  · exact hmem.2 rfl
  · exact absurd hmem (by decide)

theorem fileName_of_mem (h : key ∈ directoryKeys) :
    fileName key = "" ∨ fileName key = "." ∨ fileName key = ".." := by
  simp only [directoryKeys, List.mem_cons, List.not_mem_nil, or_false] at h
  rcases h with rfl | rfl | rfl <;> decide

/-- Valid keys, but those whose names are directories, and their files. -/
def naming : FileSystem.Naming String where
  IsKey := IsFileKey
  fileName := fileName
  isName_fileName _ h := isName_fileName h
  nul_notMem _ h := notMem_fileName h.1 (by decide) (by decide)
  fileName_inj key key' h h' heq := by
    rw [← keyOf_fileName h.1, heq, keyOf_fileName h'.1]

theorem naming_fileName (key : String) : naming.fileName key = fileName key := rfl

end LocalFs

/-! ## The directory -/

/-- The directory keeps the map. -/
abbrev LocalFs.Holds (store : LocalFs) (fs : FileSystem) (t : Table String Bytes) : Prop :=
  FileSystem.Keeps LocalFs.naming store.dirPath store.place fs t

namespace LocalFs.Holds

variable {store : LocalFs} {fs : FileSystem}

/-! ### Keys with files -/

/-- Overwriting writes the file. -/
theorem set_overwrite (h : store.Holds fs t) (hkey : IsFileKey key) (value : Bytes)
    (hoverwrite : parameters.overwrite = true) :
    (set store.dirPath fs key value parameters).1 = .ok () ∧
      store.Holds (set store.dirPath fs key value parameters).2 (t.insert key value) := by
  obtain ⟨fs', hwrite, hholds⟩ := h.write_key hkey value
  rw [naming_fileName] at hwrite
  have hset : set store.dirPath fs key value parameters = (.ok (), fs') := by
    simp [set, hkey.1, hoverwrite, hwrite]
  rw [hset]
  exact ⟨rfl, hholds⟩

/-- A key that is there is not overwritten. -/
theorem set_present (h : store.Holds fs t) (hkey : IsFileKey key) (value : Bytes)
    (hoverwrite : parameters.overwrite = false) (hpresent : t key ≠ none) :
    set store.dirPath fs key value parameters =
      (.error (.setKeyFailed "key already exists" key), fs) := by
  have hexists : fs.pathExists (FileSystem.join store.dirPath (fileName key)) = (t key).isSome :=
    h.pathExists_key hkey
  rw [Option.isSome_iff_ne_none.2 hpresent] at hexists
  simp [set, hkey.1, hoverwrite, hexists]

/-- A key that is written without overwriting exists then, which is an error. -/
theorem set_absent (h : store.Holds fs t) (hkey : IsFileKey key) (value : Bytes)
    (hoverwrite : parameters.overwrite = false) (habsent : t key = none) :
    (set store.dirPath fs key value parameters).1 =
      .error (.setKeyFailed "key already exists" key) := by
  obtain ⟨fs', hwrite, hholds⟩ := h.write_key hkey value
  rw [naming_fileName] at hwrite
  have hexists : fs.pathExists (FileSystem.join store.dirPath (fileName key)) = (t key).isSome :=
    h.pathExists_key hkey
  have hexists' : fs'.pathExists (FileSystem.join store.dirPath (fileName key)) = _ :=
    hholds.pathExists_key hkey
  rw [habsent, Option.isSome_none] at hexists
  rw [Table.insert_self, Option.isSome_some] at hexists'
  simp [set, hkey.1, hoverwrite, hexists, hwrite, hexists']

theorem get_eq (h : store.Holds fs t) (hkey : IsFileKey key) :
    get store.dirPath fs key = .ok (t key) := by
  have hexists : fs.pathExists (FileSystem.join store.dirPath (fileName key)) = (t key).isSome :=
    h.pathExists_key hkey
  cases hvalue : t key with
  | none =>
    rw [hvalue, Option.isSome_none] at hexists
    simp [get, hexists]
  | some value =>
    rw [hvalue, Option.isSome_some] at hexists
    have hread : fs.read (FileSystem.join store.dirPath (fileName key)) = .ok value :=
      (h.read_key hkey).2 hvalue
    simp [get, hexists, hread]

theorem delete_eq (h : store.Holds fs t) (hkey : IsFileKey key) :
    (delete store.dirPath fs key).1 = .ok (t key) ∧
      store.Holds (delete store.dirPath fs key).2 (t.erase key) := by
  have hexists : fs.pathExists (FileSystem.join store.dirPath (fileName key)) = (t key).isSome :=
    h.pathExists_key hkey
  cases hvalue : t key with
  | none =>
    rw [hvalue, Option.isSome_none] at hexists
    have herase : t.erase key = t := by
      funext k
      rw [Table.erase]
      split
      · next hk => rw [hk, hvalue]
      · rfl
    have hdelete : delete store.dirPath fs key = (.ok none, fs) := by simp [delete, hexists]
    rw [hdelete, herase]
    exact ⟨rfl, h⟩
  | some value =>
    rw [hvalue, Option.isSome_some] at hexists
    have hread : fs.read (FileSystem.join store.dirPath (fileName key)) = .ok value :=
      (h.read_key hkey).2 hvalue
    obtain ⟨fs', hremove, hholds⟩ := h.removeFile_key hkey hvalue
    rw [naming_fileName] at hremove
    have hdelete : delete store.dirPath fs key = (.ok (some value), fs') := by
      simp [delete, hexists, hread, hremove]
    rw [hdelete]
    exact ⟨rfl, hholds⟩

/-! ### Keys whose names are directories -/

theorem exists_directory (h : store.Holds fs t) (hkey : key ∈ directoryKeys) :
    ∃ p, fs.resolve (FileSystem.join store.dirPath (fileName key)) = .ok p ∧
      fs.isDir p = true ∧ fs.pathExists (FileSystem.join store.dirPath (fileName key)) = true := by
  obtain ⟨p, hresolve, hdir⟩ := FileSystem.exists_resolve_join_of_not_isName h.resolve h.isDir
    (fileName_of_mem hkey)
  exact ⟨p, hresolve, hdir, by rw [FileSystem.pathExists_eq hresolve, FileSystem.hasEntry, hdir]; rfl⟩

/-- Every call for such a key fails. -/
theorem set_directory (h : store.Holds fs t) (hkey : key ∈ directoryKeys) (value : Bytes)
    (parameters : SetParameters) : ∃ e, (set store.dirPath fs key value parameters).1 = .error e := by
  obtain ⟨p, hresolve, hdir, hexists⟩ := h.exists_directory hkey
  have hwrite := FileSystem.write_of_isDir hresolve hdir value
  unfold set
  cases parameters.overwrite <;> split <;> simp [hexists, hwrite]

theorem get_directory (h : store.Holds fs t) (hkey : key ∈ directoryKeys) :
    ∃ e, get store.dirPath fs key = .error e := by
  obtain ⟨p, hresolve, hdir, hexists⟩ := h.exists_directory hkey
  exact ⟨_, by simp [get, hexists, FileSystem.read_of_isDir hresolve hdir]; rfl⟩

theorem delete_directory (h : store.Holds fs t) (hkey : key ∈ directoryKeys) :
    ∃ e, (delete store.dirPath fs key).1 = .error e := by
  obtain ⟨p, hresolve, hdir, hexists⟩ := h.exists_directory hkey
  exact ⟨_, by simp [delete, hexists, FileSystem.read_of_isDir hresolve hdir]; rfl⟩

/-! ### Listing -/

theorem list_eq (listing : FileSystem.Listing) (h : store.Holds fs t) {l : List (String × Bytes)}
    (hl : Table.Enumerates l t) :
    Answers t .list ((list listing store.dirPath fs).map .keys) := by
  obtain ⟨hnodup, hmem⟩ := h.mem_names listing hl
  rw [list, FileSystem.readDir_eq listing h.resolve h.isDir]
  refine ⟨_, rfl, List.Nodup.map_on ?_ hnodup, ?_⟩
  · intro name hname name' hname' heq
    obtain ⟨key, hkey, rfl⟩ := (hmem name).1 hname
    obtain ⟨key', hkey', rfl⟩ := (hmem name').1 hname'
    have hback : keyOf (naming.fileName key) = key := keyOf_fileName (h.keys key hkey).1
    have hback' : keyOf (naming.fileName key') = key' := keyOf_fileName (h.keys key' hkey').1
    rw [hback, hback'] at heq
    rw [heq]
  · intro key
    rw [List.mem_map]
    constructor
    · rintro ⟨name, hname, rfl⟩
      obtain ⟨key, hkey, rfl⟩ := (hmem name).1 hname
      have hback : keyOf (naming.fileName key) = key := keyOf_fileName (h.keys key hkey).1
      rwa [hback]
    · intro hsome
      exact ⟨naming.fileName key, (hmem _).2 ⟨key, hsome, rfl⟩,
        keyOf_fileName (h.keys key hsome).1⟩

end LocalFs.Holds

/-- The key has a file, and an absent key is only set with overwriting. -/
def MeetsLocalFs (t : Table String Bytes) : Op → Prop
  | .set key _ parameters =>
    key ∉ ["", ".", ".."] ∧ (parameters.overwrite = true ∨ t key ≠ none)
  | .get key | .delete key => key ∉ ["", ".", ".."]
  | .list => True

namespace LocalFs.Holds

variable {store : LocalFs} {fs : FileSystem}

/-- Only `set` with overwriting, or of a key that is there, is answered from the map. -/
theorem step_set (h : store.Holds fs t) (hkey : IsFileKey key) (value : Bytes)
    (parameters : SetParameters) :
    (Answers t (.set key value parameters)
        ((set store.dirPath fs key value parameters).1.map fun _ => .done) ↔
      parameters.overwrite = true ∨ t key ≠ none) ∧
    (parameters.overwrite = true ∨ t key ≠ none →
      store.Holds (set store.dirPath fs key value parameters).2
        (next t (.set key value parameters))) := by
  by_cases hoverwrite : parameters.overwrite = true
  · obtain ⟨hok, hholds⟩ := h.set_overwrite hkey value hoverwrite
    rw [next, if_pos (.inl hoverwrite)]
    exact ⟨iff_of_true ((answers_set_iff (.inl hoverwrite)).2 (congrArg (Except.map _) hok))
      (.inl hoverwrite), fun _ => hholds⟩
  · rw [Bool.not_eq_true] at hoverwrite
    by_cases habsent : t key = none
    · have herror := h.set_absent hkey value hoverwrite habsent
      simp [Answers, hoverwrite, habsent, herror, Except.map]
    · have herror := h.set_present hkey value hoverwrite habsent
      rw [next, if_neg (by simp [hoverwrite, habsent]), herror]
      refine ⟨iff_of_true ?_ (.inr habsent), fun _ => h⟩
      rw [Answers, if_neg (by simp [hoverwrite, habsent])]
      exact ⟨_, rfl⟩

/-- The map answers no call for such a key with an error. -/
theorem eq_none_of_directory (h : store.Holds fs t) (hkey : key ∈ directoryKeys) : t key = none := by
  by_contra hne
  exact (h.keys key (Option.isSome_iff_ne_none.2 hne)).2 hkey

theorem answers_set_iff (h : store.Holds fs t) (hvalid : isValidKey key = true) (value : Bytes)
    (parameters : SetParameters) :
    (Answers t (.set key value parameters)
        (answer (fun _ => .done) (set store.dirPath fs key value parameters)).1 ↔
      MeetsLocalFs t (.set key value parameters)) ∧
    (MeetsLocalFs t (.set key value parameters) →
      store.Holds (answer (fun _ => .done) (set store.dirPath fs key value parameters)).2
        (next t (.set key value parameters))) := by
  rw [answer]
  by_cases hkey : key ∈ directoryKeys
  · obtain ⟨e, herror⟩ := h.set_directory hkey value parameters
    have hanswers : ¬ Answers t (.set key value parameters) (.error e) := by
      simp [Answers, h.eq_none_of_directory hkey]
    rw [herror]
    exact ⟨iff_of_false hanswers fun hmeets => hmeets.1 hkey, fun hmeets => absurd hkey hmeets.1⟩
  · obtain ⟨hiff, hholds⟩ := h.step_set ⟨hvalid, hkey⟩ value parameters
    exact ⟨hiff.trans (and_iff_right hkey).symm, fun hmeets => hholds hmeets.2⟩

theorem answers_get_iff (h : store.Holds fs t) (hvalid : isValidKey key = true) :
    Answers t (.get key) (answer .value (get store.dirPath fs key, fs)).1 ↔
      MeetsLocalFs t (.get key) := by
  rw [answer]
  by_cases hkey : key ∈ directoryKeys
  · obtain ⟨e, herror⟩ := h.get_directory hkey
    rw [herror]
    exact iff_of_false (by simp [Answers, Except.map]) fun hmeets => hmeets hkey
  · rw [h.get_eq ⟨hvalid, hkey⟩]
    exact iff_of_true rfl hkey

theorem answers_delete_iff (h : store.Holds fs t) (hvalid : isValidKey key = true) :
    (Answers t (.delete key) (answer .value (delete store.dirPath fs key)).1 ↔
      MeetsLocalFs t (.delete key)) ∧
    (MeetsLocalFs t (.delete key) →
      store.Holds (answer .value (delete store.dirPath fs key)).2 (next t (.delete key))) := by
  rw [answer]
  by_cases hkey : key ∈ directoryKeys
  · obtain ⟨e, herror⟩ := h.delete_directory hkey
    rw [herror]
    exact ⟨iff_of_false (by simp [Answers, Except.map]) fun hmeets => hmeets hkey,
      fun hmeets => absurd hkey hmeets⟩
  · obtain ⟨hok, hholds⟩ := h.delete_eq ⟨hvalid, hkey⟩
    rw [hok, next]
    dsimp only
    exact ⟨iff_of_true rfl hkey, fun _ => hholds⟩

end LocalFs.Holds

/-- The directory holds the map, as long as keys have files and are set with overwriting when they
are absent. -/
def Backend.localFsRepresents (store : LocalFs) :
    (Backend.localFs store).storage.Represents MeetsLocalFs where
  Rep := store.Holds
  empty := FileSystem.Keeps.empty LocalFs.naming store
  step := by
    intro s t l order op h hl hvalid
    cases op with
    | set key value parameters => exact h.answers_set_iff hvalid value parameters
    | list => exact ⟨iff_of_true (h.list_eq order hl) trivial, fun _ => h⟩
    | get key =>
      constructor
      · exact LocalFs.Holds.answers_get_iff h hvalid
      · exact fun _ => h
    | delete key => exact LocalFs.Holds.answers_delete_iff h hvalid

/-! ## The backends -/

/-- When a backend answers an operation from the map. -/
def Backend.Meets : Backend → Table String Bytes → Op → Prop
  | .memory => fun _ _ => True
  | .localJson => MeetsLocalJson
  | .localFs _ => MeetsLocalFs
  | .postgres _ => MeetsPostgres

/-- Each backend represents the map under its condition. -/
def Backend.represents : (backend : Backend) → backend.storage.Represents backend.Meets
  | .memory => memoryRepresents
  | .localJson => localJsonRepresents
  | .localFs store => localFsRepresents store
  | .postgres table => postgresRepresents table

/-- **A backend implements the map on a sequence of operations exactly when each of them meets its
condition**, in the map that those before it leave. -/
theorem Backend.implements_iff (backend : Backend) (ops : List Op)
    (hvalid : ∀ op ∈ ops, op.IsValid) :
    backend.storage.Implements ops ↔ EachMeets backend.Meets ops :=
  backend.represents.eachMeets_iff hvalid

/-- A row that is there is asked for. -/
theorem Backend.implements_postgres : (Backend.postgres "key_value").storage.Implements
    [.set "test" [116] ⟨true⟩, .get "test"] := by
  refine (Backend.implements_iff (.postgres "key_value") _ ?_).2 ?_
  · intro op hop
    simp only [List.mem_cons, List.not_mem_nil, or_false] at hop
    rcases hop with rfl | rfl
    · exact (by decide : isValidKey "test" = true)
    · exact (by decide : isValidKey "test" = true)
  · have hset : EachMeets MeetsPostgres ([] ++ [.set "test" [116] ⟨true⟩]) :=
      eachMeets_concat.2 ⟨eachMeets_nil, trivial⟩
    exact eachMeets_concat.2 ⟨hset, by simp [MeetsPostgres, contents, next]⟩

/-- A key is set twice in a JSON file, the second time with overwriting, which the file refuses. -/
theorem Backend.not_implements_localJson : ¬ ∀ (backend : Backend) (ops : List Op),
    (∀ op ∈ ops, op.IsValid) → backend.storage.Implements ops := by
  intro h
  have hvalid : ∀ op ∈ [Op.set "test" [1] ⟨true⟩] ++ [.set "test" [2] ⟨true⟩], op.IsValid := by
    intro op hop
    simp only [List.cons_append, List.nil_append, List.mem_cons, List.not_mem_nil, or_false] at hop
    rcases hop with rfl | rfl
    · exact (by decide : isValidKey "test" = true)
    · exact (by decide : isValidKey "test" = true)
  have hmeets := (localJsonRepresents.eachMeets_iff hvalid).1 (h .localJson _ hvalid)
  exact absurd (eachMeets_concat.1 hmeets).2 (by simp [MeetsLocalJson, contents, next])

end Trustmee.KeyValue
