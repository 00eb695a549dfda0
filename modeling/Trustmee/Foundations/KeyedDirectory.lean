import Trustmee.Foundations.FileSystem

/-!
# A directory with a file for each key

A store that keeps the value of a key in a file of a directory, whose name it makes of the key, is a
table as long as different keys have different names (`Naming`). The directory keeps a table
(`Keeps`): a write inserts a value, a removal erases it, a read finds it, and the names of the
directory are those of the keys.
-/

namespace Trustmee.FileSystem

/-- A path that leads to an empty directory. -/
structure EmptyDirectory where
  dirPath : String
  fs : FileSystem
  place : Place
  resolve_dirPath : fs.resolve dirPath = .ok place
  isDir_place : fs.isDir place = true
  hasEntry_place : ∀ name, fs.hasEntry (place ++ [name]) = false

/-- How files are named after keys. -/
structure Naming (κ : Type) where
  IsKey : κ → Prop
  fileName : κ → String
  isName_fileName : ∀ key, IsKey key → IsName (fileName key)
  nul_notMem : ∀ key, IsKey key → Char.ofNat 0 ∉ (fileName key).toList
  fileName_inj : ∀ key key', IsKey key → IsKey key' → fileName key = fileName key' → key = key'

variable {κ : Type} {N : Naming κ} {path : String} {place : Place} {fs : FileSystem}
  {t : Table κ Bytes} {key : κ} {value : Bytes}

/-- The files of the directory are the values of the keys. -/
structure Keeps (N : Naming κ) (path : String) (place : Place) (fs : FileSystem)
    (t : Table κ Bytes) : Prop where
  resolve : fs.resolve path = .ok place
  isDir : fs.isDir place = true
  isDir_child : ∀ name, fs.isDir (place ++ [name]) = false
  files : ∀ key, N.IsKey key → fs.files (place ++ [N.fileName key]) = t key
  names : ∀ name, (fs.files (place ++ [name])).isSome = true →
    ∃ key, N.IsKey key ∧ name = N.fileName key
  keys : ∀ key, (t key).isSome = true → N.IsKey key

namespace Keeps

/-- An empty directory keeps the empty table. -/
theorem empty (N : Naming κ) (D : EmptyDirectory) : Keeps N D.dirPath D.place D.fs .empty := by
  have hchild : ∀ name, D.fs.isDir (D.place ++ [name]) = false ∧
      (D.fs.files (D.place ++ [name])).isSome = false :=
    fun name => Bool.or_eq_false_iff.1 (D.hasEntry_place name)
  refine ⟨D.resolve_dirPath, D.isDir_place, fun name => (hchild name).1, ?_, ?_, ?_⟩
  · intro key _
    simpa using (hchild (N.fileName key)).2
  · intro name hname
    rw [(hchild name).2] at hname
    cases hname
  · intro key hkey
    cases hkey

/-- Where the file of a key is. -/
theorem resolve_key (h : Keeps N path place fs t) (hkey : N.IsKey key) :
    fs.resolve (join path (N.fileName key)) = .ok (place ++ [N.fileName key]) :=
  resolve_join_name h.resolve h.isDir (N.isName_fileName key hkey) (N.nul_notMem key hkey)

theorem pathExists_key (h : Keeps N path place fs t) (hkey : N.IsKey key) :
    fs.pathExists (join path (N.fileName key)) = (t key).isSome := by
  rw [pathExists_eq (h.resolve_key hkey), hasEntry_eq (h.isDir_child _), h.files key hkey]

theorem read_key (h : Keeps N path place fs t) (hkey : N.IsKey key) :
    fs.read (join path (N.fileName key)) = .ok value ↔ t key = some value := by
  rw [read_eq_ok (h.resolve_key hkey), h.files key hkey]

theorem child_eq_iff (place : Place) {key' : κ} (hkey : N.IsKey key) (hkey' : N.IsKey key') :
    place ++ [N.fileName key'] = place ++ [N.fileName key] ↔ key' = key := by
  constructor
  · intro heq
    exact N.fileName_inj _ _ hkey' hkey (by simpa using heq)
  · rintro rfl
    rfl

variable [DecidableEq κ]

theorem write_key (h : Keeps N path place fs t) (hkey : N.IsKey key) (value : Bytes) :
    ∃ fs', fs.write (join path (N.fileName key)) value = .ok fs' ∧
      Keeps N path place fs' (t.insert key value) := by
  refine ⟨_, write_eq (h.resolve_key hkey) (h.isDir_child _) value, resolve_put h.resolve, h.isDir,
    h.isDir_child, ?_, ?_, ?_⟩
  · intro key' hkey'
    rw [files_put, Table.insert_apply, Table.insert_apply, h.files key' hkey']
    exact if_congr (child_eq_iff place hkey hkey') rfl rfl
  · intro name hname
    rw [files_put, Table.insert_apply] at hname
    split at hname
    · next heq => exact ⟨key, hkey, by simpa using heq⟩
    · exact h.names name hname
  · intro key' hkey'
    rw [Table.insert_apply] at hkey'
    split at hkey'
    · next heq => exact heq ▸ hkey
    · exact h.keys key' hkey'

theorem removeFile_key (h : Keeps N path place fs t) (hkey : N.IsKey key)
    (hvalue : t key = some value) :
    ∃ fs', fs.removeFile (join path (N.fileName key)) = .ok fs' ∧
      Keeps N path place fs' (t.erase key) := by
  have hfile : fs.files (place ++ [N.fileName key]) = some value := (h.files key hkey).trans hvalue
  refine ⟨_, removeFile_eq (h.resolve_key hkey) hfile, resolve_drop h.resolve, h.isDir,
    h.isDir_child, ?_, ?_, ?_⟩
  · intro key' hkey'
    rw [files_drop, Table.erase, Table.erase, h.files key' hkey']
    exact if_congr (child_eq_iff place hkey hkey') rfl rfl
  · intro name hname
    rw [files_drop, Table.erase] at hname
    split at hname
    · cases hname
    · exact h.names name hname
  · intro key' hkey'
    rw [Table.erase] at hkey'
    split at hkey'
    · cases hkey'
    · exact h.keys key' hkey'

omit [DecidableEq κ] in
/-- The names of the directory are those of the keys. -/
theorem lists_fileNames (h : Keeps N path place fs t) {l : List (κ × Bytes)}
    (hl : Table.Enumerates l t) : fs.Lists place (l.map fun p => N.fileName p.1) := by
  constructor
  · have hnodup : ((l.map Prod.fst).map N.fileName).Nodup := by
      refine List.Nodup.map_on ?_ hl.nodup
      intro key hkey key' hkey' heq
      exact N.fileName_inj _ _ (h.keys key (hl.mem_keys.1 hkey)) (h.keys key' (hl.mem_keys.1 hkey'))
        heq
    rwa [List.map_map] at hnodup
  · intro name
    rw [hasEntry_eq (h.isDir_child name)]
    constructor
    · intro hmem
      obtain ⟨p, hp, rfl⟩ := List.mem_map.1 hmem
      have hsome : (t p.1).isSome = true := hl.mem_keys.1 (List.mem_map_of_mem hp)
      rwa [h.files p.1 (h.keys p.1 hsome)]
    · intro hsome
      obtain ⟨key, hkey, rfl⟩ := h.names name hsome
      rw [h.files key hkey] at hsome
      obtain ⟨value, hvalue⟩ := Option.isSome_iff_exists.1 hsome
      exact List.mem_map.2 ⟨(key, value), (hl.mem_iff _ _).2 hvalue, rfl⟩

omit [DecidableEq κ] in
/-- What `read_dir` gives is the names of the keys, once each. -/
theorem mem_names (h : Keeps N path place fs t) (listing : Listing) {l : List (κ × Bytes)}
    (hl : Table.Enumerates l t) : (listing.names fs place).Nodup ∧
      ∀ name, name ∈ listing.names fs place ↔
        ∃ key, (t key).isSome = true ∧ name = N.fileName key := by
  obtain ⟨hnodup, hmem⟩ := listing.lists _ _ _ (h.lists_fileNames hl)
  refine ⟨hnodup, ?_⟩
  intro name
  rw [hmem, hasEntry_eq (h.isDir_child name)]
  constructor
  · intro hsome
    obtain ⟨key, hkey, rfl⟩ := h.names name hsome
    exact ⟨key, by rwa [← h.files key hkey], rfl⟩
  · rintro ⟨key, hsome, rfl⟩
    rwa [h.files key (h.keys key hsome)]

end Keeps

end Trustmee.FileSystem
