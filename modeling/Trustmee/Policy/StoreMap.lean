import Trustmee.Foundations.KeyedDirectory
import Trustmee.Policy.Confinement

/-!
# The store of policies as a map

Started on an empty directory, `set_policy` makes a map from identifiers to policies: what is kept
for an identifier is the policy that was last set with overwriting, or else the first (`current`).
`get_policy` and `evaluate` give it, and `list_policies` gives its digest, for every identifier but
one: the file of the empty identifier, `.rego`, has no extension, and is not listed
(`isMap_iff`).
-/

namespace Trustmee.Policy

/-- A call of `set_policy`. -/
structure SetCall where
  policyId : String
  policy : String
  overwrite : Bool

/-- The policy that a call brings. -/
def SetCall.content (c : SetCall) : Bytes := (Base64.decodeUrlSafeNoPad c.policy).getD []

/-- What is kept for an identifier after accepted calls: the policy that was last set with
overwriting, or else the first. -/
def current (accepted : List SetCall) (policyId : String) : Option Bytes :=
  match (accepted.filter fun c => c.policyId = policyId ∧ c.overwrite).getLast? with
  | some c => some c.content
  | none => (accepted.find? fun c => c.policyId = policyId).map SetCall.content

namespace Store

variable (S : Store)

/-- `set_policy`. -/
def set (c : SetCall) : StoreM Unit := S.setPolicy c.policyId c.policy c.overwrite

/-- The files after calls. -/
def after (fs : FileSystem) (calls : List SetCall) : FileSystem :=
  calls.foldl (fun fs c => ((S.set c).run fs).state) fs

/-- The calls that are accepted. -/
def accepted : FileSystem → List SetCall → List SetCall
  | _, [] => []
  | fs, c :: calls =>
    match ((S.set c).run fs).result with
    | .ok _ => c :: accepted ((S.set c).run fs).state calls
    | .error _ => accepted ((S.set c).run fs).state calls

/-- The digest of a policy. -/
def digest (policy : Bytes) : String := Base64.encodeUrlSafeNoPad (S.sha384 policy)

end Store

/-- The store is a map after the calls: a call that failed changed nothing, the identifiers of the
accepted calls are listed with the digests of what is kept for them, it is what `get_policy` and
`evaluate` read, and a call for one identifier does not change what another has. -/
structure IsMap (S : Store) (fs : FileSystem) (calls : List SetCall) : Prop where
  unchanged : ∀ before c rest, calls = before ++ c :: rest →
    (∃ e, ((S.set c).run (S.after fs before)).result = .error e) →
      ((S.set c).run (S.after fs before)).state = S.after fs before
  listed : ∀ listing, ∃ policyList, S.listPolicies listing (S.after fs calls) = .ok policyList ∧
    (∀ policyId, (policyList policyId).isSome = true ↔
      ∃ c ∈ S.accepted fs calls, c.policyId = policyId) ∧
    ∀ policyId b, current (S.accepted fs calls) policyId = some b →
      policyList policyId = some (S.digest b)
  read : ∀ policyId b, current (S.accepted fs calls) policyId = some b →
    ((S.getPolicy policyId).run (S.after fs calls)).result = .ok (Base64.encodeUrlSafeNoPad b)
  evaluated : ∀ policyId b, current (S.accepted fs calls) policyId = some b →
    ∃ policy, fromUtf8 b = some policy ∧
      ∀ (α : Type) (engine : String → String → Except PolicyError α),
        ((S.evaluate engine policyId).run (S.after fs calls)).result = engine policyId policy
  separate : ∀ c ∈ S.accepted fs calls, ∀ other, other.policyId ≠ c.policyId →
    ((S.getPolicy c.policyId).run (S.after fs (calls ++ [other]))).result =
      ((S.getPolicy c.policyId).run (S.after fs calls)).result

variable {S : Store} {fs : FileSystem} {place : Place} {t : Table String Bytes}
  {policyId policy : String} {overwrite : Bool} {acc calls : List SetCall}

/-! ## What is kept -/

theorem getLast?_overwriting_concat (acc : List SetCall) (c : SetCall) (policyId : String) :
    ((acc ++ [c]).filter fun c => c.policyId = policyId ∧ c.overwrite).getLast? =
      if c.policyId = policyId ∧ c.overwrite = true then some c
      else (acc.filter fun c => c.policyId = policyId ∧ c.overwrite).getLast? := by
  rw [List.filter_append]
  split
  · next h => rw [List.filter_cons_of_pos (by simpa using h), List.filter_nil, List.getLast?_concat]
  · next h => rw [List.filter_cons_of_neg (by simpa using h), List.filter_nil, List.append_nil]

/-- A call replaces what is kept for its identifier, if it overwrites or nothing is kept. -/
theorem current_concat (acc : List SetCall) (c : SetCall) : current (acc ++ [c]) =
    if c.overwrite = true ∨ current acc c.policyId = none then
      Table.insert (current acc) c.policyId c.content
    else current acc := by
  funext policyId
  rw [current, getLast?_overwriting_concat, List.find?_append]
  by_cases hid : c.policyId = policyId
  · subst hid
    cases hoverwrite : c.overwrite with
    | true => simp
    | false =>
      cases hlast : (acc.filter fun d => d.policyId = c.policyId ∧ d.overwrite).getLast? with
      | some d =>
        have hcurrent : current acc c.policyId = some d.content := by rw [current, hlast]
        rw [hcurrent, if_neg (by simp), if_neg (by simp), hcurrent]
      | none =>
        have hcurrent : current acc c.policyId =
            (acc.find? fun d => d.policyId = c.policyId).map SetCall.content := by
          rw [current, hlast]
        rw [if_neg (by simp), hcurrent]
        cases hfirst : acc.find? fun d => d.policyId = c.policyId with
        | some d =>
          rw [hfirst] at hcurrent
          rw [if_neg (by simp), hcurrent]
          simp
        | none => simp
  · have hother : (if c.overwrite = true ∨ current acc c.policyId = none then
        Table.insert (current acc) c.policyId c.content else current acc) policyId =
          current acc policyId := by
      split
      · exact Table.insert_of_ne _ _ (Ne.symm hid)
      · rfl
    rw [hother, if_neg (fun h => hid h.1), current]
    simp [hid]

/-- Something is kept for the identifiers of the calls. -/
theorem isSome_current : (current acc policyId).isSome = true ↔ ∃ c ∈ acc, c.policyId = policyId := by
  induction acc using List.reverseRecOn with
  | nil => simp [current]
  | append_singleton acc c ih =>
    rw [current_concat]
    by_cases hid : c.policyId = policyId
    · subst hid
      have hkept : (if c.overwrite = true ∨ current acc c.policyId = none then
          Table.insert (current acc) c.policyId c.content
          else current acc) c.policyId ≠ none := by
        split
        · simp
        · next h => exact fun hnone => h (.inr hnone)
      exact iff_of_true (Option.isSome_iff_ne_none.2 hkept) ⟨c, by simp⟩
    · have hother : (if c.overwrite = true ∨ current acc c.policyId = none then
          Table.insert (current acc) c.policyId c.content else current acc) policyId =
            current acc policyId := by
        split
        · exact Table.insert_of_ne _ _ (Ne.symm hid)
        · rfl
      rw [hother, ih]
      simp [or_and_right, exists_or, hid]

theorem exists_enumerates_current (acc : List SetCall) :
    ∃ l, Table.Enumerates l (current acc) := by
  induction acc using List.reverseRecOn with
  | nil => exact ⟨[], Table.Enumerates.nil⟩
  | append_singleton acc c ih =>
    obtain ⟨l, h⟩ := ih
    rw [current_concat]
    split
    · exact ⟨_, h.insert _ _⟩
    · exact ⟨l, h⟩

/-! ## The directory -/

/-- The files of valid identifiers. -/
def naming (S : Store) : FileSystem.Naming String where
  IsKey policyId := S.isValidPolicyId policyId = true
  fileName policyId := policyId ++ ".rego"
  isName_fileName _ h := isName_rego (notMem_of_isValidPolicyId h (by decide) (by decide))
  nul_notMem _ h := by
    rw [String.toList_append, List.mem_append, not_or]
    exact ⟨notMem_of_isValidPolicyId h (by decide) (by decide), by decide⟩
  fileName_inj _ _ _ _ h := by simpa using h

theorem naming_fileName (S : Store) (policyId : String) :
    (naming S).fileName policyId = policyId ++ ".rego" := rfl

/-- The directory keeps the policies. -/
abbrev Holds (S : Store) (place : Place) (fs : FileSystem) (t : Table String Bytes) : Prop :=
  FileSystem.Keeps (naming S) S.policyDirPath place fs t

/-! ## Calls one after the other -/

theorem after_concat (fs : FileSystem) (calls : List SetCall) (c : SetCall) :
    S.after fs (calls ++ [c]) = ((S.set c).run (S.after fs calls)).state := by
  rw [Store.after, Store.after, List.foldl_append]
  rfl

theorem accepted_concat_of_ok {c : SetCall} {u : Unit}
    (h : ((S.set c).run (S.after fs calls)).result = .ok u) :
    S.accepted fs (calls ++ [c]) = S.accepted fs calls ++ [c] := by
  induction calls generalizing fs with
  | nil =>
    change ((S.set c).run fs).result = .ok u at h
    simp [Store.accepted, h]
  | cons d calls ih =>
    have hrest : S.accepted ((S.set d).run fs).state (calls ++ [c]) =
        S.accepted ((S.set d).run fs).state calls ++ [c] := ih h
    rw [List.cons_append, Store.accepted, Store.accepted]
    split
    · rw [hrest, List.cons_append]
    · exact hrest

theorem accepted_concat_of_error {c : SetCall} {e : PolicyError}
    (h : ((S.set c).run (S.after fs calls)).result = .error e) :
    S.accepted fs (calls ++ [c]) = S.accepted fs calls := by
  induction calls generalizing fs with
  | nil =>
    change ((S.set c).run fs).result = .error e at h
    simp [Store.accepted, h]
  | cons d calls ih =>
    have hrest : S.accepted ((S.set d).run fs).state (calls ++ [c]) =
        S.accepted ((S.set d).run fs).state calls := ih h
    rw [List.cons_append, Store.accepted, Store.accepted]
    split
    · rw [hrest]
    · exact hrest

/-- A call that is accepted passed the checks. -/
theorem exists_checkPolicy_of_accepted {c : SetCall} (h : c ∈ S.accepted fs calls) :
    ∃ b, S.checkPolicy c.policyId c.policy = .ok b := by
  induction calls generalizing fs with
  | nil => cases h
  | cons d calls ih =>
    rw [Store.accepted] at h
    split at h
    · next hok =>
      rcases List.mem_cons.1 h with rfl | hrest
      · cases hcheck : S.checkPolicy c.policyId c.policy with
        | ok b => exact ⟨b, rfl⟩
        | error e =>
          rw [Store.set, run_setPolicy_of_error hcheck] at hok
          cases hok
      · exact ih hrest
    · exact ih h

/-! ## A call of the store -/

theorem run_writeFile {path : String} {b : Bytes} {fs' : FileSystem}
    (h : fs.write path b = .ok fs') :
    (writeFile path b).run fs = ⟨.ok (), [.write path], fs'⟩ := by
  have hnul : Char.ofNat 0 ∉ path.toList := by
    intro hnul
    rw [FileSystem.write, FileSystem.resolve, if_pos hnul] at h
    cases h
  unfold Traced.run writeFile callFile
  rw [FileCall.path, if_neg hnul]
  simp only [h]
  rfl

theorem run_pathExists {path : String} {p : Place} (h : fs.resolve path = .ok p) :
    (pathExists path).run fs = ⟨.ok (fs.pathExists path), [.exists path], fs⟩ :=
  if_neg (FileSystem.resolve_eq_ok.1 h).1

/-- What passes the checks goes on to the file. -/
theorem run_setPolicy_of_ok {b : Bytes} {calls : List FileCall} {fs' : FileSystem}
    (hcheck : S.checkPolicy policyId policy = .ok b)
    (h : (if overwrite then writeFile (S.policyFilePath policyId) b
      else pathExists (S.policyFilePath policyId) >>= fun found =>
        if found then pure () else writeFile (S.policyFilePath policyId) b).run fs =
          ⟨.ok (), calls, fs'⟩) :
    (S.setPolicy policyId policy overwrite).run fs = ⟨.ok (), calls, fs'⟩ := by
  have hlift : (Traced.lift (S.checkPolicy policyId policy) : StoreM Bytes).run fs =
      ⟨.ok b, [], fs⟩ := by rw [hcheck, Traced.run_lift]
  exact Traced.run_bind_eq_ok.2 ⟨b, [], fs, calls, hlift, h, rfl⟩

/-- An accepted call inserts its policy, if it overwrites or the identifier has none. -/
theorem run_set (h : Holds S place fs t) (c : SetCall) {b : Bytes}
    (hcheck : S.checkPolicy c.policyId c.policy = .ok b) :
    ((S.set c).run fs).result = .ok () ∧ Holds S place ((S.set c).run fs).state
      (if c.overwrite = true ∨ t c.policyId = none then t.insert c.policyId b else t) := by
  have hvalid : (naming S).IsKey c.policyId := (checkPolicy_eq_ok_iff.1 hcheck).2.1
  obtain ⟨fs', hwrite, hholds⟩ := h.write_key hvalid b
  have hwritten := run_writeFile hwrite
  have hexists := run_pathExists (h.resolve_key hvalid)
  rw [h.pathExists_key hvalid] at hexists
  have hrun : ∃ calls, (S.set c).run fs = ⟨.ok (), calls,
      if c.overwrite = true ∨ t c.policyId = none then fs' else fs⟩ := by
    cases hoverwrite : c.overwrite with
    | true =>
      rw [if_pos (.inl rfl)]
      refine ⟨[.write (S.policyFilePath c.policyId)], run_setPolicy_of_ok hcheck ?_⟩
      rw [hoverwrite, if_pos rfl]
      exact hwritten
    | false =>
      cases hkept : t c.policyId with
      | some kept =>
        rw [hkept] at hexists
        rw [if_neg (by simp)]
        refine ⟨[.exists (S.policyFilePath c.policyId)], run_setPolicy_of_ok hcheck ?_⟩
        rw [hoverwrite, if_neg (by simp)]
        exact Traced.run_bind_eq_ok.2 ⟨true, _, fs, [], hexists, rfl, rfl⟩
      | none =>
        rw [hkept] at hexists
        rw [if_pos (.inr rfl)]
        refine ⟨[.exists (S.policyFilePath c.policyId), .write (S.policyFilePath c.policyId)],
          run_setPolicy_of_ok hcheck ?_⟩
        rw [hoverwrite, if_neg (by simp)]
        exact Traced.run_bind_eq_ok.2 ⟨false, _, fs, _, hexists, hwritten, rfl⟩
  obtain ⟨calls, hrun⟩ := hrun
  rw [hrun]
  refine ⟨rfl, ?_⟩
  dsimp only
  split
  · exact hholds
  · exact h

/-- **After any calls the directory keeps what is current.** -/
theorem holds_after (D : FileSystem.EmptyDirectory) (hdir : D.dirPath = S.policyDirPath)
    (calls : List SetCall) :
    Holds S D.place (S.after D.fs calls) (current (S.accepted D.fs calls)) := by
  induction calls using List.reverseRecOn with
  | nil =>
    have hempty : current [] = Table.empty := by
      funext policyId
      rfl
    change Holds S D.place D.fs (current [])
    rw [hempty, Holds, ← hdir]
    exact FileSystem.Keeps.empty (naming S) D
  | append_singleton calls c ih =>
    rw [after_concat]
    cases hcheck : S.checkPolicy c.policyId c.policy with
    | error e =>
      have hrun : (S.set c).run (S.after D.fs calls) = ⟨.error e, [], S.after D.fs calls⟩ :=
        run_setPolicy_of_error hcheck
      have herror : ((S.set c).run (S.after D.fs calls)).result = .error e := by rw [hrun]
      rw [accepted_concat_of_error herror, hrun]
      exact ih
    | ok b =>
      obtain ⟨hok, hholds⟩ := run_set ih c hcheck
      have hcontent : c.content = b := by
        rw [SetCall.content, (checkPolicy_eq_ok_iff.1 hcheck).1]
        rfl
      rw [accepted_concat_of_ok hok, current_concat, hcontent]
      exact hholds

/-- The calls that are accepted are those that pass the checks. -/
theorem mem_accepted (D : FileSystem.EmptyDirectory) (hdir : D.dirPath = S.policyDirPath)
    {calls : List SetCall} {c : SetCall} : c ∈ S.accepted D.fs calls ↔
      c ∈ calls ∧ ∃ b, S.checkPolicy c.policyId c.policy = .ok b := by
  induction calls using List.reverseRecOn with
  | nil => simp [Store.accepted]
  | append_singleton calls d ih =>
    rw [List.mem_append, List.mem_singleton, or_and_right, ← ih]
    cases hcheck : S.checkPolicy d.policyId d.policy with
    | error e =>
      have herror : ((S.set d).run (S.after D.fs calls)).result = .error e := by
        rw [Store.set, run_setPolicy_of_error hcheck]
      have hrefused : ¬ (c = d ∧ ∃ b, S.checkPolicy c.policyId c.policy = .ok b) := by
        rintro ⟨rfl, b, hb⟩
        cases hcheck.symm.trans hb
      rw [accepted_concat_of_error herror, or_iff_left hrefused]
    | ok b =>
      rw [accepted_concat_of_ok (run_set (holds_after D hdir calls) d hcheck).1, List.mem_append,
        List.mem_singleton]
      refine or_congr_right ⟨?_, And.left⟩
      rintro rfl
      exact ⟨rfl, b, hcheck⟩

/-! ## The list of policies -/

/-- The file name of an identifier is taken apart again, unless the identifier is empty. -/
theorem splitExtension_rego (policyId : String) : Store.splitExtension (policyId ++ ".rego") =
    if policyId = "" then (".rego", none) else (policyId, some "rego") := by
  have hlist : (policyId ++ ".rego").toList.reverse =
      ['o', 'g', 'e', 'r', '.'] ++ policyId.toList.reverse := by simp
  have hdots : policyId ++ ".rego" ≠ ".." := by
    intro heq
    have hlength := congrArg String.length heq
    rw [String.length_append] at hlength
    have hrego : ".rego".length = 5 := by decide
    have htwo : "..".length = 2 := by decide
    omega
  rw [Store.splitExtension, if_neg hdots, hlist]
  by_cases hempty : policyId = ""
  · rw [hempty]
    rfl
  · rw [if_neg hempty]
    obtain ⟨c, l, hcons⟩ := List.exists_cons_of_ne_nil
      (show policyId.toList.reverse ≠ [] by simpa using hempty)
    have hback : (c :: l).reverse = policyId.toList := by
      rw [← hcons, List.reverse_reverse]
    have hdrop : (['o', 'g', 'e', 'r', '.'] ++ policyId.toList.reverse).dropWhile (· ≠ '.') =
        '.' :: c :: l := by
      rw [hcons]
      rfl
    have htake : (['o', 'g', 'e', 'r', '.'] ++ policyId.toList.reverse).takeWhile (· ≠ '.') =
        ['o', 'g', 'e', 'r'] := rfl
    rw [hdrop, htake]
    dsimp only
    rw [hback, String.ofList_toList]
    rfl

/-- The identifiers that are listed are those that are kept, without the empty one. -/
theorem mem_policyIds (h : Holds S place fs t) (listing : FileSystem.Listing)
    {l : List (String × Bytes)} (hl : Table.Enumerates l t) :
    policyId ∈ Store.policyIds (listing.names fs place) ↔
      policyId ≠ "" ∧ (t policyId).isSome = true := by
  have hnames := (h.mem_names listing hl).2
  rw [Store.policyIds, List.mem_filterMap]
  constructor
  · rintro ⟨name, hname, hid⟩
    obtain ⟨key, hkey, rfl⟩ := (hnames name).1 hname
    rw [naming_fileName, splitExtension_rego] at hid
    by_cases hempty : key = ""
    · rw [if_pos hempty, if_neg (by simp)] at hid
      cases hid
    · rw [if_neg hempty, if_pos rfl] at hid
      cases hid
      exact ⟨hempty, hkey⟩
  · rintro ⟨hempty, hkey⟩
    refine ⟨policyId ++ ".rego", (hnames _).2 ⟨policyId, hkey, rfl⟩, ?_⟩
    rw [splitExtension_rego, if_neg hempty, if_pos rfl]

theorem digestAll_eq {ids : List String}
    (h : ∀ id ∈ ids, ∃ b, t id = some b ∧ fs.read (S.policyFilePath id) = .ok b)
    (policyList : Table String String) : S.digestAll fs ids policyList =
      .ok fun id => if id ∈ ids then (t id).map S.digest else policyList id := by
  induction ids generalizing policyList with
  | nil => simp [Store.digestAll]
  | cons id ids ih =>
    obtain ⟨b, hb, hread⟩ := h id List.mem_cons_self
    rw [Store.digestAll, hread]
    dsimp only
    rw [ih (fun id hid => h id (List.mem_cons_of_mem _ hid))]
    congr 1
    funext other
    by_cases hother : other = id
    · subst hother
      simp [hb, Store.digest]
    · simp [hother, Table.insert_of_ne]

/-- The list gives the digests of what is kept, without the empty identifier. -/
theorem listPolicies_eq (h : Holds S place fs t) (listing : FileSystem.Listing)
    {l : List (String × Bytes)} (hl : Table.Enumerates l t) : S.listPolicies listing fs =
      .ok fun policyId => if policyId = "" then none else (t policyId).map S.digest := by
  have hread : ∀ id ∈ Store.policyIds (listing.names fs place),
      ∃ b, t id = some b ∧ fs.read (S.policyFilePath id) = .ok b := by
    intro id hid
    have hkept := ((mem_policyIds h listing hl).1 hid).2
    obtain ⟨b, hb⟩ := Option.isSome_iff_exists.1 hkept
    exact ⟨b, hb, (h.read_key (h.keys id hkept)).2 hb⟩
  rw [Store.listPolicies, FileSystem.readDir_eq listing h.resolve h.isDir]
  dsimp only
  rw [digestAll_eq hread]
  congr 1
  funext policyId
  rw [Table.empty_apply]
  by_cases hempty : policyId = ""
  · rw [if_pos hempty, if_neg (fun hid => ((mem_policyIds h listing hl).1 hid).1 hempty)]
  · rw [if_neg hempty]
    cases hkept : t policyId with
    | none => simp
    | some b => rw [if_pos ((mem_policyIds h listing hl).2 ⟨hempty, by rw [hkept]; rfl⟩)]

/-! ## Reading -/

theorem getPolicy_eq (h : Holds S place fs t) {b : Bytes} (hb : t policyId = some b) :
    ((S.getPolicy policyId).run fs).result = .ok (Base64.encodeUrlSafeNoPad b) := by
  have hkey : (naming S).IsKey policyId := h.keys policyId (by rw [hb]; rfl)
  have hnul : Char.ofNat 0 ∉ (S.policyFilePath policyId).toList :=
    (FileSystem.resolve_eq_ok.1 (h.resolve_key hkey)).1
  have hread : (readFile (S.policyFilePath policyId)).run fs =
      ⟨.ok b, [.read (S.policyFilePath policyId)], fs⟩ := by
    have hfile : fs.read (S.policyFilePath policyId) = .ok b := (h.read_key hkey).2 hb
    rw [run_readFile hnul, hfile]
    rfl
  rw [Store.getPolicy, Traced.run_bind_of_ok hread]
  rfl

theorem evaluate_eq (h : Holds S place fs t) {b : Bytes} (hb : t policyId = some b) {text : String}
    (htext : fromUtf8 b = some text) {α : Type} (engine : String → String → Except PolicyError α) :
    ((S.evaluate engine policyId).run fs).result = engine policyId text := by
  have hkey : (naming S).IsKey policyId := h.keys policyId (by rw [hb]; rfl)
  have hpath := resolve_evaluate h.resolve h.isDir
    (notMem_of_isValidPolicyId hkey (by decide) (by decide))
    (notMem_of_isValidPolicyId hkey (by decide) (by decide))
  have hfile : fs.read (S.policyDirPath ++ "/" ++ policyId ++ ".rego") = .ok b := by
    rw [FileSystem.read_eq_ok hpath]
    exact (h.files policyId hkey).trans hb
  have hread : (readFile (S.policyDirPath ++ "/" ++ policyId ++ ".rego")).run fs =
      ⟨.ok b, [.read (S.policyDirPath ++ "/" ++ policyId ++ ".rego")], fs⟩ := by
    rw [run_readFile (FileSystem.resolve_eq_ok.1 hpath).1, hfile]
    rfl
  rw [Store.evaluate, Traced.run_bind_of_ok hread, htext]
  rfl

/-! ## The map -/

/-- What is kept is the content of an accepted call. -/
theorem exists_of_current {b : Bytes} (h : current acc policyId = some b) :
    ∃ c ∈ acc, c.policyId = policyId ∧ c.content = b := by
  unfold current at h
  split at h
  · next c hlast =>
    have hmem := List.mem_filter.1 (List.mem_of_getLast? hlast)
    have hid : c.policyId = policyId ∧ c.overwrite = true := by simpa using hmem.2
    exact ⟨c, hmem.1, hid.1, Option.some.inj h⟩
  · obtain ⟨c, hfirst, hcontent⟩ := Option.map_eq_some_iff.1 h
    exact ⟨c, List.mem_of_find?_eq_some hfirst, by simpa using List.find?_some hfirst, hcontent⟩

/-- What is kept is a text. -/
theorem exists_text_of_current {b : Bytes} (h : current (S.accepted fs calls) policyId = some b) :
    ∃ text, fromUtf8 b = some text := by
  obtain ⟨c, hc, -, rfl⟩ := exists_of_current h
  obtain ⟨b, hcheck⟩ := exists_checkPolicy_of_accepted hc
  obtain ⟨hdecode, -, text, htext, -⟩ := checkPolicy_eq_ok_iff.1 hcheck
  rw [SetCall.content, hdecode]
  exact ⟨text, htext⟩

/-- A call for one identifier does not change what another has. -/
theorem current_after_other (D : FileSystem.EmptyDirectory) {c other : SetCall}
    (hother : other.policyId ≠ c.policyId) :
    current (S.accepted D.fs (calls ++ [other])) c.policyId =
      current (S.accepted D.fs calls) c.policyId := by
  cases hresult : ((S.set other).run (S.after D.fs calls)).result with
  | error e => rw [accepted_concat_of_error hresult]
  | ok u =>
    rw [accepted_concat_of_ok hresult, current_concat]
    split
    · exact Table.insert_of_ne _ _ (Ne.symm hother)
    · rfl

/-- The calls for the empty identifier that are accepted. -/
theorem forall_accepted_ne_empty (D : FileSystem.EmptyDirectory)
    (hdir : D.dirPath = S.policyDirPath) :
    (∀ c ∈ S.accepted D.fs calls, c.policyId ≠ "") ↔ ∀ c ∈ calls, c.policyId = "" → ∀ b text,
      Base64.decodeUrlSafeNoPad c.policy = some b → fromUtf8 b = some text →
        S.addPolicy "" text ≠ .ok () := by
  constructor
  · intro h c hc hempty b text hdecode htext haccept
    refine h c ((mem_accepted D hdir).2 ⟨hc, b, ?_⟩) hempty
    rw [hempty]
    exact checkPolicy_eq_ok_iff.2 ⟨hdecode, rfl, text, htext, haccept⟩
  · intro h c hc hempty
    obtain ⟨hmem, b, hcheck⟩ := (mem_accepted D hdir).1 hc
    rw [hempty] at hcheck
    obtain ⟨hdecode, -, text, htext, haccept⟩ := checkPolicy_eq_ok_iff.1 hcheck
    exact h c hmem hempty b text hdecode htext haccept

/-- **The store is a map exactly when no policy is set under the empty identifier**: a call for it
has a policy that is not in base64, is no text or is refused by the parser. -/
theorem isMap_iff (D : FileSystem.EmptyDirectory) (hdir : D.dirPath = S.policyDirPath)
    (calls : List SetCall) :
    IsMap S D.fs calls ↔ ∀ c ∈ calls, c.policyId = "" → ∀ b text,
      Base64.decodeUrlSafeNoPad c.policy = some b → fromUtf8 b = some text →
        S.addPolicy "" text ≠ .ok () := by
  rw [← forall_accepted_ne_empty D hdir]
  have hholds := holds_after D hdir calls
  obtain ⟨l, hl⟩ := exists_enumerates_current (S.accepted D.fs calls)
  constructor
  · intro hmap c hc hempty
    obtain ⟨listing⟩ := (inferInstance : Nonempty FileSystem.Listing)
    obtain ⟨policyList, hlist, hids, -⟩ := hmap.listed listing
    rw [listPolicies_eq hholds listing hl] at hlist
    have hsome := (hids "").2 ⟨c, hc, hempty⟩
    cases hlist
    simp at hsome
  · intro hids
    refine ⟨?_, ?_, fun policyId b hb => getPolicy_eq hholds hb, ?_, ?_⟩
    · rintro before c rest - ⟨e, he⟩
      cases hcheck : S.checkPolicy c.policyId c.policy with
      | error e => rw [Store.set, run_setPolicy_of_error hcheck]
      | ok b =>
        rw [(run_set (holds_after D hdir before) c hcheck).1] at he
        cases he
    · intro listing
      refine ⟨_, listPolicies_eq hholds listing hl, ?_, ?_⟩
      · intro policyId
        rw [← isSome_current]
        by_cases hempty : policyId = ""
        · have hnone : ¬ (current (S.accepted D.fs calls) policyId).isSome = true := by
            intro hsome
            obtain ⟨c, hc, hid⟩ := isSome_current.1 hsome
            exact hids c hc (hid.trans hempty)
          simp [hempty, hempty ▸ hnone]
        · simp [hempty]
      · intro policyId b hb
        obtain ⟨c, hc, rfl, -⟩ := exists_of_current hb
        rw [if_neg (hids c hc), hb]
        rfl
    · intro policyId b hb
      obtain ⟨text, htext⟩ := exists_text_of_current hb
      exact ⟨text, htext, fun α engine => evaluate_eq hholds hb htext engine⟩
    · intro c hc other hother
      obtain ⟨b, hb⟩ := Option.isSome_iff_exists.1 (isSome_current.2 ⟨c, hc, rfl⟩)
      have hafter := holds_after D hdir (calls ++ [other])
      rw [getPolicy_eq hafter ((current_after_other D hother).trans hb), getPolicy_eq hholds hb]

/-! ## Runs -/

/-- The directory of policies, with nothing in it. -/
def opaDirectory : FileSystem.EmptyDirectory where
  dirPath := "/opa"
  fs := opaTree
  place := ["opa"]
  resolve_dirPath := resolve_opaStore
  isDir_place := rfl
  hasEntry_place name := by simp [FileSystem.hasEntry, opaTree]

/-- The base64 of `package policy`. -/
def emptyPolicy : String := "cGFja2FnZSBwb2xpY3k"

/-- A policy that is set under a name, and an empty text that is refused under the empty
identifier. -/
theorem isMap_default_cpu :
    IsMap opaStore opaTree [⟨"", "", false⟩, ⟨"default_cpu", emptyPolicy, false⟩] := by
  refine (isMap_iff opaDirectory rfl _).2 ?_
  intro c hc hempty b text hdecode htext
  have hcases : c = ⟨"", "", false⟩ ∨ c = ⟨"default_cpu", emptyPolicy, false⟩ := by simpa using hc
  rcases hcases with rfl | rfl
  · cases hdecode
    cases htext
    intro haccept
    cases haccept
  · exact absurd hempty (by decide)

/-- A policy that is set under the empty identifier is not listed. -/
theorem not_isMap_empty : ¬ ∀ (S : Store) (D : FileSystem.EmptyDirectory) (calls : List SetCall),
    D.dirPath = S.policyDirPath → IsMap S D.fs calls := by
  intro h
  have hcheck : opaStore.checkPolicy "" emptyPolicy = .ok (toUtf8 "package policy") := rfl
  have hmem : ⟨"", emptyPolicy, false⟩ ∈
      opaStore.accepted opaDirectory.fs [⟨"", emptyPolicy, false⟩] :=
    (mem_accepted opaDirectory rfl).2 ⟨List.mem_singleton_self _, _, hcheck⟩
  obtain ⟨listing⟩ := (inferInstance : Nonempty FileSystem.Listing)
  obtain ⟨l, hl⟩ := exists_enumerates_current
    (opaStore.accepted opaDirectory.fs [⟨"", emptyPolicy, false⟩])
  obtain ⟨policyList, hlist, hids, -⟩ :=
    (h opaStore opaDirectory [⟨"", emptyPolicy, false⟩] rfl).listed listing
  rw [listPolicies_eq (holds_after opaDirectory rfl _) listing hl] at hlist
  have hsome := (hids "").2 ⟨_, hmem, rfl⟩
  cases hlist
  simp at hsome

end Trustmee.Policy
