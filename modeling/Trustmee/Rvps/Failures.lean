import Trustmee.Rvps.Service

/-!
# Storage calls that fail

The database can fail to insert a value, and to flush after it has inserted it; the file can fail to
be read, and to be written. The values of a message are stored one by one up to the first call that
fails: the values before it are registered and those after it are not (`storeAll_spec`). When no call
fails, all of them are.
-/

namespace Trustmee

namespace Rvps

/-! ## The failures -/

/-- The ways in which the calls of a storage can fail. -/
structure Failures (S : ReferenceValueStorage) where
  Fault : Type
  fail : Fault → S.State → String → ReferenceValue → Outcome (Option ReferenceValue) × S.State
  /-- The call fails while it writes a file. -/
  Torn : Fault → Prop

namespace Failures

variable {S : ReferenceValueStorage} (F : Failures S)

/-- `set`, with the failure of the call. -/
def set (fault : Option F.Fault) (s : S.State) (name : String) (rv : ReferenceValue) :
    Outcome (Option ReferenceValue) × S.State :=
  match fault with
  | none => S.set s name rv
  | some fault => F.fail fault s name rv

/-- The loop of `verify_and_extract`, with the failure of each call. -/
def storeAll (faults : ℕ → Option F.Fault) (s : S.State) :
    List ReferenceValue → Outcome Unit × S.State
  | [] => (.ok (), s)
  | v :: rv =>
    match F.set (faults 0) s v.name v with
    | (.ok _, s) => storeAll (fun i => faults (i + 1)) s rv
    | (.err e, s) => (.err e, s)
    | (.panic m, s) => (.panic m, s)

/-- The values of `before` are stored, and the call for `v` fails. -/
def StopsAt (faults : ℕ → Option F.Fault) (s : S.State) (before : List ReferenceValue)
    (v : ReferenceValue) (e : Error) : Prop :=
  (F.storeAll faults s before).1 = .ok () ∧
    (F.set (faults before.length) (F.storeAll faults s before).2 v.name v).1 = .err e

end Failures

/-- How a call of `sled` fails. -/
inductive SledFault
  | insert (e : String)
  | flush (e : String)

/-- `LocalFs::set` with a failure. The insertion comes before the old value is read, and the flush
after it. -/
def LocalFs.fail (C : Chrono) (fault : SledFault) (engine : Table String Json) (name : String)
    (rv : ReferenceValue) : Outcome (Option ReferenceValue) × Table String Json :=
  match fault with
  | .insert e => (.err ["insert into sled", e], engine)
  | .flush e => (do
      let _ ← LocalFs.readValue C (engine name)
      .err [e], engine.insert name (rv.toValue C))

/-- How a call on the file fails; a write leaves something in it. -/
inductive FileFault
  | read (e : String)
  | write (e : String) (left : Json)

/-- `LocalJson::set` with a failure. -/
def LocalJson.fail (C : Chrono) (fault : FileFault) (file : Json) (_name : String)
    (_rv : ReferenceValue) : Outcome (Option ReferenceValue) × Json :=
  match fault with
  | .read e => (.err [e], file)
  | .write e left =>
    match LocalJson.readFile C file with
    | .ok _ => (.err [e], left)
    | .err e => (.err e, file)
    | .panic m => (.panic m, file)

/-- The failures of the storage of a configuration. -/
def ReferenceValueStorageConfig.failures (C : Chrono) :
    (config : ReferenceValueStorageConfig) → Failures (config.toStorage C)
  | .LocalFs => ⟨SledFault, LocalFs.fail C, fun _ => False⟩
  | .LocalJson => ⟨FileFault, LocalJson.fail C, fun fault => ∃ e left, fault = .write e left⟩

/-- The failures of the storage of the service. -/
def failures (R : Rvps) : Failures R.storage := R.storageConfig.failures R.chrono

/-- `verify_and_extract`, with the failure of each storage call. -/
def verifyAndExtractWith (R : Rvps) (faults : ℕ → Option R.failures.Fault) (now : DateTime)
    (s : R.storage.State) (message : String) : Outcome Unit × R.storage.State :=
  match R.extract now message with
  | .ok rv => R.failures.storeAll faults s rv
  | .err e => (.err e, s)
  | .panic m => (.panic m, s)

theorem storeAll_none (R : Rvps) (s : R.storage.State) (rv : List ReferenceValue) :
    R.failures.storeAll (fun _ => none) s rv = R.storeAll s rv := by
  induction rv generalizing s with
  | nil => rfl
  | cons v rv ih =>
    unfold Failures.storeAll Rvps.storeAll Failures.set
    dsimp only
    cases R.storage.set s v.name v with
    | mk result s =>
      cases result with
      | ok _ => exact ih s
      | err e => rfl
      | panic m => rfl

/-- Without failures it is `verify_and_extract`. -/
theorem verifyAndExtractWith_none (R : Rvps) (now : DateTime) (s : R.storage.State)
    (message : String) :
    R.verifyAndExtractWith (fun _ => none) now s message = R.verifyAndExtract now s message := by
  rw [verifyAndExtractWith, verifyAndExtract]
  cases R.extract now message with
  | ok rv => exact storeAll_none R s rv
  | err e => rfl
  | panic m => rfl

/-! ## One call -/

/-- What a call does to the answers: a success gives the name the new value, and a failure changes
the answer of no other name, unless it leaves a file half written. -/
structure Failures.Sound {S : ReferenceValueStorage} (F : Failures S) : Prop where
  returns : ∀ fault s name rv, (F.set fault s name rv).1.Returns
  ok : ∀ fault s name (rv : ReferenceValue) old s', rv.Whole → rv.name = name →
    F.set fault s name rv = (.ok old, s') →
    ∀ k, S.get s' k = if k = name then .ok (some rv) else S.get s k
  err : ∀ fault s name (rv : ReferenceValue) e s', F.set fault s name rv = (.err e, s') →
    (∀ f, fault = some f → ¬ F.Torn f) → ∀ k, k ≠ name → S.get s' k = S.get s k

/-- A date that was read is written so that it is read again. -/
def Chrono.Rereads (C : Chrono) : Prop :=
  ∀ s t, C.parseFromStr s = .ok t → C.parseFromStr (C.toText t) = .ok t

section Calls

variable {C : Chrono}

theorem LocalFs.returns_readValue (v : Option Json) : (LocalFs.readValue C v).Returns := by
  cases v with
  | none => exact Outcome.returns_ok _
  | some v => exact (Outcome.returns_ofExcept _).bind fun _ _ => Outcome.returns_ok _

theorem LocalFs.get_insert_self {engine : Table String Json} {name : String} {rv : ReferenceValue}
    (h : rv.Whole) : LocalFs.get C (engine.insert name (rv.toValue C)) name = .ok (some rv) := by
  rw [LocalFs.get, Table.insert_self, LocalFs.readValue,
    ReferenceValue.fromValue_toValue h.dateReads]
  rfl

/-- Another name has the answer that it had. -/
theorem LocalFs.get_insert_of_ne {engine : Table String Json} {name k : String} {v : Json}
    (h : k ≠ name) : LocalFs.get C (engine.insert name v) k = LocalFs.get C engine k := by
  rw [LocalFs.get, Table.insert_of_ne _ _ h, LocalFs.get]

theorem LocalFs.sound (C : Chrono) : (ReferenceValueStorageConfig.LocalFs.failures C).Sound where
  returns fault s name rv := by
    rcases fault with _ | e | e
    · exact LocalFs.returns_readValue _
    · exact fun _ => Outcome.err_ne_panic
    · exact (LocalFs.returns_readValue _).bind fun _ _ _ => Outcome.err_ne_panic
  ok fault s name rv old s' hrv _ h k := by
    have hset : s' = Table.insert s name (rv.toValue C) := by
      rcases fault with _ | e | e
      · exact (Prod.mk.inj h).2.symm
      · cases h
      · exact (Prod.mk.inj h).2.symm
    subst hset
    split
    · next hk =>
      subst hk
      exact LocalFs.get_insert_self hrv
    · next hk => exact LocalFs.get_insert_of_ne hk
  err fault s name rv e s' h _ k hk := by
    rcases fault with _ | e' | e'
    · rw [← (Prod.mk.inj h).2]
      exact LocalFs.get_insert_of_ne hk
    · rw [← (Prod.mk.inj h).2]
    · rw [← (Prod.mk.inj h).2]
      exact LocalFs.get_insert_of_ne hk

/-- A file is read, or everything that reads it fails. -/
theorem LocalJson.readFile_cases (file : Json) :
    (∃ rvs, LocalJson.readFile C file = .ok rvs) ∨ ∃ e, LocalJson.readFile C file = .err e := by
  rw [LocalJson.readFile]
  cases Deserialize.vec (ReferenceValue.fromValue C) file with
  | ok rvs => exact .inl ⟨rvs, rfl⟩
  | error e => exact .inr ⟨[e], rfl⟩

theorem LocalJson.set_of_ok {file : Json} {rvs : List ReferenceValue}
    (h : LocalJson.readFile C file = .ok rvs) (name : String) (rv : ReferenceValue) :
    LocalJson.set C file name rv = (.ok (LocalJson.replaceOrPush name rv rvs).1,
      .array ((LocalJson.replaceOrPush name rv rvs).2.map (·.toValue C))) := by
  rw [LocalJson.set, h]

theorem LocalJson.set_of_err {file : Json} {e : Error} (h : LocalJson.readFile C file = .err e)
    (name : String) (rv : ReferenceValue) : LocalJson.set C file name rv = (.err e, file) := by
  rw [LocalJson.set, h]

/-- A write that fails is an error. -/
theorem LocalJson.exists_fail_write (file left : Json) (e : String) (name : String)
    (rv : ReferenceValue) :
    ∃ e' left', LocalJson.fail C (.write e left) file name rv = (.err e', left') := by
  rcases LocalJson.readFile_cases (C := C) file with ⟨rvs, h⟩ | ⟨e', h⟩
  · exact ⟨_, _, by rw [LocalJson.fail, h]⟩
  · exact ⟨_, _, by rw [LocalJson.fail, h]⟩

/-- The dates of the values that are read from a file are read again. -/
theorem LocalJson.dateReads_of_readFile (hC : C.Rereads) {file : Json} {rvs : List ReferenceValue}
    (h : LocalJson.readFile C file = .ok rvs) {rv : ReferenceValue} (hrv : rv ∈ rvs) :
    rv.DateReads C := by
  rw [LocalJson.readFile, Outcome.ofExcept_eq_ok] at h
  obtain ⟨v, hv⟩ := Deserialize.exists_of_mem_vec h hrv
  obtain ⟨text, htext⟩ := ReferenceValue.exists_parseFromStr hv
  exact hC text _ htext

/-- The answers of a file that was written. -/
theorem LocalJson.get_written (hC : C.Rereads) {file : Json} {rvs : List ReferenceValue}
    (h : LocalJson.readFile C file = .ok rvs) {name : String} {rv : ReferenceValue}
    (hrv : rv.Whole) (hname : rv.name = name) (k : String) :
    LocalJson.get C (.array ((LocalJson.replaceOrPush name rv rvs).2.map (·.toValue C))) k =
      if k = name then .ok (some rv) else LocalJson.get C file k := by
  have hdates : ∀ rv' ∈ (LocalJson.replaceOrPush name rv rvs).2, rv'.DateReads C := by
    intro rv' hmem
    rcases LocalJson.mem_replaceOrPush hmem with rfl | hmem
    · exact hrv.dateReads
    · exact LocalJson.dateReads_of_readFile hC h hmem
  rw [LocalJson.get, LocalJson.readFile, ReferenceValue.vec_fromValue_toValue hdates,
    LocalJson.get, h]
  change Outcome.ok _ = _
  rw [LocalJson.find?_replaceOrPush hname]
  split <;> rfl

theorem LocalJson.sound (hC : C.Rereads) :
    (ReferenceValueStorageConfig.LocalJson.failures C).Sound where
  returns fault s name rv := by
    rcases fault with _ | e | ⟨e, left⟩
    · change (LocalJson.set C s name rv).1.Returns
      rcases LocalJson.readFile_cases (C := C) s with ⟨rvs, hread⟩ | ⟨e, hread⟩
      · rw [LocalJson.set_of_ok hread]
        exact Outcome.returns_ok _
      · rw [LocalJson.set_of_err hread]
        exact fun _ => Outcome.err_ne_panic
    · exact fun _ => Outcome.err_ne_panic
    · obtain ⟨e', left', hfail⟩ := LocalJson.exists_fail_write (C := C) s left e name rv
      change (LocalJson.fail C (.write e left) s name rv).1.Returns
      rw [hfail]
      exact fun _ => Outcome.err_ne_panic
  ok fault s name rv old s' hrv hname h k := by
    rcases fault with _ | e | ⟨e, left⟩
    · change LocalJson.set C s name rv = _ at h
      rcases LocalJson.readFile_cases (C := C) s with ⟨rvs, hread⟩ | ⟨e, hread⟩
      · rw [LocalJson.set_of_ok hread] at h
        rw [← (Prod.mk.inj h).2]
        exact LocalJson.get_written hC hread hrv hname k
      · rw [LocalJson.set_of_err hread] at h
        cases h
    · cases h
    · obtain ⟨e', left', hfail⟩ := LocalJson.exists_fail_write (C := C) s left e name rv
      cases hfail.symm.trans h
  err fault s name rv e s' h htorn k _ := by
    rcases fault with _ | e' | ⟨e', left⟩
    · change LocalJson.set C s name rv = _ at h
      rcases LocalJson.readFile_cases (C := C) s with ⟨rvs, hread⟩ | ⟨e', hread⟩
      · rw [LocalJson.set_of_ok hread] at h
        cases h
      · rw [LocalJson.set_of_err hread] at h
        rw [← (Prod.mk.inj h).2]
    · rw [← (Prod.mk.inj h).2]
    · exact absurd ⟨e', left, rfl⟩ (htorn _ rfl)

end Calls

/-- Both storages, with their failures. -/
theorem sound_failures (R : Rvps) (hC : R.chrono.Rereads) : R.failures.Sound := by
  obtain ⟨serde, chrono, extractors, config⟩ := R
  cases config with
  | LocalFs => exact LocalFs.sound chrono
  | LocalJson => exact LocalJson.sound hC

/-! ## A message -/

/-- The answer after values were registered: the last value of the name, or what was answered
before. -/
def registeredAnswer (S : ReferenceValueStorage) (s : S.State) (rvs : List ReferenceValue)
    (k : String) : Outcome (Option ReferenceValue) :=
  match latestTable rvs k with
  | some rv => .ok (some rv)
  | none => S.get s k

theorem latestTable_cons (v : ReferenceValue) (rvs : List ReferenceValue) (k : String) :
    latestTable (v :: rvs) k = (latestTable rvs k).or (if k = v.name then some v else none) := by
  rw [latestTable_apply, latestTable_apply, List.reverse_cons, List.find?_append, List.find?_cons,
    List.find?_nil]
  by_cases hk : v.name = k
  · simp [hk]
  · simp [hk, Ne.symm hk]

/-- What is registered first is there for the rest. -/
theorem registeredAnswer_cons {S : ReferenceValueStorage} {s s' : S.State} {v : ReferenceValue}
    (h : ∀ k, S.get s' k = if k = v.name then .ok (some v) else S.get s k)
    (rvs : List ReferenceValue) (k : String) :
    registeredAnswer S s' rvs k = registeredAnswer S s (v :: rvs) k := by
  rw [registeredAnswer, registeredAnswer, latestTable_cons, h]
  cases latestTable rvs k with
  | some rv => rfl
  | none =>
    by_cases hk : k = v.name
    · simp [hk]
    · simp [hk]

/-- **Values are registered up to the call that fails**, by induction on the values. -/
theorem storeAll_spec {S : ReferenceValueStorage} {F : Failures S} (hF : F.Sound)
    (faults : ℕ → Option F.Fault) (s : S.State) {rvs : List ReferenceValue}
    (hwhole : ∀ v ∈ rvs, v.Whole) :
    ((F.storeAll faults s rvs).1 = .ok () ∧
      ∀ k, S.get (F.storeAll faults s rvs).2 k = registeredAnswer S s rvs k) ∨
    ∃ e before v rest, (F.storeAll faults s rvs).1 = .err e ∧ rvs = before ++ v :: rest ∧
      F.StopsAt faults s before v e ∧
      ((∀ f, faults before.length = some f → ¬ F.Torn f) → ∀ k, k ≠ v.name →
        S.get (F.storeAll faults s rvs).2 k = registeredAnswer S s before k) := by
  induction rvs generalizing s faults with
  | nil => exact .inl ⟨rfl, fun _ => rfl⟩
  | cons v rvs ih =>
    rw [List.forall_mem_cons] at hwhole
    rw [Failures.storeAll]
    cases hset : F.set (faults 0) s v.name v with
    | mk result s' =>
      cases result with
      | panic m => exact absurd (congrArg Prod.fst hset) (hF.returns _ _ _ _ m)
      | err e =>
        refine .inr ⟨e, [], v, rvs, rfl, rfl, ⟨rfl, congrArg Prod.fst hset⟩, fun htorn k hk => ?_⟩
        exact hF.err _ _ _ _ _ _ hset htorn k hk
      | ok old =>
        have hanswer := hF.ok _ _ _ _ _ _ hwhole.1 rfl hset
        dsimp only
        rcases ih (fun i => faults (i + 1)) s' hwhole.2 with ⟨hok, hall⟩ |
          ⟨e, before, v', rest, herr, rfl, ⟨hstored, hfails⟩, hbefore⟩
        · exact .inl ⟨hok, fun k => (hall k).trans (registeredAnswer_cons hanswer rvs k)⟩
        · have hbegins : F.storeAll faults s (v :: before) =
              F.storeAll (fun i => faults (i + 1)) s' before := by
            rw [Failures.storeAll, hset]
          refine .inr ⟨e, v :: before, v', rest, herr, rfl, ?_, fun htorn k hk => ?_⟩
          · rw [Failures.StopsAt, hbegins]
            exact ⟨hstored, hfails⟩
          · exact (hbefore htorn k hk).trans (registeredAnswer_cons hanswer before k)

theorem rereads_tallyChrono : tallyChrono.Rereads := by
  intro s t h
  cases h
  exact tallyChrono.parseFromStr_toText _ rfl

/-! ## Two values, of which one is stored -/

end Rvps

end Trustmee
