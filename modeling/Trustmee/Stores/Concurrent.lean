import Trustmee.Foundations.JsonText
import Trustmee.Foundations.SharedFile
import Trustmee.KeyValue.Backends
import Trustmee.Rvps.Storage

/-!
# Stores that are called concurrently

`LocalJson`, of the key-value storage and of the reference values, takes its lock in a statement that
drops the guard at once: `let _ = self.lock.write().await`. The lock is free at every await, and
keeps no two operations apart. `MemoryKeyValueStorage::set` keeps its guards, but takes two: it looks
for the key under one, and inserts it under another.

The stores are linearizable in the runs in which no operation disturbs another, and there, of calls
that set an absent key of the memory without overwriting, one succeeds (`linearizable_stores`).
-/

namespace Trustmee.KeyValue

open Transition Linearizable

/-! ## The file of the key-value storage -/

/-- What an operation does with the map that it read of the file: its answer, and the map that it
writes back. -/
def LocalJson.plan (read : Except String (Table String String)) :
    Op → Table.Iteration String String → Answer × Option (Table String String)
  | .set key value parameters, _ =>
    match read with
    | .error e => (.error (.malformedValue e), none)
    | .ok items =>
      if parameters.overwrite ∧ (items key).isSome then
        (.error (.setKeyFailed "key already exists" key), none)
      else (.ok .done, some (items.insert key (Base64.encodeUrlSafe value)))
  | .get key, _ =>
    match read with
    | .error e => (.error (.malformedValue ("failed to deserialize the file: " ++ e)), none)
    | .ok items => ((decodeValue (fun e => .getKeyFailed
        ("failed to base64 decode the content inside json: " ++ e) key) (items key)).map .value, none)
  | .list, iteration =>
    match read with
    | .error e => (.error (.listKeysFailed ("failed to deserialize the file: " ++ e)), none)
    | .ok items => (.ok (.keys ((iteration.order items).map Prod.fst)), none)
  | .delete key, _ =>
    match read with
    | .error e => (.error (.deleteKeyFailed ("failed to deserialize the file: " ++ e) key), none)
    | .ok items =>
      match decodeValue (fun e => .deleteKeyFailed ("failed to base64 decode value: " ++ e) key)
          (items key) with
      | .error e => (.error e, none)
      | .ok value => (.ok (.value value), some (items.erase key))

/-- An operation that no other runs beside is the one of the storage. -/
theorem LocalJson.exec_eq_plan (iteration : Table.Iteration String String) (file : Json) (op : Op) :
    Backend.localJson.storage.exec iteration file op = ((plan (readItems file) op iteration).1,
      ((plan (readItems file) op iteration).2.map (writeItems iteration)).getD file) := by
  cases op with
  | set key value parameters =>
    show answer _ (LocalJson.set iteration file key value parameters) = _
    unfold LocalJson.set plan
    cases readItems file with
    | error e => rfl
    | ok items =>
      dsimp only
      split <;> rfl
  | get key =>
    show answer _ (LocalJson.get file key, file) = _
    unfold LocalJson.get plan
    cases readItems file <;> rfl
  | list =>
    show answer _ (LocalJson.list iteration file, file) = _
    unfold LocalJson.list plan
    cases readItems file <;> rfl
  | delete key =>
    show answer _ (LocalJson.delete iteration file key) = _
    unfold LocalJson.delete plan
    cases readItems file with
    | error e => rfl
    | ok items =>
      dsimp only
      cases decodeValue (fun e => .deleteKeyFailed ("failed to base64 decode value: " ++ e) key)
          (items key) with
      | error e => rfl
      | ok value => rfl

/-- The operations on the bytes of the file. -/
def LocalJson.fileStore (serde : SerdeJson) : FileStore Op Answer where
  Order := Table.Iteration String String
  plan iteration op file :=
    let planned := plan (serde.fromSlice readItems file) op iteration
    (planned.1, planned.2.map fun items => toUtf8 (writeItems iteration items).print)

/-- A call that does not overwrite is never refused for a key that is there: the flag is taken the
other way round, whatever runs beside the call. -/
theorem LocalJson.eq_done_of_set {serde : SerdeJson} {file : Bytes}
    {tr : List (Label Op Answer FileStore.Move)} {s : FileStore.State Op Answer} {i : ℕ}
    {key : String} {value : Bytes} {a : Answer}
    (h : AllSteps ((fileStore serde).system file) FileStore.Undisturbed ⟨file, .empty⟩ tr s)
    (hinvoked : .invoke i (.set key value ⟨false⟩) ∈ history tr)
    (hended : .respond i a ∈ history tr) : a = .ok .done ∨ ∃ e, a = .error (.malformedValue e) := by
  obtain ⟨order, t, horder, -⟩ := FileStore.isLinearization_of_undisturbed h
  obtain ⟨op, hcall⟩ := horder.answered i a hended
  cases horder.once i _ _ hinvoked (horder.invoked _ hcall)
  obtain ⟨u, u', iteration, contents, hplan, -⟩ :=
    horder.run.exists_step_of_mem (List.mem_map_of_mem hcall)
  have hanswer : (plan (serde.fromSlice readItems u) (.set key value ⟨false⟩) iteration).1 = a :=
    congrArg Prod.fst hplan
  rw [← hanswer]
  unfold plan
  dsimp only
  split
  · next e _ => exact .inr ⟨e, rfl⟩
  · rw [if_neg (by simp)]
    exact .inl rfl

/-! ## The memory -/

/-- The operation changes what is kept under the key, or may. -/
def Op.Writes (key : String) : Op → Prop
  | .set k _ _ | .delete k => k = key
  | .get _ | .list => False

namespace Memory

/-- The map, and the operations that callers are in the middle of. -/
structure State where
  items : Table String Bytes
  calls : Table ℕ (Stage Op Answer Unit Unit)

/-- What an operation does in the middle: it takes its guard, or its second one. -/
inductive Move
  | access
  | insert

/-- An operation that looks for its key under one guard, and inserts it under another. -/
def Pauses (items : Table String Bytes) : Op → Prop
  | .set key _ parameters => parameters.overwrite = false ∧ items key = none
  | .get _ | .delete _ | .list => False

/-- One step of one operation. What it does under one guard is one step. -/
inductive Step : State → Label Op Answer Move → State → Prop
  | invoke {s : State} {i : ℕ} {op : Op} (hi : s.calls i = none) :
      Step s (.invoke i op) ⟨s.items, s.calls.insert i (.started op)⟩
  | access {s : State} {i : ℕ} {op : Op} {iteration : Table.Iteration String Bytes} {a : Answer}
      {items : Table String Bytes} (hi : s.calls i = some (.started op))
      (hpauses : ¬ Pauses s.items op)
      (hexec : Backend.memory.storage.exec iteration s.items op = (a, items)) :
      Step s (.move i .access) ⟨items, s.calls.insert i (.settled a ())⟩
  | look {s : State} {i : ℕ} {op : Op} (hi : s.calls i = some (.started op))
      (hpauses : Pauses s.items op) :
      Step s (.move i .access) ⟨s.items, s.calls.insert i (.pending op ())⟩
  | insert {s : State} {i : ℕ} {key : String} {value : Bytes} {parameters : SetParameters}
      (hi : s.calls i = some (.pending (.set key value parameters) ())) :
      Step s (.move i .insert)
        ⟨s.items.insert key value, s.calls.insert i (.settled (.ok .done) ())⟩
  | respond {s : State} {i : ℕ} {a : Answer} (hi : s.calls i = some (.settled a ())) :
      Step s (.respond i a) ⟨s.items, s.calls.insert i (.returned a)⟩

/-- Any number of operations on a map. -/
def system (items : Table String Bytes) : System State (Label Op Answer Move) where
  Init s := s = ⟨items, .empty⟩
  Step := Step

/-- The step does not disturb another operation: a key is inserted that still is absent. -/
def Undisturbed (s : State) : Label Op Answer Move → Prop
  | .move i .insert => ∀ key value parameters,
    s.calls i = some (.pending (.set key value parameters) ()) → s.items key = none
  | _ => True

variable {items t : Table String Bytes} {s s' : State} {l : Label Op Answer Move}
  {tr : List (Label Op Answer Move)} {key : String} {value : Bytes} {order : List (Call Op Answer)}

/-- An operation between its two guards does not overwrite. -/
def IsPaused (op : Op) (_ : Unit) : Prop := ∃ key value, op = .set key value ⟨false⟩

theorem isPaused_of_pauses {op : Op} (h : Pauses items op) : IsPaused op () := by
  cases op with
  | set key value parameters =>
    obtain ⟨overwrite⟩ := parameters
    cases h.1
    exact ⟨key, value, rfl⟩
  | get key => cases h
  | delete key => cases h
  | list => cases h

theorem exec_set_of_none (iteration : Table.Iteration String Bytes) (value : Bytes)
    (h : t key = none) : Backend.memory.storage.exec iteration t (.set key value ⟨false⟩) =
      (.ok .done, t.insert key value) := by
  show answer _ (Memory.set t key value ⟨false⟩) = _
  simp [Memory.set, answer, h, Except.map]

theorem exec_set_of_some (iteration : Table.Iteration String Bytes) (value : Bytes)
    (h : (t key).isSome = true) : Backend.memory.storage.exec iteration t (.set key value ⟨false⟩) =
      (.error (.setKeyFailed "key already exists" key), t) := by
  show answer _ (Memory.set t key value ⟨false⟩) = _
  simp [Memory.set, answer, h, Except.map]

/-- **A step that disturbs no operation keeps the order**: an operation takes effect under its last
guard. -/
theorem exists_order_step
    (h : ∃ order, Progress Backend.memory.storage.system items IsPaused s.calls (history tr) order
      s.items)
    (hl : Undisturbed s l) (hstep : (system items).Step s l s') :
    ∃ order, Progress Backend.memory.storage.system items IsPaused s'.calls (history (tr ++ [l]))
      order s'.items := by
  obtain ⟨order, hprogress⟩ := h
  cases hstep with
  | @invoke i op hi =>
    rw [history_concat_invoke]
    exact ⟨order, hprogress.invoke hi⟩
  | @access i op iteration a items' hi hpauses hexec =>
    rw [history_concat_move]
    exact ⟨_, hprogress.settle (.inl hi) ⟨iteration, hexec⟩⟩
  | @look i op hi hpauses =>
    rw [history_concat_move]
    exact ⟨order, hprogress.pend hi (isPaused_of_pauses hpauses)⟩
  | @insert i key value parameters hi =>
    rw [history_concat_move]
    obtain ⟨-, key', value', heq⟩ := hprogress.pending i _ () hi
    cases heq
    obtain ⟨iteration⟩ := Backend.memory.storage.nonempty_order
    exact ⟨_, hprogress.settle (.inr ⟨(), hi⟩)
      ⟨iteration, exec_set_of_none iteration value (hl key value _ hi)⟩⟩
  | @respond i a hi =>
    rw [history_concat_respond]
    exact ⟨order, hprogress.respond hi⟩

/-- **Runs in which no operation disturbs another are linearizable.** -/
theorem isLinearization_of_undisturbed
    (h : AllSteps (system items) Undisturbed ⟨items, .empty⟩ tr s) :
    ∃ order, IsLinearization Backend.memory.storage.system items (history tr) order s.items := by
  have hordered : ∃ order, Progress Backend.memory.storage.system items IsPaused s.calls
      (history tr) order s.items := by
    induction h with
    | nil => exact ⟨[], .init⟩
    | snoc _ hl hstep ih => exact exists_order_step ih hl hstep
  obtain ⟨order, hprogress⟩ := hordered
  exact ⟨order, hprogress.linearizes.isLinearization⟩

/-- What an operation does to other keys. -/
theorem exec_of_not_writes {op : Op} (iteration : Table.Iteration String Bytes)
    (h : ¬ op.Writes key) : (Backend.memory.storage.exec iteration t op).2 key = t key := by
  cases op with
  | set k value parameters =>
    show (Memory.set t k value parameters).2 key = t key
    unfold Memory.set
    split
    · exact Table.insert_of_ne _ _ (Ne.symm h)
    · split
      · rfl
      · exact Table.insert_of_ne _ _ (Ne.symm h)
  | delete k => exact Table.erase_of_ne _ (Ne.symm h)
  | get k => rfl
  | list => rfl

/-- Of the operations that set an absent key without overwriting, the first succeeds, and no other
does. -/
theorem first_succeeds (habsent : items key = none)
    (hsets : ∀ c ∈ order, c.op.Writes key → ∃ value, c.op = .set key value ⟨false⟩)
    (hrun : Run Backend.memory.storage.system items (order.map Call.label) t) :
    (t key = none ∧ ∀ c ∈ order, ¬ c.op.Writes key) ∨
      ((t key).isSome = true ∧ ∃ c ∈ order, c.op.Writes key ∧ c.answer = .ok .done ∧
        ∀ d ∈ order, d.op.Writes key → d ≠ c → ∃ e, d.answer = .error e) := by
  induction order using List.reverseRecOn generalizing t with
  | nil =>
    rw [hrun.eq_of_nil]
    exact .inl ⟨habsent, fun c hc => absurd hc List.not_mem_nil⟩
  | append_singleton order c ih =>
    rw [List.map_append] at hrun
    obtain ⟨u, hbefore, iteration, hexec⟩ := hrun.exists_last
    have hexec : Backend.memory.storage.exec iteration u c.op = (c.answer, t) := hexec
    have hmem : ∀ d ∈ order ++ [c], d ∈ order ∨ d = c := fun d hd =>
      (List.mem_append.1 hd).imp_right List.mem_singleton.1
    have hbefore := ih (fun d hd => hsets d (List.mem_append_left _ hd)) hbefore
    by_cases hwrites : c.op.Writes key
    · obtain ⟨value, hop⟩ := hsets c (by simp) hwrites
      rw [hop] at hexec
      rcases hbefore with ⟨hnone, hothers⟩ | ⟨hsome, d, hd, hwritten, hdone, hothers⟩
      · rw [exec_set_of_none iteration value hnone] at hexec
        obtain ⟨hanswer, rfl⟩ := Prod.mk.inj hexec
        refine .inr ⟨congrArg Option.isSome (Table.insert_self u key value), c, by simp, hwrites,
          hanswer.symm, ?_⟩
        intro e he hwritten hne
        exact absurd hwritten (hothers e ((hmem e he).resolve_right hne))
      · rw [exec_set_of_some iteration value hsome] at hexec
        obtain ⟨hanswer, rfl⟩ := Prod.mk.inj hexec
        refine .inr ⟨hsome, d, List.mem_append_left _ hd, hwritten, hdone, ?_⟩
        intro e he hwritten hne
        rcases hmem e he with he | rfl
        · exact hothers e he hwritten hne
        · exact ⟨_, hanswer.symm⟩
    · have hkey : t key = u key := by
        have hother := exec_of_not_writes (t := u) iteration hwrites
        rwa [hexec] at hother
      rw [hkey]
      rcases hbefore with ⟨hnone, hothers⟩ | ⟨hsome, d, hd, hwritten, hdone, hothers⟩
      · refine .inl ⟨hnone, ?_⟩
        intro e he
        rcases hmem e he with he | rfl
        · exact hothers e he
        · exact hwrites
      · refine .inr ⟨hsome, d, List.mem_append_left _ hd, hwritten, hdone, ?_⟩
        intro e he hwritten hne
        rcases hmem e he with he | rfl
        · exact hothers e he hwritten hne
        · exact absurd hwritten hwrites

/-- Two callers set one key without overwriting, and nobody else writes it; both end. -/
structure Contends (tr : List (Label Op Answer Move)) (key : String) (i j : ℕ) (a b : Answer) :
    Prop where
  ne : i ≠ j
  first : ∃ value, .invoke i (.set key value ⟨false⟩) ∈ history tr
  second : ∃ value, .invoke j (.set key value ⟨false⟩) ∈ history tr
  others : ∀ k op, .invoke k op ∈ history tr → op.Writes key → k = i ∨ k = j
  first_ends : .respond i a ∈ history tr
  second_ends : .respond j b ∈ history tr

/-- **Of two callers that set an absent key without overwriting, exactly one succeeds**, where no
operation disturbs another. -/
theorem Contends.one_succeeds {i j : ℕ} {a b : Answer} (h : Contends tr key i j a b)
    (habsent : items key = none)
    (hrun : AllSteps (system items) Undisturbed ⟨items, .empty⟩ tr s) :
    (a = .ok .done ∧ ∃ e, b = .error e) ∨ (b = .ok .done ∧ ∃ e, a = .error e) := by
  obtain ⟨order, horder⟩ := isLinearization_of_undisturbed hrun
  obtain ⟨value, hfirst⟩ := h.first
  obtain ⟨value', hsecond⟩ := h.second
  obtain ⟨op, hi⟩ := horder.answered i a h.first_ends
  obtain ⟨op', hj⟩ := horder.answered j b h.second_ends
  cases horder.once i _ _ hfirst (horder.invoked _ hi)
  cases horder.once j _ _ hsecond (horder.invoked _ hj)
  have hids : ∀ c ∈ order, c.op.Writes key → c.id = i ∨ c.id = j :=
    fun c hc hwrites => h.others c.id c.op (horder.invoked c hc) hwrites
  have hsets : ∀ c ∈ order, c.op.Writes key → ∃ value, c.op = .set key value ⟨false⟩ := by
    intro c hc hwrites
    rcases hids c hc hwrites with hid | hid
    · rw [horder.eq_of_id hc hi hid]
      exact ⟨value, rfl⟩
    · rw [horder.eq_of_id hc hj hid]
      exact ⟨value', rfl⟩
  rcases first_succeeds habsent hsets horder.run with ⟨-, hnone⟩ | ⟨-, c, hc, hwrites, hdone, hrest⟩
  · exact absurd rfl (hnone _ hi)
  · rcases hids c hc hwrites with hid | hid
    · cases horder.eq_of_id hc hi hid
      refine .inl ⟨hdone, hrest _ hj rfl ?_⟩
      intro heq
      exact h.ne (congrArg Call.id heq).symm
    · cases horder.eq_of_id hc hj hid
      refine .inr ⟨hdone, hrest _ hi rfl ?_⟩
      intro heq
      exact h.ne (congrArg Call.id heq)

end Memory

end Trustmee.KeyValue

namespace Trustmee.Rvps

/-! ## The file of the reference values -/

namespace LocalJson

/-- What a call does with the list that it read of the file: its result, and the list that it writes
back. -/
def plan (read : Outcome (List ReferenceValue)) :
    StorageCall → Outcome (Option ReferenceValue) × Option (List ReferenceValue)
  | .set name rv =>
    match read with
    | .err e => (.err e, none)
    | .panic m => (.panic m, none)
    | .ok rvs =>
      let (res, rvs) := replaceOrPush name rv rvs
      (.ok res, some rvs)
  | .get name => (do
      let rvs ← read
      return rvs.find? fun rv => rv.name = name, none)

/-- A call that no other runs beside is the one of the storage. -/
theorem call_eq_plan (C : Chrono) (file : Json) (c : StorageCall) :
    (ReferenceValueStorageConfig.LocalJson.toStorage C).call file c =
      ((plan (readFile C file) c).1, ((plan (readFile C file) c).2.map fun rvs =>
        .array (rvs.map (ReferenceValue.toValue C))).getD file) := by
  cases c with
  | set name rv =>
    show LocalJson.set C file name rv = _
    unfold LocalJson.set plan
    cases readFile C file <;> rfl
  | get name => rfl

/-- The calls on the bytes of the file. -/
def fileStore (C : Chrono) (serde : SerdeJson) :
    FileStore StorageCall (Outcome (Option ReferenceValue)) where
  Order := Unit
  plan _ c file :=
    let rvs := serde.fromSlice (Deserialize.vec (ReferenceValue.fromValue C)) file
    let planned := plan (.ofExcept rvs) c
    (planned.1, planned.2.map fun rvs =>
      toUtf8 (Json.array (rvs.map (ReferenceValue.toValue C))).print)

end LocalJson

end Trustmee.Rvps

namespace Trustmee.Stores

open Transition Linearizable KeyValue

/-! ## The three stores -/

/-- **The stores are linearizable in the runs in which no operation disturbs another**: the files when
they are read and cut while no write is half done, and cut only as they were read, and the memory when
a key is inserted only while it is absent. Of two callers that set an absent key of the memory without
overwriting, one succeeds there; the file takes the flag the other way round, and refuses none. -/
theorem linearizable_stores (C : Rvps.Chrono) (serde : SerdeJson) :
    (∀ file tr s,
      AllSteps ((KeyValue.LocalJson.fileStore serde).system file) FileStore.Undisturbed
        ⟨file, .empty⟩ tr s →
      (∃ order t, IsLinearization (KeyValue.LocalJson.fileStore serde).spec file (history tr)
        order t ∧ (¬ s.Busy → s.file = t)) ∧
      ∀ i key value a, .invoke i (.set key value ⟨false⟩) ∈ history tr →
        .respond i a ∈ history tr → a = .ok .done ∨ ∃ e, a = .error (.malformedValue e)) ∧
    (∀ items tr s,
      AllSteps (Memory.system items) Memory.Undisturbed ⟨items, .empty⟩ tr s →
      (∃ order, IsLinearization Backend.memory.storage.system items (history tr) order s.items) ∧
      ∀ key i j a b, items key = none → Memory.Contends tr key i j a b →
        (a = .ok .done ∧ ∃ e, b = .error e) ∨ (b = .ok .done ∧ ∃ e, a = .error e)) ∧
    (∀ file tr s,
      AllSteps ((Rvps.LocalJson.fileStore C serde).system file) FileStore.Undisturbed
        ⟨file, .empty⟩ tr s →
      ∃ order t, IsLinearization (Rvps.LocalJson.fileStore C serde).spec file (history tr) order t ∧
        (¬ s.Busy → s.file = t)) := by
  refine ⟨?_, ?_, ?_⟩
  · intro file tr s h
    refine ⟨FileStore.isLinearization_of_undisturbed h, ?_⟩
    intro i key value a hinvoked hended
    exact KeyValue.LocalJson.eq_done_of_set h hinvoked hended
  · intro items tr s h
    refine ⟨Memory.isLinearization_of_undisturbed h, ?_⟩
    intro key i j a b habsent hcontends
    exact hcontends.one_succeeds habsent h
  · intro file tr s h
    exact FileStore.isLinearization_of_undisturbed h

/-! ## Runs -/

/-- A reference value. -/
def svn : Rvps.ReferenceValue := ⟨"0.1.0", "svn", ⟨0, 0⟩, .number (.int 1)⟩

/-- The file with the reference value. -/
def svnText : String := (Json.array [svn.toValue Rvps.tallyChrono]).print

/-- A reader for the texts below. -/
def pairSerde : SerdeJson where
  fromStr deserialize s :=
    if s = "\x7b\x7d" then deserialize (.object [])
    else if s = "[]" then deserialize (.array [])
    else if s = "\x7b\"a\":\"AQ==\"\x7d" then deserialize (.object [("a", .string "AQ==")])
    else if s = "\x7b\"b\":\"Ag==\"\x7d" then deserialize (.object [("b", .string "Ag==")])
    else if s = svnText then deserialize (.array [svn.toValue Rvps.tallyChrono])
    else .error "expected value at line 1 column 1"

/-- The file of the key-value storage, as it is created. -/
def emptyFile : Bytes := toUtf8 "\x7b\x7d"

def setA : Op := .set "a" [1] ⟨false⟩

def setB : Op := .set "b" [2] ⟨false⟩

/-- A call that sets a key that is absent in the file. -/
theorem plan_set {serde : SerdeJson} {file : Bytes} {items : Table String String} {key : String}
    {value : Bytes} (iteration : Table.Iteration String String)
    (h : serde.fromSlice KeyValue.LocalJson.readItems file = .ok items) :
    (KeyValue.LocalJson.fileStore serde).plan iteration (.set key value ⟨false⟩) file =
      (.ok .done, some (toUtf8 (KeyValue.LocalJson.writeItems iteration
        (items.insert key (Base64.encodeUrlSafe value))).print)) := by
  show (_, _) = _
  rw [h]
  simp [KeyValue.LocalJson.plan]

theorem fromSlice_pairSerde {s : String} {items : Table String String}
    (h : pairSerde.fromStr KeyValue.LocalJson.readItems s = .ok items) :
    pairSerde.fromSlice KeyValue.LocalJson.readItems (toUtf8 s) = .ok items := by
  rw [SerdeJson.fromSlice, fromUtf8_toUtf8]
  exact h

/-- A map of one key has one text. -/
theorem writeItems_one (iteration : Table.Iteration String String) (key value : String) :
    KeyValue.LocalJson.writeItems iteration (Table.empty.insert key value) =
      .object [(key, .string value)] := by
  have hone : Table.Enumerates [(key, value)] (Table.empty.insert key value) :=
    Table.Enumerates.nil.cons rfl value
  rw [KeyValue.LocalJson.writeItems, List.perm_singleton.1 (iteration.perm hone)]
  rfl

theorem print_one (iteration : Table.Iteration String String) :
    (KeyValue.LocalJson.writeItems iteration (Table.empty.insert "a"
      (Base64.encodeUrlSafe [1]))).print = "\x7b\"a\":\"AQ==\"\x7d" ∧
    (KeyValue.LocalJson.writeItems iteration (Table.empty.insert "b"
      (Base64.encodeUrlSafe [2]))).print = "\x7b\"b\":\"Ag==\"\x7d" := by
  rw [writeItems_one, writeItems_one]
  decide

/-- A map of both keys has no text of one key. -/
theorem writeItems_both_ne (iteration : Table.Iteration String String) {t : Table String String}
    {l : List (String × String)} (hl : l.Perm [("a", "AQ=="), ("b", "Ag==")])
    (h : Table.Enumerates l t) :
    (KeyValue.LocalJson.writeItems iteration t).print ≠ "\x7b\"b\":\"Ag==\"\x7d" := by
  rw [KeyValue.LocalJson.writeItems]
  rcases List.perm_pair.1 ((iteration.perm h).trans hl) with horder | horder
  · rw [horder]
    decide
  · rw [horder]
    decide

theorem fromStr_empty : pairSerde.fromStr KeyValue.LocalJson.readItems "\x7b\x7d" = .ok .empty := rfl

/-- One after the other, the calls leave both keys. -/
theorem file_ne_of_steps {key key' text : String} {value value' u t : Bytes}
    {l : List (String × String)}
    (htext : ∀ iteration, (KeyValue.LocalJson.writeItems iteration
      (Table.empty.insert key (Base64.encodeUrlSafe value))).print = text)
    (hread : pairSerde.fromStr KeyValue.LocalJson.readItems text =
      .ok (Table.empty.insert key (Base64.encodeUrlSafe value)))
    (hl : l.Perm [("a", "AQ=="), ("b", "Ag==")])
    (hboth : Table.Enumerates l ((Table.empty.insert key (Base64.encodeUrlSafe value)).insert key'
      (Base64.encodeUrlSafe value')))
    (hfirst : (KeyValue.LocalJson.fileStore pairSerde).spec.Step emptyFile
      (.set key value ⟨false⟩, .ok .done) u)
    (hsecond : (KeyValue.LocalJson.fileStore pairSerde).spec.Step u
      (.set key' value' ⟨false⟩, .ok .done) t) : t ≠ toUtf8 "\x7b\"b\":\"Ag==\"\x7d" := by
  obtain ⟨(iteration : Table.Iteration String String), contents, hplan, rfl⟩ := hfirst
  have hplan := (plan_set iteration (fromSlice_pairSerde fromStr_empty)).symm.trans hplan
  rw [htext] at hplan
  obtain ⟨-, rfl⟩ := Prod.mk.inj hplan
  obtain ⟨(iteration' : Table.Iteration String String), contents', hplan', rfl⟩ := hsecond
  have hplan' := (plan_set iteration' (fromSlice_pairSerde hread)).symm.trans hplan'
  obtain ⟨-, rfl⟩ := Prod.mk.inj hplan'
  intro heq
  have hprint := congrArg fromUtf8 heq
  rw [Option.getD_some, fromUtf8_toUtf8, fromUtf8_toUtf8] at hprint
  exact writeItems_both_ne iteration' hl hboth (Option.some.inj hprint)

/-- One after the other, calls that do not overwrite do not both succeed. -/
theorem not_both_succeed {iteration iteration' : Table.Iteration String Bytes}
    {value value' : Bytes} {u t : Table String Bytes}
    (hfirst : Backend.memory.storage.exec iteration Table.empty (.set "k" value ⟨false⟩) =
      (.ok .done, u))
    (hsecond : Backend.memory.storage.exec iteration' u (.set "k" value' ⟨false⟩) =
      (.ok .done, t)) : False := by
  rw [Memory.exec_set_of_none iteration value rfl] at hfirst
  obtain ⟨-, rfl⟩ := Prod.mk.inj hfirst
  have hsome : ((Table.empty.insert "k" value : Table String Bytes) "k").isSome = true := rfl
  have hsecond := (Memory.exec_set_of_some iteration' value' hsome).symm.trans hsecond
  cases (Prod.mk.inj hsecond).1

theorem fromSlice_svnText : pairSerde.fromSlice (Deserialize.vec
    (Rvps.ReferenceValue.fromValue Rvps.tallyChrono)) (toUtf8 svnText) = .ok [svn] := by
  have hread : pairSerde.fromStr (Deserialize.vec
      (Rvps.ReferenceValue.fromValue Rvps.tallyChrono)) svnText =
        Deserialize.vec (Rvps.ReferenceValue.fromValue Rvps.tallyChrono)
          (.array [svn.toValue Rvps.tallyChrono]) := by
    simp only [pairSerde]
    rw [if_neg (by decide), if_neg (by decide), if_neg (by decide), if_neg (by decide),
      if_pos trivial]
  rw [SerdeJson.fromSlice, fromUtf8_toUtf8]
  exact hread

/-- Two callers set two keys of the file, two set an absent key of the memory, of which one is
refused, and one gets the reference value that another sets. The two overlap, and neither disturbs
the other. -/
theorem linearizable_stores_serial :
    (∃ order t, IsLinearization (KeyValue.LocalJson.fileStore pairSerde).spec emptyFile
      [.invoke 0 setA, .invoke 1 setB, .respond 1 (.ok .done), .respond 0 (.ok .done)] order t) ∧
    (∃ order t, IsLinearization Backend.memory.storage.system .empty
      [.invoke 0 (.set "k" [1] ⟨false⟩), .invoke 1 (.set "k" [2] ⟨false⟩), .respond 0 (.ok .done),
        .respond 1 (.error (.setKeyFailed "key already exists" "k"))] order t) ∧
    ∃ order t, IsLinearization (Rvps.LocalJson.fileStore Rvps.tallyChrono pairSerde).spec
      (toUtf8 "[]") [.invoke 0 (.set "svn" svn), .invoke 1 (.get "svn"),
        .respond 1 (.ok (some svn)), .respond 0 (.ok none)] order t := by
  refine ⟨?_, ?_, ?_⟩
  · obtain ⟨iteration⟩ := (inferInstance : Nonempty (Table.Iteration String String))
    have hplanA : (KeyValue.LocalJson.fileStore pairSerde).plan iteration setA emptyFile = _ :=
      plan_set iteration (fromSlice_pairSerde fromStr_empty)
    rw [(print_one iteration).1] at hplanA
    have hplanB : (KeyValue.LocalJson.fileStore pairSerde).plan iteration setB
        (toUtf8 "\x7b\"a\":\"AQ==\"\x7d") = _ := plan_set iteration (fromSlice_pairSerde rfl)
    obtain ⟨tr, s, hrun, htr⟩ := FileStore.exists_run_turns hplanA hplanB
    obtain ⟨⟨order, t, horder, -⟩, -⟩ :=
      (linearizable_stores Rvps.tallyChrono pairSerde).1 emptyFile tr s hrun
    exact ⟨order, t, htr ▸ horder⟩
  · have hsome : ((Table.empty.insert "k" [1] : Table String Bytes) "k").isSome = true := rfl
    obtain ⟨iteration⟩ := (inferInstance : Nonempty (Table.Iteration String Bytes))
    have hexec := Memory.exec_set_of_some iteration [2] hsome
    have hrun : ∃ s, AllSteps (Memory.system .empty) Memory.Undisturbed ⟨.empty, .empty⟩
        [.invoke 0 (.set "k" [1] ⟨false⟩), .invoke 1 (.set "k" [2] ⟨false⟩), .move 0 .access,
          .move 0 .insert, .move 1 .access, .respond 0 (.ok .done),
          .respond 1 (.error (.setKeyFailed "key already exists" "k"))] s := by
      refine ⟨_, .cons trivial (.invoke rfl) (.cons trivial (.invoke rfl) (.cons trivial
        (.look rfl ⟨rfl, rfl⟩) (.cons ?_ (.insert rfl) (.cons trivial (.access rfl ?_ hexec)
          (.cons trivial (.respond rfl) (.cons trivial (.respond rfl) .nil))))))⟩
      · intro key value parameters h
        cases h
        rfl
      · rintro ⟨-, hnone⟩
        cases hnone
    obtain ⟨s, hrun⟩ := hrun
    obtain ⟨⟨order, horder⟩, -⟩ :=
      (linearizable_stores Rvps.tallyChrono pairSerde).2.1 .empty _ s hrun
    exact ⟨order, _, horder⟩
  · have hempty : pairSerde.fromSlice (Deserialize.vec
        (Rvps.ReferenceValue.fromValue Rvps.tallyChrono)) (toUtf8 "[]") = .ok [] := by
      rw [SerdeJson.fromSlice, fromUtf8_toUtf8]
      rfl
    have hplanSet : (Rvps.LocalJson.fileStore Rvps.tallyChrono pairSerde).plan () (.set "svn" svn)
        (toUtf8 "[]") = (.ok none, some (toUtf8 svnText)) := by
      simp only [Rvps.LocalJson.fileStore, hempty]
      rfl
    have hplanGet : (Rvps.LocalJson.fileStore Rvps.tallyChrono pairSerde).plan () (.get "svn")
        (toUtf8 svnText) = (.ok (some svn), none) := by
      simp only [Rvps.LocalJson.fileStore, fromSlice_svnText]
      rfl
    obtain ⟨tr, s, hrun, htr⟩ := FileStore.exists_run_turns hplanSet hplanGet
    obtain ⟨order, t, horder, -⟩ :=
      (linearizable_stores Rvps.tallyChrono pairSerde).2.2 (toUtf8 "[]") tr s hrun
    exact ⟨order, t, htr ▸ horder⟩

/-- Two callers set two keys of the file, and one of the keys is lost; and two callers set one absent
key of the memory without overwriting, and both succeed. No order of the calls does so. -/
theorem not_linearizable_stores :
    (∃ tr s, Run ((KeyValue.LocalJson.fileStore pairSerde).system emptyFile) ⟨emptyFile, .empty⟩ tr s ∧
      ¬ s.Busy ∧ ¬ ∃ order, IsLinearization (KeyValue.LocalJson.fileStore pairSerde).spec emptyFile
        (history tr) order s.file) ∧
    ∃ tr s, Run (Memory.system .empty) ⟨.empty, .empty⟩ tr s ∧
      ¬ ∃ order, IsLinearization Backend.memory.storage.system .empty (history tr) order s.items := by
  constructor
  · obtain ⟨iteration⟩ := (inferInstance : Nonempty (Table.Iteration String String))
    have hplanA : (KeyValue.LocalJson.fileStore pairSerde).plan iteration setA emptyFile = _ :=
      plan_set iteration (fromSlice_pairSerde fromStr_empty)
    have hplanB : (KeyValue.LocalJson.fileStore pairSerde).plan iteration setB emptyFile = _ :=
      plan_set iteration (fromSlice_pairSerde fromStr_empty)
    obtain ⟨s, hrun, hidle, hfile⟩ := FileStore.exists_run_overlap hplanA hplanB
    refine ⟨_, s, hrun, hidle, ?_⟩
    rintro ⟨order, horder⟩
    rw [(print_one iteration).2] at hfile
    have hsteps := horder.run
    rcases horder.order_eq Nat.zero_ne_one with rfl | rfl
    · obtain ⟨u, hfirst, hsecond⟩ := hsteps.exists_two_steps
      have hboth := (Table.Enumerates.nil.cons rfl (Base64.encodeUrlSafe [1])).cons
        (show (Table.empty.insert "a" (Base64.encodeUrlSafe [1])) "b" = none from rfl)
          (Base64.encodeUrlSafe [2])
      exact file_ne_of_steps (fun iteration => (print_one iteration).1) rfl (.swap _ _ _) hboth
        hfirst hsecond hfile
    · obtain ⟨u, hfirst, hsecond⟩ := hsteps.exists_two_steps
      have hboth := (Table.Enumerates.nil.cons rfl (Base64.encodeUrlSafe [2])).cons
        (show (Table.empty.insert "b" (Base64.encodeUrlSafe [2])) "a" = none from rfl)
          (Base64.encodeUrlSafe [1])
      exact file_ne_of_steps (fun iteration => (print_one iteration).2) rfl (.refl _) hboth
        hfirst hsecond hfile
  · have hnone : (Table.empty : Table String Bytes) "k" = none := rfl
    have hrun : ∃ s, Run (Memory.system .empty) ⟨.empty, .empty⟩ [.invoke 0 (.set "k" [1] ⟨false⟩),
        .invoke 1 (.set "k" [2] ⟨false⟩), .move 0 .access, .move 1 .access, .move 0 .insert,
        .move 1 .insert, .respond 0 (.ok .done), .respond 1 (.ok .done)] s :=
      ⟨_, .cons (.invoke rfl) (.cons (.invoke rfl) (.cons (.look rfl ⟨rfl, rfl⟩)
        (.cons (.look rfl ⟨rfl, rfl⟩) (.cons (.insert rfl) (.cons (.insert rfl) (.cons (.respond rfl)
          (.cons (.respond rfl) .nil)))))))⟩
    obtain ⟨s, hrun⟩ := hrun
    refine ⟨_, s, hrun, ?_⟩
    rintro ⟨order, horder⟩
    have hsteps := horder.run
    rcases horder.order_eq Nat.zero_ne_one with rfl | rfl
    · obtain ⟨u, ⟨iteration, hfirst⟩, iteration', hsecond⟩ := hsteps.exists_two_steps
      exact not_both_succeed hfirst hsecond
    · obtain ⟨u, ⟨iteration, hfirst⟩, iteration', hsecond⟩ := hsteps.exists_two_steps
      exact not_both_succeed hfirst hsecond

end Trustmee.Stores
