import Trustmee.Foundations.Bytes
import Trustmee.Foundations.Table
import Trustmee.Foundations.Transition

/-!
# Key-value storages

A storage keeps values under keys. Its purpose is a map: `contents` is the map that operations leave
behind, and `Answers` says what an operation is answered from a map. A storage is whatever answers
operations from a state (`Storage`), and it implements the map when every run of it is one of the
map (`Storage.Implements`).
-/

namespace Trustmee.KeyValue

open Transition

/-- `SetParameters`. -/
structure SetParameters where
  overwrite : Bool := false
  deriving DecidableEq

/-- `KeyValueStorageError`, of operations. A source is given by its text. -/
inductive KeyValueStorageError
  | setKeyFailed (source key : String)
  | getKeyFailed (source key : String)
  | listKeysFailed (source : String)
  | deleteKeyFailed (source key : String)
  | malformedValue (source : String)
  deriving DecidableEq

/-- `is_valid_key`. -/
def isValidKey (key : String) : Bool :=
  key.toList.all fun c => c.isAlphanum || c == '-' || c == '_' || c == '.' || c == '/'

/-- A call of `KeyValueStorage`. -/
inductive Op
  | set (key : String) (value : Bytes) (parameters : SetParameters)
  | list
  | get (key : String)
  | delete (key : String)

/-- What a call returns when it succeeds. -/
inductive Reply
  | done
  | keys (l : List String)
  | value (v : Option Bytes)

abbrev Answer := Except KeyValueStorageError Reply

/-- The key that a call is about is accepted by `is_valid_key`. -/
def Op.IsValid : Op → Prop
  | .set key _ _ | .get key | .delete key => isValidKey key = true
  | .list => True

/-! ## The map -/

/-- The map after an operation. -/
def next (t : Table String Bytes) : Op → Table String Bytes
  | .set key value parameters =>
    if parameters.overwrite ∨ t key = none then t.insert key value else t
  | .delete key => t.erase key
  | .get _ | .list => t

/-- The answer is the one of the map. A key that is there is not overwritten unless it is asked for;
an absent key has no value; the keys are listed once each, in any order. -/
def Answers (t : Table String Bytes) : Op → Answer → Prop
  | .set key _ parameters, answer =>
    if parameters.overwrite ∨ t key = none then answer = .ok .done else ∃ e, answer = .error e
  | .get key, answer | .delete key, answer => answer = .ok (.value (t key))
  | .list, answer =>
    ∃ keys : List String, answer = .ok (.keys keys) ∧ keys.Nodup ∧
      ∀ key, key ∈ keys ↔ (t key).isSome = true

/-- The map that operations leave, from the empty one. -/
def contents (ops : List Op) : Table String Bytes := ops.foldl next .empty

/-- The map as a system of operations and answers. -/
def mapSystem : System (Table String Bytes) (Op × Answer) where
  Init t := t = .empty
  Step t l t' := Answers t l.1 l.2 ∧ t' = next t l.1

theorem contents_concat (ops : List Op) (op : Op) :
    contents (ops ++ [op]) = next (contents ops) op := by
  simp [contents, List.foldl_append]

/-- Finitely many bindings stay finitely many. -/
theorem exists_enumerates_contents (ops : List Op) : ∃ l, (contents ops).Enumerates l := by
  induction ops using List.reverseRecOn with
  | nil => exact ⟨[], Table.Enumerates.nil⟩
  | append_singleton ops op ih =>
    obtain ⟨l, h⟩ := ih
    rw [contents_concat]
    cases op with
    | set key value parameters =>
      by_cases hset : parameters.overwrite = true ∨ contents ops key = none
      · exact ⟨_, by rw [next, if_pos hset]; exact h.insert key value⟩
      · exact ⟨l, by rwa [next, if_neg hset]⟩
    | delete key => exact ⟨_, h.erase key⟩
    | get key => exact ⟨l, h⟩
    | list => exact ⟨l, h⟩

/-- The map is what the operations leave, whatever they were answered. -/
theorem eq_contents_of_run {tr : List (Op × Answer)} {t : Table String Bytes}
    (h : Run mapSystem .empty tr t) : t = contents (tr.map Prod.fst) := by
  induction h with
  | nil => rfl
  | snoc _ hstep ih =>
    rw [List.map_append, List.map_singleton, contents_concat, hstep.2, ih]

/-! ## Storages -/

/-- A storage: how it answers an operation, in a state, and given the order in which it goes through
what it holds. -/
structure Storage where
  State : Type
  Order : Type
  empty : State
  exec : Order → State → Op → Answer × State
  nonempty_order : Nonempty Order

namespace Storage

/-- The runs of a storage. Each operation may go through what is there in another order. -/
def system (S : Storage) : System S.State (Op × Answer) where
  Init s := s = S.empty
  Step s l s' := ∃ order, S.exec order s l.1 = (l.2, s')

/-- Every run over the operations, from the empty storage, is one of the map. -/
def Implements (S : Storage) (ops : List Op) : Prop :=
  ∀ tr s, Run S.system S.empty tr s → tr.map Prod.fst = ops → ∃ t, Run mapSystem .empty tr t

/-- Operations can be run from every state. -/
theorem exists_run (S : Storage) (ops : List Op) (s : S.State) :
    ∃ tr s', Run S.system s tr s' ∧ tr.map Prod.fst = ops := by
  obtain ⟨order⟩ := S.nonempty_order
  induction ops generalizing s with
  | nil => exact ⟨[], s, .nil, rfl⟩
  | cons op ops ih =>
    obtain ⟨tr, s', hrun, hops⟩ := ih (S.exec order s op).2
    have hstep : S.system.Step s (op, (S.exec order s op).1) (S.exec order s op).2 := ⟨order, rfl⟩
    exact ⟨_ :: tr, s', hrun.cons hstep, by rw [List.map_cons, hops]⟩

end Storage

/-- Each of the operations meets a condition, in the map that those before it leave. -/
def EachMeets (C : Table String Bytes → Op → Prop) (ops : List Op) : Prop :=
  ∀ before op after, ops = before ++ op :: after → C (contents before) op

theorem eachMeets_nil {C : Table String Bytes → Op → Prop} : EachMeets C [] := by
  intro before op after heq
  cases (List.append_eq_nil_iff.1 heq.symm).2

theorem eachMeets_concat {C : Table String Bytes → Op → Prop} {ops : List Op} {op : Op} :
    EachMeets C (ops ++ [op]) ↔ EachMeets C ops ∧ C (contents ops) op := by
  constructor
  · intro h
    constructor
    · intro before op' after heq
      exact h before op' (after ++ [op]) (by rw [heq, List.append_assoc, List.cons_append])
    · exact h ops op [] rfl
  · intro h before op' after heq
    rcases List.eq_nil_or_concat after with rfl | ⟨after, last, rfl⟩
    · obtain ⟨rfl, hop⟩ := List.append_inj' heq rfl
      cases hop
      exact h.2
    · rw [List.concat_eq_append, ← List.cons_append, ← List.append_assoc] at heq
      obtain ⟨rfl, -⟩ := List.append_inj' heq rfl
      exact h.1 before op' after rfl

/-! ## Storages that represent the map -/

/-- What makes a storage implement the map under a condition on operations: its states represent
maps, an operation that meets the condition is answered from the map and leaves the next, and one
that does not is answered otherwise. -/
structure Storage.Represents (S : Storage) (C : Table String Bytes → Op → Prop) where
  Rep : S.State → Table String Bytes → Prop
  empty : Rep S.empty .empty
  step : ∀ s t l order op, Rep s t → Table.Enumerates l t → op.IsValid →
    (Answers t op (S.exec order s op).1 ↔ C t op) ∧
      (C t op → Rep (S.exec order s op).2 (next t op))

namespace Storage.Represents

variable {S : Storage} {C : Table String Bytes → Op → Prop} {ops : List Op}

/-- The states of runs represent what the operations leave. -/
theorem run (R : S.Represents C) (hvalid : ∀ op ∈ ops, op.IsValid) (hC : EachMeets C ops)
    {tr : List (Op × Answer)} {s : S.State} (h : Run S.system S.empty tr s)
    (hops : tr.map Prod.fst = ops) :
    Run mapSystem .empty tr (contents ops) ∧ R.Rep s (contents ops) := by
  induction h generalizing ops with
  | nil =>
    subst hops
    exact ⟨.nil, R.empty⟩
  | @snoc s s' tr l hrun hstep ih =>
    subst hops
    rw [List.map_append, List.map_singleton] at hvalid hC ⊢
    obtain ⟨hbefore, hop⟩ := eachMeets_concat.1 hC
    obtain ⟨hmap, hrep⟩ := ih (fun op h => hvalid op (List.mem_append_left _ h)) hbefore rfl
    obtain ⟨order, hexec⟩ := hstep
    obtain ⟨bindings, hbindings⟩ := exists_enumerates_contents (tr.map Prod.fst)
    obtain ⟨hanswer, hnext⟩ := R.step s _ bindings order l.1 hrep hbindings (hvalid _ (by simp))
    rw [hexec] at hanswer hnext
    rw [contents_concat]
    exact ⟨hmap.snoc ⟨hanswer.2 hop, rfl⟩, hnext hop⟩

/-- In a storage that implements the map on the operations, the first of them meet the condition. -/
theorem eachMeets_of_implements (R : S.Represents C) {before after : List Op}
    (hvalid : ∀ op ∈ before ++ after, op.IsValid) (h : S.Implements (before ++ after)) :
    EachMeets C before := by
  induction before using List.reverseRecOn generalizing after with
  | nil => exact eachMeets_nil
  | append_singleton before op ih =>
    rw [List.append_assoc] at h hvalid
    have hC : EachMeets C before := ih hvalid h
    have hvalid' : ∀ op ∈ before, op.IsValid := fun op h => hvalid op (List.mem_append_left _ h)
    -- a run over all of the operations, which stops before the one in question
    obtain ⟨tr, s, hfirst, hops⟩ := S.exists_run before S.empty
    obtain ⟨tr', u, hrest, hops'⟩ := S.exists_run ([op] ++ after) s
    obtain ⟨l, tr', rfl⟩ : ∃ l tr'', tr' = l :: tr'' := by
      cases tr' with
      | nil => cases hops'
      | cons l tr' => exact ⟨l, tr', rfl⟩
    obtain ⟨rfl, -⟩ := List.cons_eq_cons.1 hops'
    obtain ⟨t, hmap⟩ := h _ _ (hfirst.trans hrest) (by rw [List.map_append, hops, hops'])
    obtain ⟨t, hmap, hmaprest⟩ := hmap.split
    obtain ⟨_, ⟨hanswer, -⟩, -⟩ := hmaprest.exists_step
    rw [eq_contents_of_run hmap, hops] at hanswer
    obtain ⟨s', ⟨order, hexec⟩, -⟩ := hrest.exists_step
    obtain ⟨bindings, hbindings⟩ := exists_enumerates_contents before
    obtain ⟨hiff, -⟩ := R.step s _ bindings order l.1 (R.run hvalid' hC hfirst hops).2 hbindings
      (hvalid _ (by simp))
    rw [hexec] at hiff
    exact eachMeets_concat.2 ⟨hC, hiff.1 hanswer⟩

/-- **A storage implements the map on the operations that all meet the condition**, and on no
others. -/
theorem eachMeets_iff (R : S.Represents C) (hvalid : ∀ op ∈ ops, op.IsValid) :
    S.Implements ops ↔ EachMeets C ops := by
  constructor
  · intro h
    rw [← List.append_nil ops] at hvalid h
    exact R.eachMeets_of_implements hvalid h
  · intro hC tr s hrun hops
    exact ⟨_, (R.run hvalid hC hrun hops).1⟩

end Storage.Represents

end Trustmee.KeyValue
