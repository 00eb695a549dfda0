import Trustmee.Foundations.JsonText
import Trustmee.KeyValue.Agreement

/-!
# Policies in a key-value storage

The `policy-engine` crate keeps policies as texts in any key-value storage, and evaluates them with
`regorus`. Its purpose is a map from identifiers to texts, with evaluation by the text of an
identifier (`PolicyEngine.spec`). Over a storage that represents the map of its keys, as each of the
backends does under its condition, every run of calls is one of this map (`runs_refine`): what was
put in comes out as the same text, and no policy is found not to be a text.
-/

namespace Trustmee

open KeyValue Transition

/-! ## The engine -/

/-- The `regorus` crate, and what the engine takes from others. -/
structure Regorus where
  Engine : Type
  new : Engine
  addPolicy : Engine → String → String → Except String Engine
  Value : Type
  /-- `Value::from_json_str`. -/
  fromJsonStr : String → Except String Value
  addData : Engine → Value → Except String Engine
  setInputJson : Engine → String → Except String Engine
  evalRule : Engine → String → Except String Value
  toJsonStr : Value → Except String String
  serde : SerdeJson
  sha384 : Bytes → Bytes

/-- `PolicyEngine`. -/
structure PolicyEngine where
  storage : Storage
  engine : Regorus

namespace PolicyEngine

/-- `PolicyError`. A source is given by its text. -/
inductive PolicyError
  | serdeJsonError (source : String)
  | policyStorageError (source : KeyValueStorageError)
  | policyNotFound (id : String)
  | policyIsNotUtf8String (id : String)
  | loadPolicyFailed (source : String)
  | loadReferenceDataFailed (source : String)
  | setInputDataFailed (source : String)
  | jsonSerializationFailed (source : String)
  | evalPolicyFailed (source : String)

structure EvaluationResult where
  rulesResult : Json
  policyHash : String

def EVAL_RULE : String := "data.policy.result"

/-- `Regorus::evaluate`. -/
def evaluateWith (R : Regorus) (data input policy : String) :
    Except PolicyError EvaluationResult := do
  let policyHash := hexEncode (R.sha384 (toUtf8 policy))
  let engine ← (R.addPolicy R.new "" policy).mapError .loadPolicyFailed
  let data ← (R.fromJsonStr data).mapError .jsonSerializationFailed
  let engine ← (R.addData engine data).mapError .loadReferenceDataFailed
  let engine ← (R.setInputJson engine input).mapError .setInputDataFailed
  let claimValue ← (R.evalRule engine EVAL_RULE).mapError .evalPolicyFailed
  let claimValue ← (R.toJsonStr claimValue).mapError .jsonSerializationFailed
  let rulesResult ← (R.serde.fromStr .ok claimValue).mapError .serdeJsonError
  return ⟨rulesResult, policyHash⟩

/-! ## Calls -/

variable (E : PolicyEngine)

/-- An error of the storage. -/
def storageResult {α : Type} (ofReply : Reply → α) : Answer → Except PolicyError α
  | .ok reply => .ok (ofReply reply)
  | .error e => .error (.policyStorageError e)

/-- The value in a reply, of a storage that was asked for one. -/
def Reply.value : Reply → Option Bytes
  | .value v => v
  | .done | .keys _ => none

/-- The keys in a reply, of a storage that was asked to list them. -/
def Reply.keys : Reply → List String
  | .keys l => l
  | .done | .value _ => []

/-- The text of what is found under an identifier. -/
def readPolicy (policyId : String) : Option Bytes → Except PolicyError String
  | some policyStr => match fromUtf8 policyStr with
    | some policy => .ok policy
    | none => .error (.policyIsNotUtf8String policyId)
  | none => .error (.policyNotFound policyId)

section

variable (order : E.storage.Order) (s : E.storage.State)

/-- `get_policy`. -/
def getPolicy (policyId : String) : Except PolicyError String × E.storage.State :=
  let (answer, s) := E.storage.exec order s (.get policyId)
  (storageResult Reply.value answer >>= readPolicy policyId, s)

/-- `evaluate`. -/
def evaluate (data input policyId : String) :
    Except PolicyError EvaluationResult × E.storage.State :=
  let (policy, s) := E.getPolicy order s policyId
  (policy >>= evaluateWith E.engine data input, s)

/-- `set_policy`. -/
def setPolicy (policyId policy : String) (overwrite : Bool) :
    Except PolicyError Unit × E.storage.State :=
  let params : SetParameters := ⟨overwrite⟩
  let (answer, s) := E.storage.exec order s (.set policyId (toUtf8 policy) params)
  (storageResult (fun _ => ()) answer, s)

/-- `list_policies`. -/
def listPolicies : Except PolicyError (List String) × E.storage.State :=
  let (answer, s) := E.storage.exec order s .list
  (storageResult Reply.keys answer, s)

end

/-- A call of a `PolicyEngine`. -/
inductive Call
  | evaluate (data input policyId : String)
  | setPolicy (policyId policy : String) (overwrite : Bool)
  | listPolicies
  | getPolicy (policyId : String)

/-- What a call returns when it succeeds. -/
inductive Returned
  | evaluation (result : EvaluationResult)
  | done
  | policies (ids : List String)
  | policy (text : String)

abbrev Result := Except PolicyError Returned

/-- A call, given the order in which the storage goes through what it holds. -/
def exec (order : E.storage.Order) (s : E.storage.State) : Call → Result × E.storage.State
  | .evaluate data input policyId =>
    let (result, s) := E.evaluate order s data input policyId
    (result.map .evaluation, s)
  | .setPolicy policyId policy overwrite =>
    let (result, s) := E.setPolicy order s policyId policy overwrite
    (result.map fun _ => .done, s)
  | .listPolicies =>
    let (result, s) := E.listPolicies order s
    (result.map .policies, s)
  | .getPolicy policyId =>
    let (result, s) := E.getPolicy order s policyId
    (result.map .policy, s)

/-- The operation of the storage in a call. -/
def Call.op : Call → Op
  | evaluate _ _ policyId | getPolicy policyId => .get policyId
  | setPolicy policyId policy overwrite => .set policyId (toUtf8 policy) ⟨overwrite⟩
  | listPolicies => .list

/-- The runs of the engine. -/
def system : System E.storage.State (Call × Result) where
  Init s := s = E.storage.empty
  Step s l s' := ∃ order, E.exec order s l.1 = (l.2, s')

/-! ## The map of policies -/

/-- The policies after a call. -/
def next (policies : Table String String) : Call → Table String String
  | .setPolicy policyId policy overwrite =>
    if overwrite ∨ policies policyId = none then policies.insert policyId policy else policies
  | .evaluate _ _ _ | .listPolicies | .getPolicy _ => policies

/-- The result is the one of the policies: a policy that is there is not overwritten unless it is
asked for, and what is evaluated is the text that was set. -/
def Returns (policies : Table String String) : Call → Result → Prop
  | .evaluate data input policyId, result =>
    result = match policies policyId with
      | some policy => (evaluateWith E.engine data input policy).map .evaluation
      | none => .error (.policyNotFound policyId)
  | .setPolicy policyId _ overwrite, result =>
    if overwrite ∨ policies policyId = none then result = .ok .done else ∃ e, result = .error e
  | .listPolicies, result => ∃ ids : List String, result = .ok (.policies ids) ∧ ids.Nodup ∧
      ∀ id, id ∈ ids ↔ (policies id).isSome = true
  | .getPolicy policyId, result =>
    result = match policies policyId with
      | some policy => .ok (.policy policy)
      | none => .error (.policyNotFound policyId)

/-- The map as a system of calls and results. -/
def spec : System (Table String String) (Call × Result) where
  Init policies := policies = .empty
  Step policies l policies' := E.Returns policies l.1 l.2 ∧ policies' = next policies l.1

/-! ## Refinement -/

/-- The policies, as the storage has them. -/
def stored (policies : Table String String) : Table String Bytes :=
  fun id => (policies id).map toUtf8

theorem stored_eq_none {policies : Table String String} {id : String} :
    stored policies id = none ↔ policies id = none := Option.map_eq_none_iff

theorem stored_insert (policies : Table String String) (id policy : String) :
    stored (policies.insert id policy) = (stored policies).insert id (toUtf8 policy) := by
  ext1 id'
  rw [stored, Table.insert_apply, Table.insert_apply, stored]
  split_ifs <;> rfl

/-- A call changes what is stored as its operation does. -/
theorem stored_next (policies : Table String String) (call : Call) :
    stored (next policies call) = KeyValue.next (stored policies) call.op := by
  cases call with
  | setPolicy policyId policy overwrite =>
    rw [next, Call.op, KeyValue.next]
    by_cases hset : overwrite = true ∨ policies policyId = none
    · rw [if_pos hset, if_pos (hset.imp_right stored_eq_none.2), stored_insert]
    · rw [if_neg hset, if_neg fun h => hset (h.imp_right stored_eq_none.1)]
  | evaluate data input policyId => rfl
  | listPolicies => rfl
  | getPolicy policyId => rfl

variable {E} {policies : Table String String} {order : E.storage.Order} {s : E.storage.State}

/-- A call is one operation of the storage. -/
theorem exec_state (call : Call) :
    (E.exec order s call).2 = (E.storage.exec order s call.op).2 := by
  cases call <;> rfl

theorem getPolicy_eq {policyId : String}
    (h : Answers (stored policies) (.get policyId) (E.storage.exec order s (.get policyId)).1) :
    (E.getPolicy order s policyId).1 = match policies policyId with
      | some policy => .ok policy
      | none => .error (.policyNotFound policyId) := by
  have hanswer : (E.storage.exec order s (.get policyId)).1 =
      .ok (.value (stored policies policyId)) := h
  simp only [getPolicy, hanswer]
  change readPolicy policyId (stored policies policyId) = _
  rw [stored]
  cases policies policyId with
  | none => rfl
  | some policy => rw [Option.map_some, readPolicy, fromUtf8_toUtf8]

/-- **A call returns what it should** where its operation is answered from what is stored. -/
theorem returns_exec {call : Call}
    (h : Answers (stored policies) call.op (E.storage.exec order s call.op).1) :
    E.Returns policies call (E.exec order s call).1 := by
  cases call with
  | evaluate data input policyId =>
    simp only [Returns, exec, evaluate, getPolicy_eq h]
    cases policies policyId <;> rfl
  | getPolicy policyId =>
    simp only [Returns, exec, getPolicy_eq h]
    cases policies policyId <;> rfl
  | setPolicy policyId policy overwrite =>
    simp only [Call.op, Answers] at h
    simp only [Returns, exec, setPolicy]
    by_cases hset : overwrite = true ∨ policies policyId = none
    · rw [if_pos (hset.imp_right stored_eq_none.2)] at h
      rw [if_pos hset, h]
      rfl
    · rw [if_neg fun h => hset (h.imp_right stored_eq_none.1)] at h
      obtain ⟨e, he⟩ := h
      rw [if_neg hset, he]
      exact ⟨_, rfl⟩
  | listPolicies =>
    obtain ⟨keys, hkeys, hnodup, hmem⟩ := h
    simp only [exec, listPolicies]
    change (E.storage.exec order s .list).1 = _ at hkeys
    rw [hkeys]
    refine ⟨keys, rfl, hnodup, fun id => ?_⟩
    rw [hmem, stored, Option.isSome_map]

/-- **Runs of the engine are runs of the map of policies**, over a storage that represents the map of
its keys, as long as each call's operation meets the storage's condition. -/
theorem runs_refine {C : Table String Bytes → Op → Prop} (R : E.storage.Represents C)
    {tr : List (Call × Result)} {s : E.storage.State} (h : Run E.system E.storage.empty tr s)
    (hvalid : ∀ l ∈ tr, l.1.op.IsValid) (hmeets : EachMeets C (tr.map fun l => l.1.op)) :
    ∃ policies, Run E.spec .empty tr policies ∧ R.Rep s (stored policies) := by
  suffices hrun : ∃ policies, Run E.spec .empty tr policies ∧ R.Rep s (stored policies) ∧
      stored policies = contents (tr.map fun l => l.1.op) by
    obtain ⟨policies, hspec, hrep, -⟩ := hrun
    exact ⟨policies, hspec, hrep⟩
  induction h with
  | nil => exact ⟨.empty, .nil, R.empty, rfl⟩
  | @snoc s s' tr l hrun hstep ih =>
    rw [List.map_append, List.map_singleton] at hmeets ⊢
    obtain ⟨hbefore, hop⟩ := eachMeets_concat.1 hmeets
    obtain ⟨policies, hspec, hrep, hcontents⟩ :=
      ih (fun l hl => hvalid l (List.mem_append_left _ hl)) hbefore
    obtain ⟨order, hexec⟩ := hstep
    obtain ⟨bindings, hbindings⟩ := exists_enumerates_contents (tr.map fun l => l.1.op)
    rw [← hcontents] at hbindings hop
    obtain ⟨hanswer, hnext⟩ := R.step s _ bindings order l.1.op hrep hbindings
      (hvalid l (by simp))
    obtain ⟨call, result⟩ := l
    have hresult : (E.exec order s call).1 = result := congrArg Prod.fst hexec
    have hstate : (E.storage.exec order s call.op).2 = s' :=
      (exec_state call).symm.trans (congrArg Prod.snd hexec)
    refine ⟨next policies call, hspec.snoc ⟨?_, rfl⟩, ?_, ?_⟩
    · exact hresult ▸ returns_exec (hanswer.2 hop)
    · rw [stored_next, ← hstate]
      exact hnext hop
    · rw [stored_next, contents_concat, hcontents]

/-! ## A policy that is replaced -/

def denyPolicy : String := "package policy\n\nresult := false"

def equalsPolicy : String := "package policy\n\nresult := input == data.expected"

/-- SHA-384 of the two policies. -/
def policyDigest (b : Bytes) : Bytes :=
  if fromUtf8 b = some denyPolicy then
    [0x77, 0x1c, 0x85, 0x29, 0x50, 0x5c, 0x30, 0xd0, 0xd7, 0x36, 0x6c, 0xec, 0xd3, 0xad, 0xdc, 0xc0,
     0xdd, 0x34, 0xbb, 0xa7, 0x64, 0xc1, 0xa7, 0xf6, 0x1e, 0x16, 0x12, 0xad, 0xfe, 0xed, 0xdf, 0x16,
     0x55, 0x52, 0xd8, 0x0a, 0x13, 0xa0, 0xe6, 0xe9, 0xcf, 0x74, 0x8f, 0xd3, 0xc3, 0x76, 0x38, 0xa9]
  else if fromUtf8 b = some equalsPolicy then
    [0xac, 0xc0, 0x0c, 0x52, 0x80, 0xc6, 0xc5, 0xce, 0xc9, 0x37, 0x9d, 0x36, 0xca, 0xdc, 0x9d, 0xa2,
     0xca, 0x01, 0x0e, 0xfd, 0x2c, 0xec, 0xb7, 0x43, 0x9f, 0x9d, 0x84, 0x42, 0x7d, 0x34, 0xb5, 0xb4,
     0xe2, 0x86, 0x96, 0xba, 0xa2, 0x2b, 0xaa, 0x70, 0x9c, 0x32, 0xae, 0x78, 0xde, 0x26, 0xcd, 0x87]
  else []

/-- What an engine was given: its policy, its data and its input. -/
structure ExampleState where
  policy : String
  data : String
  input : String

/-- An engine for the two policies. -/
abbrev exampleRegorus : Regorus where
  Engine := ExampleState
  new := ⟨"", "", ""⟩
  addPolicy e _ policy :=
    if policy = denyPolicy ∨ policy = equalsPolicy then .ok { e with policy }
    else .error "expecting package"
  Value := String
  fromJsonStr text := .ok text
  addData e data := .ok { e with data }
  setInputJson e input := .ok { e with input }
  evalRule e rule :=
    if rule ≠ EVAL_RULE then .error "not a valid rule path"
    else if e.policy = equalsPolicy ∧ e.data = "\x7b\"expected\":" ++ e.input ++ "\x7d" then
      .ok "true"
    else .ok "false"
  toJsonStr text := .ok text
  serde := ⟨fun deserialize text =>
    if text = "true" then deserialize (.bool true)
    else if text = "false" then deserialize (.bool false)
    else .error "expected value at line 1 column 1"⟩
  sha384 := policyDigest

/-- The engine over the storage in memory. -/
abbrev exampleEngine : PolicyEngine where
  storage := Backend.memory.storage
  engine := exampleRegorus

/-- The data and the input that the policy is about. -/
def expectedSvn : String := "\x7b\"expected\":2\x7d"

theorem evaluateWith_denyPolicy : evaluateWith exampleRegorus expectedSvn "2" denyPolicy =
    .ok ⟨.bool false, "771c8529505c30d0d7366cecd3addcc0dd34bba764c1a7f61e1612adfeeddf16" ++
      "5552d80a13a0e6e9cf748fd3c37638a9"⟩ := by
  have hdigest : hexEncode (policyDigest (toUtf8 denyPolicy)) =
      "771c8529505c30d0d7366cecd3addcc0dd34bba764c1a7f61e1612adfeeddf16" ++
        "5552d80a13a0e6e9cf748fd3c37638a9" := by
    rw [policyDigest, fromUtf8_toUtf8, if_pos rfl]
    decide
  rw [evaluateWith, hdigest]
  rfl

theorem evaluateWith_equalsPolicy : evaluateWith exampleRegorus expectedSvn "2" equalsPolicy =
    .ok ⟨.bool true, "acc00c5280c6c5cec9379d36cadc9da2ca010efd2cecb7439f9d84427d34b5b4" ++
      "e28696baa22baa709c32ae78de26cd87"⟩ := by
  have hdigest : hexEncode (policyDigest (toUtf8 equalsPolicy)) =
      "acc00c5280c6c5cec9379d36cadc9da2ca010efd2cecb7439f9d84427d34b5b4" ++
        "e28696baa22baa709c32ae78de26cd87" := by
    rw [policyDigest, fromUtf8_toUtf8, if_neg (by decide), if_pos rfl]
    decide
  rw [evaluateWith, hdigest]
  rfl

/-- A policy is set and evaluated; another does not replace it, but for a call that overwrites. -/
def exampleCalls : List (Call × Result) :=
  [(.setPolicy "release" denyPolicy false, .ok .done),
   (.evaluate expectedSvn "2" "release", .ok (.evaluation ⟨.bool false,
      "771c8529505c30d0d7366cecd3addcc0dd34bba764c1a7f61e1612adfeeddf16" ++
        "5552d80a13a0e6e9cf748fd3c37638a9"⟩)),
   (.setPolicy "release" equalsPolicy false,
      .error (.policyStorageError (.setKeyFailed "key already exists" "release"))),
   (.setPolicy "release" equalsPolicy true, .ok .done),
   (.evaluate expectedSvn "2" "release", .ok (.evaluation ⟨.bool true,
      "acc00c5280c6c5cec9379d36cadc9da2ca010efd2cecb7439f9d84427d34b5b4" ++
        "e28696baa22baa709c32ae78de26cd87"⟩)),
   (.evaluate expectedSvn "2" "debug", .error (.policyNotFound "debug"))]

/-- An evaluation in the memory is one of the text that is there. -/
theorem exec_evaluate {order : exampleEngine.storage.Order} {items : Table String Bytes}
    {policyId policy data input : String} {result : EvaluationResult}
    (hpolicy : items policyId = some (toUtf8 policy))
    (h : evaluateWith exampleRegorus data input policy = .ok result) :
    exampleEngine.exec order items (.evaluate data input policyId) =
      (.ok (.evaluation result), items) := by
  have hread : (exampleEngine.getPolicy order items policyId).1 = .ok policy := by
    change readPolicy policyId (items policyId) = _
    rw [hpolicy, readPolicy, fromUtf8_toUtf8]
  simp only [exec, evaluate, hread]
  exact Prod.ext (by simp only [h, bind, Except.bind, Except.map]) rfl

theorem runs_refine_example :
    ∃ policies, Run exampleEngine.spec .empty exampleCalls policies ∧
      ((Table.empty.insert "release" (toUtf8 denyPolicy)).insert "release" (toUtf8 equalsPolicy) :
        Table String Bytes) = stored policies := by
  obtain ⟨order⟩ := exampleEngine.storage.nonempty_order
  have hdeny : (Table.empty.insert "release" (toUtf8 denyPolicy) : Table String Bytes) "release" =
      some (toUtf8 denyPolicy) := Table.insert_self _ _ _
  have hequals : ((Table.empty.insert "release" (toUtf8 denyPolicy)).insert "release"
      (toUtf8 equalsPolicy) : Table String Bytes) "release" = some (toUtf8 equalsPolicy) :=
    Table.insert_self _ _ _
  have hrun : Run exampleEngine.system exampleEngine.storage.empty exampleCalls
      ((Table.empty.insert "release" (toUtf8 denyPolicy)).insert "release" (toUtf8 equalsPolicy) :
        Table String Bytes) :=
    .cons ⟨order, rfl⟩ (.cons ⟨order, exec_evaluate hdeny evaluateWith_denyPolicy⟩
      (.cons ⟨order, rfl⟩ (.cons ⟨order, rfl⟩
        (.cons ⟨order, exec_evaluate hequals evaluateWith_equalsPolicy⟩
          (.cons ⟨order, rfl⟩ .nil)))))
  refine runs_refine Backend.memoryRepresents hrun ?_ fun _ _ _ _ => trivial
  have hkeys : isValidKey "release" = true ∧ isValidKey "debug" = true := by decide
  simp [exampleCalls, Call.op, Op.IsValid, hkeys]

end PolicyEngine

end Trustmee
