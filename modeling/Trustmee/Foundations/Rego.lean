import Trustmee.Foundations.Json

/-!
# Rego

The part of the Rego language that decision policies are written in: complete rules with bodies,
chains of `else` and defaults, over a JSON input. A body is a conjunction that may run through the
elements of a value; a part of the input that is not there makes what reads it undefined, and an
undefined literal fails. Rules with the same head must not give different values (`Policy.eval`).

A policy reads nothing but the parts of the input that its rules name (`Policy.eval_congr`), and it
has no conflict where its rules with the same head ask first for parts of the input that are not
there together (`Policy.exists_assigns_of_only`).
-/

namespace Trustmee.Rego

/-- What a policy is evaluated over. -/
structure Context where
  input : Json
  /-- The extensions, by their names, of one text. -/
  extension : String → String → Json
  /-- The order of values. -/
  compare : Json → Json → Ordering

/-! ## Values -/

/-- The part of a value at a path. -/
def follow : Json → List String → Option Json
  | v, [] => some v
  | v, k :: path => (v.get k).bind fun w => follow w path

/-- What `v[_]` runs through. -/
def elements : Json → List Json
  | .array l => l
  | .object m => m.map Prod.snd
  | _ => []

/-- Every value but `false` makes a literal true. -/
def truthy : Json → Bool
  | .bool b => b
  | _ => true

/-- `v in collection`. -/
def contains (compare : Json → Json → Ordering) (v collection : Json) : Bool :=
  (elements collection).any fun w => compare v w == .eq

theorem follow_append (v : Json) (path path' : List String) :
    follow v (path ++ path') = (follow v path).bind fun w => follow w path' := by
  induction path generalizing v with
  | nil => rfl
  | cons k path ih =>
    rw [List.cons_append, follow, follow]
    cases v.get k with
    | none => rfl
    | some w => exact ih w

/-! ## Policies -/

inductive Term
  | value (v : Json)
  /-- `input.k₁.k₂…`. -/
  | input (path : List String)
  /-- `x.k₁.k₂…`. -/
  | var (x : String) (path : List String)
  /-- An extension at a text. -/
  | call (name arg : String)

/-- A literal that binds no variable. -/
inductive Test
  | holds (t : Term)
  | eq (t t' : Term)
  | ge (t t' : Term)
  | mem (t collection : Term)
  /-- Another rule of the policy. -/
  | rule (name : String)

inductive Literal
  | test (t : Test)
  /-- `x := collection[_]`. -/
  | each (x : String) (collection : Term)

/-- A rule, with the bodies of its `else` branches, each with the value that it gives. -/
structure Rule where
  head : String
  branches : List (Json × List Literal)

/-- A policy. The helpers are rules that other rules name, and that name no rule themselves. -/
structure Policy where
  defaults : List (String × Json)
  helpers : List Rule
  rules : List Rule
  /-- The rules that are objects of the values of heads: the keys, each with its head. -/
  objects : List (String × List (String × String))

/-! ## Evaluation -/

variable (ctx : Context) (named : String → Bool)

def Term.eval (vars : Json.Map) : Term → Option Json
  | .value v => some v
  | .input path => follow ctx.input path
  | .var x path => (Json.Map.get vars x).bind fun v => follow v path
  | .call name arg => some (ctx.extension name arg)

/-- A comparison of what two terms stand for. -/
def compareTerms (p : Json → Json → Bool) (vars : Json.Map) (t t' : Term) : Bool :=
  (t.eval ctx vars).any fun v => (t'.eval ctx vars).any fun w => p v w

def Test.eval (vars : Json.Map) : Test → Bool
  | .holds t => (t.eval ctx vars).any truthy
  | .eq t t' => compareTerms ctx (fun v w => ctx.compare v w == .eq) vars t t'
  | .ge t t' => compareTerms ctx (fun v w => (ctx.compare v w).isGE) vars t t'
  | .mem t t' => compareTerms ctx (contains ctx.compare) vars t t'
  | .rule name => named name

/-- The variables, in each way in which the literal holds. -/
def Literal.solutions (vars : Json.Map) : Literal → List Json.Map
  | .test t => if t.eval ctx named vars then [vars] else []
  | .each x collection =>
    ((collection.eval ctx vars).elim [] elements).map fun v => vars.insert x v

/-- The body holds in some way. -/
def holds : Json.Map → List Literal → Bool
  | _, [] => true
  | vars, literal :: body => (literal.solutions ctx named vars).any fun vars => holds vars body

/-- The value of the first branch that holds. -/
def firstValue : List (Json × List Literal) → Option Json
  | [] => none
  | (v, body) :: branches => if holds ctx named [] body then some v else firstValue branches

def Rule.eval (rule : Rule) : Option Json := firstValue ctx named rule.branches

/-- A helper holds when one of its rules gives a value that is true. -/
def Policy.helper (P : Policy) (name : String) : Bool :=
  P.helpers.any fun rule => rule.head == name && (rule.eval ctx fun _ => false).any truthy

/-- The values that the rules of a head give. -/
def Policy.outputs (P : Policy) (head : String) : List Json :=
  (P.rules.filter fun rule => rule.head == head).filterMap fun rule =>
    rule.eval ctx (P.helper ctx)

/-- The value of a head. -/
def Policy.eval (P : Policy) (head : String) : Except String (Option Json) :=
  match P.outputs ctx head with
  | [] => .ok (Json.Map.get P.defaults head)
  | v :: outputs =>
    if outputs.all fun w => ctx.compare v w == .eq then .ok (some v)
    else .error "complete rules should not produce multiple outputs"

/-- The members of an object of the values of heads, where all of them have one. -/
def Policy.members (P : Policy) : List (String × String) →
    Except String (Option (List (String × Json)))
  | [] => .ok (some [])
  | (k, head) :: keys => do
    let v ← P.eval ctx head
    let members ← P.members keys
    return v.bind fun v => members.map fun members => (k, v) :: members

/-- The value of a rule that is an object. -/
def Policy.object (P : Policy) (name : String) : Except String (Option Json) :=
  match P.objects.lookup name with
  | some keys => do
    let members ← P.members ctx keys
    return members.map fun members => .object (Json.Map.ofList members)
  | none => .error "not a valid rule path"

/-- A head receives one value: all its rules that give one give this one, and where none does it is
the default. -/
structure Policy.Assigns (P : Policy) (head : String) (v : Json) : Prop where
  eval : P.eval ctx head = .ok (some v)
  rules : ∀ rule ∈ P.rules, rule.head = head → ∀ w, rule.eval ctx (P.helper ctx) = some w → w = v
  default : (∀ rule ∈ P.rules, rule.head = head → rule.eval ctx (P.helper ctx) = none) →
    Json.Map.get P.defaults head = some v

variable {ctx named}

@[simp] theorem holds_nil {vars : Json.Map} : holds ctx named vars [] = true := rfl

theorem holds_test_cons {vars : Json.Map} {t : Test} {body : List Literal} :
    holds ctx named vars (.test t :: body) =
      (t.eval ctx named vars && holds ctx named vars body) := by
  rw [holds, Literal.solutions]
  cases t.eval ctx named vars <;> simp

theorem holds_tests_append {vars : Json.Map} {tests : List Test} {body : List Literal} :
    holds ctx named vars (tests.map .test ++ body) =
      (tests.all (fun t => t.eval ctx named vars) && holds ctx named vars body) := by
  induction tests with
  | nil => rfl
  | cons t tests ih => rw [List.map_cons, List.cons_append, holds_test_cons, ih, List.all_cons,
      Bool.and_assoc]

theorem holds_each_cons {vars : Json.Map} {x : String} {collection : Term} {body : List Literal} :
    holds ctx named vars (.each x collection :: body) =
      ((collection.eval ctx vars).elim [] elements).any fun v =>
        holds ctx named (vars.insert x v) body := by
  rw [holds, Literal.solutions, List.any_map]
  rfl

/-- A head whose rules give one value at most receives one. -/
theorem Policy.exists_assigns {P : Policy} {head : String} {d : Json}
    (hone : (P.outputs ctx head).length ≤ 1) (hdefault : Json.Map.get P.defaults head = some d) :
    ∃ v, P.Assigns ctx head v := by
  have hmem : ∀ rule ∈ P.rules, rule.head = head → ∀ w, rule.eval ctx (P.helper ctx) = some w →
      w ∈ P.outputs ctx head := by
    intro rule hrule hhead w hw
    exact List.mem_filterMap.2 ⟨rule, List.mem_filter.2 ⟨hrule, by simp [hhead]⟩, hw⟩
  rcases houtputs : P.outputs ctx head with _ | ⟨v, outputs⟩
  · refine ⟨d, ⟨by rw [Policy.eval, houtputs, hdefault], ?_, fun _ => hdefault⟩⟩
    intro rule hrule hhead w hw
    have := hmem rule hrule hhead w hw
    rw [houtputs] at this
    cases this
  · rw [houtputs, List.length_cons] at hone
    obtain rfl : outputs = [] := List.eq_nil_of_length_eq_zero (by omega)
    refine ⟨v, ⟨by rw [Policy.eval, houtputs]; rfl, ?_, ?_⟩⟩
    · intro rule hrule hhead w hw
      have := hmem rule hrule hhead w hw
      rw [houtputs] at this
      exact List.mem_singleton.1 this
    · intro hnone
      have hv : v ∈ P.outputs ctx head := by
        rw [houtputs]
        exact List.mem_cons_self
      obtain ⟨rule, hrule, hv⟩ := List.mem_filterMap.1 hv
      rw [List.mem_filter, beq_iff_eq] at hrule
      rw [hnone rule hrule.1 hrule.2] at hv
      cases hv

/-! ## What a policy reads -/

/-- Two inputs are the same at the paths. -/
def SameAt (paths : List (List String)) (input input' : Json) : Prop :=
  ∀ path ∈ paths, follow input path = follow input' path

/-- The term reads nothing of the input but what is at the paths. -/
def Term.readsOnly (paths : List (List String)) : Term → Bool
  | .input path => paths.any fun p => p.isPrefixOf path
  | _ => true

def Test.readsOnly (paths : List (List String)) : Test → Bool
  | .holds t => t.readsOnly paths
  | .eq t t' | .ge t t' | .mem t t' => t.readsOnly paths && t'.readsOnly paths
  | .rule _ => true

def Literal.readsOnly (paths : List (List String)) : Literal → Bool
  | .test t => t.readsOnly paths
  | .each _ collection => collection.readsOnly paths

def Rule.readsOnly (paths : List (List String)) (rule : Rule) : Bool :=
  rule.branches.all fun branch => branch.2.all (Literal.readsOnly paths)

def Policy.readsOnly (paths : List (List String)) (P : Policy) : Bool :=
  P.helpers.all (Rule.readsOnly paths) && P.rules.all (Rule.readsOnly paths)

section Congr

variable {paths : List (List String)} {input' : Json}

theorem Term.eval_congr (h : SameAt paths ctx.input input') {t : Term}
    (ht : t.readsOnly paths = true) (vars : Json.Map) :
    t.eval { ctx with input := input' } vars = t.eval ctx vars := by
  cases t with
  | value v => rfl
  | input path =>
    obtain ⟨p, hp, hprefix⟩ := List.any_eq_true.1 ht
    obtain ⟨rest, rfl⟩ := List.isPrefixOf_iff_prefix.1 hprefix
    rw [Term.eval, Term.eval, follow_append, follow_append, h p hp]
  | var x path => rfl
  | call name arg => rfl

theorem compareTerms_congr (h : SameAt paths ctx.input input') {t t' : Term}
    (ht : (t.readsOnly paths && t'.readsOnly paths) = true) (p : Json → Json → Bool)
    (vars : Json.Map) :
    compareTerms { ctx with input := input' } p vars t t' = compareTerms ctx p vars t t' := by
  rw [Bool.and_eq_true] at ht
  rw [compareTerms, compareTerms, Term.eval_congr h ht.1, Term.eval_congr h ht.2]

theorem Test.eval_congr (h : SameAt paths ctx.input input') {t : Test}
    (ht : t.readsOnly paths = true) (vars : Json.Map) :
    t.eval { ctx with input := input' } named vars = t.eval ctx named vars := by
  cases t with
  | holds t => rw [Test.eval, Test.eval, Term.eval_congr h ht]
  | eq t t' => exact compareTerms_congr h ht _ vars
  | ge t t' => exact compareTerms_congr h ht _ vars
  | mem t t' => exact compareTerms_congr h ht _ vars
  | rule name => rfl

theorem Literal.solutions_congr (h : SameAt paths ctx.input input') {literal : Literal}
    (hl : literal.readsOnly paths = true) (vars : Json.Map) :
    literal.solutions { ctx with input := input' } named vars =
      literal.solutions ctx named vars := by
  cases literal with
  | test t => rw [Literal.solutions, Literal.solutions, Test.eval_congr h hl]
  | each x collection => rw [Literal.solutions, Literal.solutions, Term.eval_congr h hl]

theorem holds_congr (h : SameAt paths ctx.input input') {body : List Literal}
    (hbody : body.all (Literal.readsOnly paths) = true) (vars : Json.Map) :
    holds { ctx with input := input' } named vars body = holds ctx named vars body := by
  induction body generalizing vars with
  | nil => rfl
  | cons literal body ih =>
    rw [List.all_cons, Bool.and_eq_true] at hbody
    rw [holds, holds, Literal.solutions_congr h hbody.1]
    congr 1
    funext vars
    exact ih hbody.2 vars

theorem Rule.eval_congr (h : SameAt paths ctx.input input') {rule : Rule}
    (hrule : rule.readsOnly paths = true) :
    rule.eval { ctx with input := input' } named = rule.eval ctx named := by
  obtain ⟨head, branches⟩ := rule
  rw [Rule.eval, Rule.eval]
  induction branches with
  | nil => rfl
  | cons branch branches ih =>
    rw [Rule.readsOnly, List.all_cons, Bool.and_eq_true] at hrule
    obtain ⟨v, body⟩ := branch
    rw [firstValue, firstValue, holds_congr h hrule.1, ih hrule.2]

theorem Policy.helper_congr (h : SameAt paths ctx.input input') {P : Policy}
    (hP : P.helpers.all (Rule.readsOnly paths) = true) :
    P.helper { ctx with input := input' } = P.helper ctx := by
  rw [List.all_eq_true] at hP
  funext name
  rw [Policy.helper, Policy.helper, Bool.eq_iff_iff, List.any_eq_true, List.any_eq_true]
  constructor
  · rintro ⟨rule, hrule, heval⟩
    rw [Rule.eval_congr h (hP rule hrule)] at heval
    exact ⟨rule, hrule, heval⟩
  · rintro ⟨rule, hrule, heval⟩
    rw [← Rule.eval_congr h (hP rule hrule)] at heval
    exact ⟨rule, hrule, heval⟩

/-- A rule of a policy that reads nothing but what is at the paths. -/
theorem Policy.rule_congr (h : SameAt paths ctx.input input') {P : Policy}
    (hP : P.readsOnly paths = true) {rule : Rule} (hrule : rule ∈ P.rules) :
    rule.eval { ctx with input := input' } (P.helper { ctx with input := input' }) =
      rule.eval ctx (P.helper ctx) := by
  rw [Policy.readsOnly, Bool.and_eq_true] at hP
  rw [Policy.helper_congr h hP.1]
  exact Rule.eval_congr h (List.all_eq_true.1 hP.2 rule hrule)

theorem Policy.outputs_congr (h : SameAt paths ctx.input input') {P : Policy}
    (hP : P.readsOnly paths = true) (head : String) :
    P.outputs { ctx with input := input' } head = P.outputs ctx head := by
  apply List.filterMap_congr
  intro rule hrule
  exact Policy.rule_congr h hP (List.mem_filter.1 hrule).1

/-- **A policy reads nothing but what its rules name**: on inputs that are the same there, its heads
receive the same values. -/
theorem Policy.eval_congr (h : SameAt paths ctx.input input') {P : Policy}
    (hP : P.readsOnly paths = true) (head : String) :
    P.eval { ctx with input := input' } head = P.eval ctx head := by
  rw [Policy.eval, Policy.eval, Policy.outputs_congr h hP]

theorem Policy.members_congr (h : SameAt paths ctx.input input') {P : Policy}
    (hP : P.readsOnly paths = true) (keys : List (String × String)) :
    P.members { ctx with input := input' } keys = P.members ctx keys := by
  induction keys with
  | nil => rfl
  | cons p keys ih =>
    obtain ⟨k, head⟩ := p
    rw [Policy.members, Policy.members, Policy.eval_congr h hP, ih]

theorem Policy.object_congr (h : SameAt paths ctx.input input') {P : Policy}
    (hP : P.readsOnly paths = true) (name : String) :
    P.object { ctx with input := input' } name = P.object ctx name := by
  rw [Policy.object, Policy.object]
  cases P.objects.lookup name with
  | none => rfl
  | some keys =>
    dsimp only
    rw [Policy.members_congr h hP]

theorem Policy.Assigns.congr (h : SameAt paths ctx.input input') {P : Policy}
    (hP : P.readsOnly paths = true) {head : String} {v : Json} (hv : P.Assigns ctx head v) :
    P.Assigns { ctx with input := input' } head v := by
  constructor
  · rw [Policy.eval_congr h hP]
    exact hv.eval
  · intro rule hrule hhead w hw
    rw [Policy.rule_congr h hP hrule] at hw
    exact hv.rules rule hrule hhead w hw
  · intro hnone
    apply hv.default
    intro rule hrule hhead
    rw [← Policy.rule_congr h hP hrule]
    exact hnone rule hrule hhead

end Congr

/-! ## Rules that ask for a part of the input first -/

/-- The part of the input that a body asks for first. -/
def guardOf : List Literal → Option String
  | .test (.holds (.input [k])) :: _ => some k
  | _ => none

/-- The part of the input that all branches of a rule ask for first. -/
def Rule.guard (rule : Rule) : Option String :=
  match rule.branches with
  | [] => none
  | branch :: branches =>
    if branches.all fun other => guardOf other.2 == guardOf branch.2 then guardOf branch.2 else none

def Policy.rulesOf (P : Policy) (head : String) : List Rule :=
  P.rules.filter fun rule => rule.head == head

/-- The parts that the rules of a head ask for. -/
def Policy.guards (P : Policy) (head : String) : List (Option String) :=
  (P.rulesOf head).map Rule.guard

theorem guardOf_eq_some {body : List Literal} {k : String} :
    guardOf body = some k ↔ ∃ rest, body = .test (.holds (.input [k])) :: rest := by
  constructor
  · intro h
    unfold guardOf at h
    split at h
    · next k' rest =>
      cases h
      exact ⟨rest, rfl⟩
    · cases h
  · rintro ⟨rest, rfl⟩
    rfl

theorem Rule.guard_eq_some {rule : Rule} {k : String} (h : rule.guard = some k) :
    ∀ branch ∈ rule.branches, guardOf branch.2 = some k := by
  unfold Rule.guard at h
  split at h
  · cases h
  · next branch branches hbranches =>
    split at h
    · next hall =>
      rw [List.all_eq_true] at hall
      rw [hbranches]
      intro other hother
      rcases List.mem_cons.1 hother with rfl | hother
      · exact h
      · rw [← h]
        exact beq_iff_eq.1 (hall other hother)
    · cases h

theorem firstValue_of_absent {branches : List (Json × List Literal)} {k : String}
    (h : ∀ branch ∈ branches, guardOf branch.2 = some k) (habsent : ctx.input.get k = none) :
    firstValue ctx named branches = none := by
  induction branches with
  | nil => rfl
  | cons branch branches ih =>
    obtain ⟨v, body⟩ := branch
    obtain ⟨rest, rfl⟩ := guardOf_eq_some.1 (h _ List.mem_cons_self)
    have hfalse : holds ctx named [] (.test (.holds (.input [k])) :: rest) = false := by
      rw [holds_test_cons, Test.eval, Term.eval, follow, habsent]
      rfl
    rw [firstValue, hfalse, if_neg (by decide)]
    exact ih fun branch hbranch => h branch (List.mem_cons_of_mem _ hbranch)

/-- A rule gives nothing where what it asks for is not there. -/
theorem Rule.eval_of_absent {rule : Rule} {k : String} (h : rule.guard = some k)
    (habsent : ctx.input.get k = none) : rule.eval ctx named = none :=
  firstValue_of_absent (Rule.guard_eq_some h) habsent

/-- Where one of the parts is there alone, the rules that ask for it are those that give a value. -/
theorem Policy.outputs_of_only {P : Policy} {head k : String} (hguards : none ∉ P.guards head)
    (honly : ∀ k', some k' ∈ P.guards head → k' ≠ k → ctx.input.get k' = none) :
    P.outputs ctx head = ((P.rulesOf head).filter fun rule => rule.guard == some k).filterMap
      fun rule => rule.eval ctx (P.helper ctx) := by
  have hrules : ∀ rule ∈ P.rulesOf head, rule.guard ∈ P.guards head :=
    fun rule hrule => List.mem_map_of_mem hrule
  rw [Policy.outputs, ← Policy.rulesOf]
  revert hrules
  induction P.rulesOf head with
  | nil =>
    intro _
    rfl
  | cons rule rules ih =>
    intro hrules
    have hrest := ih fun rule hrule => hrules rule (List.mem_cons_of_mem _ hrule)
    have hguard := hrules rule List.mem_cons_self
    by_cases hk : rule.guard = some k
    · rw [List.filter_cons_of_pos (by simpa using hk), List.filterMap_cons, List.filterMap_cons,
        hrest]
    · have hnone : rule.eval ctx (P.helper ctx) = none := by
        cases hk' : rule.guard with
        | none =>
          rw [hk'] at hguard
          exact absurd hguard hguards
        | some k' =>
          rw [hk'] at hguard hk
          exact Rule.eval_of_absent hk' (honly k' hguard fun heq => hk (by rw [heq]))
      rw [List.filter_cons_of_neg (by simpa using hk), List.filterMap_cons, hnone, hrest]

/-- Where one of the parts is there alone and one rule asks for it, this rule decides. -/
theorem Policy.eval_of_only {P : Policy} {head k : String} {rule : Rule} {d : Json}
    (hguards : none ∉ P.guards head)
    (honly : ∀ k', some k' ∈ P.guards head → k' ≠ k → ctx.input.get k' = none)
    (hrule : ((P.rulesOf head).filter fun rule => rule.guard == some k) = [rule])
    (hdefault : Json.Map.get P.defaults head = some d) :
    P.eval ctx head = .ok (some ((rule.eval ctx (P.helper ctx)).getD d)) := by
  rw [Policy.eval, Policy.outputs_of_only hguards honly, hrule, List.filterMap_cons]
  cases rule.eval ctx (P.helper ctx) with
  | none => exact congrArg Except.ok hdefault
  | some v => rfl

/-- **A policy whose rules ask for different parts has no conflict** on an input with one part. -/
theorem Policy.exists_assigns_of_only {P : Policy} {head k : String} {d : Json}
    (hguards : none ∉ P.guards head) (hnodup : (P.guards head).Nodup)
    (honly : ∀ k', some k' ∈ P.guards head → k' ≠ k → ctx.input.get k' = none)
    (hdefault : Json.Map.get P.defaults head = some d) : ∃ v, P.Assigns ctx head v := by
  refine Policy.exists_assigns ?_ hdefault
  rw [Policy.outputs_of_only hguards honly]
  have hcount : (P.guards head).count (some k) ≤ 1 := List.nodup_iff_count.1 hnodup _
  rw [Policy.guards, List.count, List.countP_map, List.countP_eq_length_filter] at hcount
  exact Nat.le_trans (List.length_filterMap_le _ _) hcount

/-- A rule, but for what it asks for first. -/
def Rule.withoutGuard (rule : Rule) : Rule where
  head := rule.head
  branches := rule.branches.map fun branch => (branch.1, branch.2.tail)

theorem firstValue_tail {branches : List (Json × List Literal)} {k : String} {v : Json}
    (h : ∀ branch ∈ branches, guardOf branch.2 = some k) (hpresent : ctx.input.get k = some v)
    (htrue : truthy v = true) : firstValue ctx named branches =
      firstValue ctx named (branches.map fun branch => (branch.1, branch.2.tail)) := by
  induction branches with
  | nil => rfl
  | cons branch branches ih =>
    obtain ⟨w, body⟩ := branch
    obtain ⟨rest, rfl⟩ := guardOf_eq_some.1 (h _ List.mem_cons_self)
    have hguard : holds ctx named [] (.test (.holds (.input [k])) :: rest) =
        holds ctx named [] rest := by
      rw [holds_test_cons, Test.eval, Term.eval, follow, hpresent, Option.bind_some, follow,
        Option.any_some, htrue, Bool.true_and]
    rw [List.map_cons, firstValue, firstValue, hguard, List.tail_cons,
      ih fun branch hbranch => h branch (List.mem_cons_of_mem _ hbranch)]

/-- Where what a rule asks for is there, the rest of it decides. -/
theorem Rule.eval_of_present {rule : Rule} {k : String} {v : Json} (h : rule.guard = some k)
    (hpresent : ctx.input.get k = some v) (htrue : truthy v = true) :
    rule.eval ctx named = rule.withoutGuard.eval ctx named :=
  firstValue_tail (Rule.guard_eq_some h) hpresent htrue

/-! ## Bodies that ask for what is not there -/

/-- The part of the input that a literal is about. -/
def Literal.about : Literal → Option (List String)
  | .test (.holds (.input path)) => some path
  | .test (.eq (.input path) _) => some path
  | .test (.ge (.input path) _) => some path
  | .test (.mem (.input path) _) => some path
  | _ => none

theorem compareTerms_of_absent {p : Json → Json → Bool} {vars : Json.Map} {path : List String}
    {t : Term} (h : follow ctx.input path = none) :
    compareTerms ctx p vars (.input path) t = false := by
  rw [compareTerms, Term.eval, h, Option.any_none]

/-- Such a literal fails where the part is not there. -/
theorem Test.eval_of_absent {t : Test} {path : List String} {vars : Json.Map}
    (habout : (Literal.test t).about = some path) (h : follow ctx.input path = none) :
    t.eval ctx named vars = false := by
  unfold Literal.about at habout
  split at habout <;> try cases habout
  · next heq =>
    cases heq
    rw [Test.eval, Term.eval, h, Option.any_none]
  all_goals
    next heq =>
      cases heq
      exact compareTerms_of_absent h

/-- A body with such a literal does not hold. -/
theorem holds_of_absent {body : List Literal} {vars : Json.Map}
    (h : ∃ literal ∈ body, ∃ path, literal.about = some path ∧ follow ctx.input path = none) :
    holds ctx named vars body = false := by
  induction body generalizing vars with
  | nil =>
    obtain ⟨literal, hliteral, -⟩ := h
    cases hliteral
  | cons literal body ih =>
    obtain ⟨l, hl, path, habout, habsent⟩ := h
    rcases List.mem_cons.1 hl with rfl | hl
    · cases l with
      | test t => rw [holds_test_cons, Test.eval_of_absent habout habsent, Bool.false_and]
      | each x collection => cases habout
    · have hrest : ∀ vars, holds ctx named vars body = false :=
        fun vars => ih ⟨l, hl, path, habout, habsent⟩
      rw [holds, List.any_eq_false]
      intro vars _
      simp [hrest vars]

/-- A rule gives nothing where each of its bodies has such a literal. -/
theorem Rule.eval_of_about {rule : Rule} (h : ∀ branch ∈ rule.branches, ∃ literal ∈ branch.2,
    ∃ path, literal.about = some path ∧ follow ctx.input path = none) :
    rule.eval ctx named = none := by
  obtain ⟨head, branches⟩ := rule
  rw [Rule.eval]
  induction branches with
  | nil => rfl
  | cons branch branches ih =>
    obtain ⟨v, body⟩ := branch
    rw [List.forall_mem_cons] at h
    rw [firstValue, holds_of_absent h.1, if_neg Bool.false_ne_true]
    exact ih h.2

end Trustmee.Rego
