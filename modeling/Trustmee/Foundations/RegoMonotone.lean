import Trustmee.Foundations.Rego

/-!
# More to find

Bodies of rules have no negation, so what they find they still find where a collection that they
look into has more in it (`holds_mono`). A chain of `else` then stops where it stopped or earlier
(`firstValue_mono`), and where its values are in an order, with the default at the end, the value of
a rule goes down or stays (`Policy.getD_mono`). This needs that the collections which may grow are
looked into, and not compared (`Policy.monotone`).
-/

namespace Trustmee.Rego

/-- Some extensions give a collection with more in it, and nothing else changes. -/
structure Context.Grows (grown : String → Bool) (ctx ctx' : Context) : Prop where
  input : ctx'.input = ctx.input
  compare : ctx'.compare = ctx.compare
  same : ∀ name arg, grown arg = false → ctx'.extension name arg = ctx.extension name arg
  more : ∀ name arg, grown arg = true → ∀ v,
    contains ctx.compare v (ctx.extension name arg) = true →
      contains ctx.compare v (ctx'.extension name arg) = true

/-! ## Where growing extensions may stand -/

/-- The term is no extension that may grow. -/
def Term.fixed (grown : String → Bool) : Term → Bool
  | .call _ arg => !grown arg
  | _ => true

def Test.monotone (grown : String → Bool) : Test → Bool
  | .holds t => t.fixed grown
  | .eq t t' | .ge t t' => t.fixed grown && t'.fixed grown
  | .mem t (.call _ _) => t.fixed grown
  | .mem t t' => t.fixed grown && t'.fixed grown
  | .rule _ => true

def Literal.monotone (grown : String → Bool) : Literal → Bool
  | .test t => t.monotone grown
  | .each _ collection => collection.fixed grown

def Rule.monotone (grown : String → Bool) (rule : Rule) : Bool :=
  rule.branches.all fun branch => branch.2.all (Literal.monotone grown)

/-- Extensions that may grow are looked into, and helpers hold where they give a value. -/
def Policy.monotone (grown : String → Bool) (P : Policy) : Bool :=
  P.helpers.all (fun rule => rule.monotone grown && rule.branches.all fun branch => truthy branch.1) &&
    P.rules.all (Rule.monotone grown)

/-! ## Bodies -/

variable {grown : String → Bool} {ctx ctx' : Context} {named named' : String → Bool}

theorem Term.eval_of_fixed (h : ctx.Grows grown ctx') {t : Term} (ht : t.fixed grown = true)
    (vars : Json.Map) : t.eval ctx' vars = t.eval ctx vars := by
  cases t with
  | value v => rfl
  | input path => rw [Term.eval, Term.eval, h.input]
  | var x path => rfl
  | call name arg => rw [Term.eval, Term.eval, h.same name arg (by simpa [Term.fixed] using ht)]

theorem compareTerms_of_fixed (h : ctx.Grows grown ctx') {t t' : Term}
    (ht : (t.fixed grown && t'.fixed grown) = true) (p : Json → Json → Bool) (vars : Json.Map) :
    compareTerms ctx' p vars t t' = compareTerms ctx p vars t t' := by
  rw [Bool.and_eq_true] at ht
  rw [compareTerms, compareTerms, Term.eval_of_fixed h ht.1, Term.eval_of_fixed h ht.2]

theorem Test.eval_mono (h : ctx.Grows grown ctx')
    (hnamed : ∀ name, named name = true → named' name = true) {t : Test}
    (ht : t.monotone grown = true) {vars : Json.Map} (heval : t.eval ctx named vars = true) :
    t.eval ctx' named' vars = true := by
  cases t with
  | holds t =>
    rw [Test.eval, Term.eval_of_fixed h ht]
    exact heval
  | eq t t' =>
    rw [Test.eval, h.compare, compareTerms_of_fixed h ht]
    exact heval
  | ge t t' =>
    rw [Test.eval, h.compare, compareTerms_of_fixed h ht]
    exact heval
  | rule name => exact hnamed name heval
  | mem t collection =>
    rw [Test.eval, h.compare]
    cases collection with
    | call name arg =>
      have hfixed : t.fixed grown = true := ht
      rw [compareTerms, Term.eval_of_fixed h hfixed]
      rw [Test.eval, compareTerms] at heval
      cases hv : t.eval ctx vars with
      | none =>
        rw [hv] at heval
        cases heval
      | some v =>
        rw [hv] at heval
        change contains ctx.compare v (ctx.extension name arg) = true at heval
        change contains ctx.compare v (ctx'.extension name arg) = true
        cases hgrown : grown arg with
        | true => exact h.more name arg hgrown v heval
        | false => rwa [h.same name arg hgrown]
    | value w => rwa [compareTerms_of_fixed h ht]
    | input path => rwa [compareTerms_of_fixed h ht]
    | var x path => rwa [compareTerms_of_fixed h ht]

/-- **A body that holds still holds.** -/
theorem holds_mono (h : ctx.Grows grown ctx')
    (hnamed : ∀ name, named name = true → named' name = true) {body : List Literal}
    (hbody : body.all (Literal.monotone grown) = true) {vars : Json.Map}
    (hholds : holds ctx named vars body = true) : holds ctx' named' vars body = true := by
  induction body generalizing vars with
  | nil => rfl
  | cons literal body ih =>
    rw [List.all_cons, Bool.and_eq_true] at hbody
    obtain ⟨hliteral, hrest⟩ := hbody
    cases literal with
    | test t =>
      rw [holds_test_cons, Bool.and_eq_true] at hholds ⊢
      exact ⟨Test.eval_mono h hnamed hliteral hholds.1, ih hrest hholds.2⟩
    | each x collection =>
      rw [holds_each_cons, List.any_eq_true] at hholds
      obtain ⟨v, hv, hholds⟩ := hholds
      rw [holds_each_cons, Term.eval_of_fixed h hliteral, List.any_eq_true]
      exact ⟨v, hv, ih hrest hholds⟩

/-! ## Chains of `else` -/

theorem mem_of_firstValue {branches : List (Json × List Literal)} {v : Json}
    (h : firstValue ctx named branches = some v) : v ∈ branches.map Prod.fst := by
  induction branches with
  | nil => cases h
  | cons branch branches ih =>
    rw [firstValue] at h
    split at h
    · cases h
      exact List.mem_cons_self
    · exact List.mem_cons_of_mem _ (ih h)

/-- A chain gives a value where one of its bodies holds. -/
theorem firstValue_isSome {branches : List (Json × List Literal)} :
    (firstValue ctx named branches).isSome = true ↔
      ∃ branch ∈ branches, holds ctx named [] branch.2 = true := by
  induction branches with
  | nil => simp [firstValue]
  | cons branch branches ih =>
    obtain ⟨v, body⟩ := branch
    rw [firstValue, List.exists_mem_cons_iff]
    by_cases hbody : holds ctx named [] body = true
    · simp [hbody]
    · rw [if_neg hbody, ih]
      simp [hbody]

/-- A chain of values in an order, which gives one, gives this one or one before it. -/
theorem firstValue_mono {r : Json → Json → Prop} (hrefl : ∀ v, r v v)
    (h : ctx.Grows grown ctx') (hnamed : ∀ name, named name = true → named' name = true)
    {branches : List (Json × List Literal)} (hsorted : (branches.map Prod.fst).Pairwise r)
    (hmonotone : branches.all (fun branch => branch.2.all (Literal.monotone grown)) = true)
    {v : Json} (hv : firstValue ctx named branches = some v) :
    ∃ w, firstValue ctx' named' branches = some w ∧ r w v := by
  induction branches with
  | nil => cases hv
  | cons branch branches ih =>
    obtain ⟨u, body⟩ := branch
    rw [List.all_cons, Bool.and_eq_true] at hmonotone
    rw [List.map_cons, List.pairwise_cons] at hsorted
    rw [firstValue] at hv ⊢
    by_cases hbody : holds ctx named [] body = true
    · rw [if_pos hbody] at hv
      cases hv
      exact ⟨v, if_pos (holds_mono h hnamed hmonotone.1 hbody), hrefl v⟩
    · rw [if_neg hbody] at hv
      by_cases hbody' : holds ctx' named' [] body = true
      · exact ⟨u, if_pos hbody', hsorted.1 v (mem_of_firstValue hv)⟩
      · rw [if_neg hbody']
        exact ih hsorted.2 hmonotone.2 hv

/-- A helper that holds still holds. -/
theorem Policy.helper_mono (h : ctx.Grows grown ctx') {P : Policy} (hP : P.monotone grown = true)
    {name : String} (hname : P.helper ctx name = true) : P.helper ctx' name = true := by
  rw [Policy.monotone, Bool.and_eq_true, List.all_eq_true] at hP
  rw [Policy.helper, List.any_eq_true] at hname ⊢
  obtain ⟨rule, hrule, heval⟩ := hname
  have hmonotone := hP.1 rule hrule
  rw [Bool.and_eq_true, List.all_eq_true] at hmonotone
  rw [Bool.and_eq_true, Rule.eval] at heval
  cases hv : firstValue ctx (fun _ => false) rule.branches with
  | none =>
    rw [hv] at heval
    cases heval.2
  | some v =>
    obtain ⟨w, hw, -⟩ := firstValue_mono (r := fun _ _ => True) (fun _ => trivial) h
      (fun _ h => h) (List.pairwise_of_forall fun _ _ => trivial) hmonotone.1 hv
    obtain ⟨branch, hbranch, rfl⟩ := List.mem_map.1 (mem_of_firstValue hw)
    refine ⟨rule, hrule, ?_⟩
    rw [Rule.eval, hw, Option.any_some, heval.1, hmonotone.2 branch hbranch]
    rfl

/-- The values that a rule gives, and the default that stands behind them, are in an order. -/
structure Rule.Ordered (le : Json → Json → Prop) (rule : Rule) (d : Json) : Prop where
  branches : (rule.branches.map Prod.fst).Pairwise le
  default : ∀ v ∈ rule.branches.map Prod.fst, le v d

/-- **A rule goes down, or stays.** -/
theorem Rule.getD_mono {le : Json → Json → Prop} (hrefl : ∀ v, le v v)
    (h : ctx.Grows grown ctx') (hnamed : ∀ name, named name = true → named' name = true)
    {rule : Rule} (hrule : rule.monotone grown = true) {d : Json} (hordered : rule.Ordered le d) :
    le ((rule.eval ctx' named').getD d) ((rule.eval ctx named).getD d) := by
  cases hv : rule.eval ctx named with
  | some v =>
    obtain ⟨w, hw, hle⟩ := firstValue_mono hrefl h hnamed hordered.branches hrule hv
    rw [Rule.eval, hw]
    exact hle
  | none =>
    rw [Option.getD_none]
    cases hw : rule.eval ctx' named' with
    | none => exact hrefl d
    | some w => exact hordered.default w (mem_of_firstValue hw)

/-- A rule of a monotone policy, with the helpers. -/
theorem Policy.getD_mono {le : Json → Json → Prop} (hrefl : ∀ v, le v v)
    (h : ctx.Grows grown ctx') {P : Policy} (hP : P.monotone grown = true) {rule : Rule}
    (hrule : rule ∈ P.rules) {d : Json} (hordered : rule.Ordered le d) :
    le ((rule.eval ctx' (P.helper ctx')).getD d) ((rule.eval ctx (P.helper ctx)).getD d) := by
  have hmonotone := hP
  rw [Policy.monotone, Bool.and_eq_true, List.all_eq_true, List.all_eq_true] at hmonotone
  exact Rule.getD_mono hrefl h (fun _ => Policy.helper_mono h hP) (hmonotone.2 rule hrule) hordered

end Trustmee.Rego
