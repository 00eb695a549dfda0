import Trustmee.Service.Broker

/-!
# The trust claims of an appraisal

The loop of `issue` sets the trust claims that the policy returns, each as a signed byte, in the
trust vector of the appraisal. The name of a claim is the policy's, and a name that the vector does
not have is a panic; the value is cast, so that one out of range comes out as another. Where the
names are known and the values in range, the vector holds what the policy computed and nothing else
(`keepsTrustClaims_iff`).
-/

namespace Trustmee.Broker

/-! ## Trust vectors -/

/-- What the `ear` crate documents of its trust vectors: some names have a claim, which is not set
at first, and setting one leaves the others alone. -/
structure TrustVectors (C : Crate) where
  IsClaim : String → Prop
  /-- The value of a claim that is set. -/
  value : C.TrustVector → String → Option ℤ
  isSome_setByName : ∀ vector name n, (C.setByName vector name n).isSome ↔ IsClaim name
  value_setByName : ∀ vector name n vector', C.setByName vector name n = some vector' →
    ∀ k, value vector' k = if k = name then some n else value vector k
  value_new : ∀ name, value C.newTrustVector name = none
  anySet_iff : ∀ vector, C.anySet vector = true ↔ ∃ name, (value vector name).isSome

/-- The values of the EAR trustworthiness claims. -/
def InRange (n : ℤ) : Prop := -127 ≤ n ∧ n ≤ 127

theorem asI8_of_inRange {n : ℤ} (h : InRange n) : asI8 n = n := by
  obtain ⟨hlow, hhigh⟩ := h
  rw [asI8, Int.bmod_def]
  split <;> omega

variable {B : Env} (V : TrustVectors B.crate)

/-- The vector holds the members of a policy's object, each with its integer, and nothing else. -/
structure Holds (vector : B.crate.TrustVector) (claims : Json.Map) : Prop where
  member : ∀ p ∈ claims, ∃ n, asI64 p.2 = some n ∧ InRange n ∧ V.value vector p.1 = some n
  only : ∀ name, (V.value vector name).isSome → name ∈ claims.map Prod.fst

/-- The members before the first whose value is not a number. -/
def numeric (claims : Json.Map) : Json.Map := claims.takeWhile fun p => (asI64 p.2).isSome

/-- Each member whose name is looked up has a claim in the vector. -/
def NamesKnown (claims : Json.Map) : Prop := ∀ p ∈ numeric claims, V.IsClaim p.1

theorem numeric_cons_of_none {p : String × Json} {claims : Json.Map} (h : asI64 p.2 = none) :
    numeric (p :: claims) = [] := by
  simp [numeric, h]

theorem numeric_cons_of_some {p : String × Json} {claims : Json.Map} {n : ℤ}
    (h : asI64 p.2 = some n) : numeric (p :: claims) = p :: numeric claims := by
  simp [numeric, h]

/-! ## The loop -/

/-- One turn of the loop. -/
theorem setTrustClaims_cons {vector : B.crate.TrustVector} {k : String} {v : Json} {n : ℤ}
    {claims : Json.Map} (h : asI64 v = some n) :
    setTrustClaims B vector ((k, v) :: claims) =
      (Outcome.unwrap (B.crate.setByName vector k (asI8 n)) >>= fun vector =>
        setTrustClaims B vector claims) := by
  simp [setTrustClaims, h, Outcome.okOr]

theorem setTrustClaims_cons_of_none {vector : B.crate.TrustVector} {k : String} {v : Json}
    {claims : Json.Map} (h : asI64 v = none) :
    setTrustClaims B vector ((k, v) :: claims) = .bail "Policy claim value not number" := by
  simp [setTrustClaims, h, Outcome.okOr, Outcome.bail]

theorem returns_unwrap_iff {α : Type} (o : Option α) : (Outcome.unwrap o).Returns ↔ o.isSome := by
  cases o <;> simp [Outcome.unwrap, Outcome.Returns]

/-- The loop returns exactly when it looks up no name without a claim. -/
theorem setTrustClaims_returns_iff (vector : B.crate.TrustVector) (claims : Json.Map) :
    (setTrustClaims B vector claims).Returns ↔ NamesKnown V claims := by
  induction claims generalizing vector with
  | nil => simp [setTrustClaims, NamesKnown, numeric, Outcome.returns_ok]
  | cons p claims ih =>
    obtain ⟨k, v⟩ := p
    cases h : asI64 v with
    | none =>
      rw [setTrustClaims_cons_of_none h, NamesKnown, numeric_cons_of_none h]
      simp [Outcome.returns_bail]
    | some n =>
      rw [setTrustClaims_cons h, Outcome.returns_bind_iff, returns_unwrap_iff, V.isSome_setByName,
        NamesKnown, numeric_cons_of_some h, List.forall_mem_cons]
      apply and_congr_right
      intro hk
      obtain ⟨vector', hset⟩ :=
        Option.isSome_iff_exists.1 ((V.isSome_setByName vector k (asI8 n)).2 hk)
      simp only [hset, Outcome.unwrap_eq_ok, Option.some.injEq, forall_eq', ih]
      rfl

/-- **The vector after the loop**: a member's claim has its value cast to a byte, the others are as
before. -/
theorem setTrustClaims_eq_ok {vector vector' : B.crate.TrustVector} {claims : Json.Map}
    (hnodup : (claims.map Prod.fst).Nodup) (h : setTrustClaims B vector claims = .ok vector') :
    (∀ p ∈ claims, ∃ n, asI64 p.2 = some n ∧ V.value vector' p.1 = some (asI8 n)) ∧
      ∀ name ∉ claims.map Prod.fst, V.value vector' name = V.value vector name := by
  induction claims generalizing vector with
  | nil =>
    cases h
    simp
  | cons p claims ih =>
    obtain ⟨k, v⟩ := p
    rw [List.map_cons, List.nodup_cons] at hnodup
    cases hv : asI64 v with
    | none =>
      rw [setTrustClaims_cons_of_none hv] at h
      exact absurd h Outcome.bail_ne_ok
    | some n =>
      simp only [setTrustClaims_cons hv, Outcome.bind_eq_ok, Outcome.unwrap_eq_ok] at h
      obtain ⟨next, hset, hrest⟩ := h
      obtain ⟨hmembers, hothers⟩ := ih hnodup.2 hrest
      refine ⟨List.forall_mem_cons.2 ⟨⟨n, hv, ?_⟩, hmembers⟩, fun name hname => ?_⟩
      · rw [hothers k hnodup.1, V.value_setByName _ _ _ _ hset, if_pos rfl]
      · rw [List.map_cons, List.mem_cons, not_or] at hname
        rw [hothers name hname.2, V.value_setByName _ _ _ _ hset, if_neg hname.1]

/-- From numbers under known names the loop makes a vector. -/
theorem exists_setTrustClaims (vector : B.crate.TrustVector) {claims : Json.Map}
    (hnumeric : ∀ p ∈ claims, (asI64 p.2).isSome) (hnames : NamesKnown V claims) :
    ∃ vector', setTrustClaims B vector claims = .ok vector' := by
  induction claims generalizing vector with
  | nil => exact ⟨vector, rfl⟩
  | cons p claims ih =>
    obtain ⟨k, v⟩ := p
    obtain ⟨hv, hrest⟩ := List.forall_mem_cons.1 hnumeric
    obtain ⟨n, hn⟩ := Option.isSome_iff_exists.1 hv
    rw [NamesKnown, numeric_cons_of_some hn, List.forall_mem_cons] at hnames
    obtain ⟨next, hset⟩ :=
      Option.isSome_iff_exists.1 ((V.isSome_setByName vector k (asI8 n)).2 hnames.1)
    obtain ⟨vector', hvector'⟩ := ih next hrest hnames.2
    refine ⟨vector', ?_⟩
    rw [setTrustClaims_cons hn, hset]
    exact hvector'

/-- In range the vector holds what the policy computed. -/
theorem holds_of_inRange {vector : B.crate.TrustVector} {claims : Json.Map}
    (hnodup : (claims.map Prod.fst).Nodup)
    (h : setTrustClaims B B.crate.newTrustVector claims = .ok vector)
    (hrange : ∀ p ∈ claims, ∀ n, asI64 p.2 = some n → InRange n) : Holds V vector claims := by
  obtain ⟨hmembers, hothers⟩ := setTrustClaims_eq_ok V hnodup h
  refine ⟨fun p hp => ?_, fun name hname => ?_⟩
  · obtain ⟨n, hn, hvalue⟩ := hmembers p hp
    have hin := hrange p hp n hn
    rw [asI8_of_inRange hin] at hvalue
    exact ⟨n, hn, hin, hvalue⟩
  · by_contra hnot
    rw [hothers name hnot, V.value_new] at hname
    cases hname

/-! ## The appraisal -/

variable (B) in
/-- The policy returns a result for a piece of claims. -/
def PolicyReturns (policyId : String) (teeClaims : TeeClaims) (results : EvaluationResult) : Prop :=
  ∃ tcbClaims tcbClaimsJson,
    transformClaims B teeClaims.claims teeClaims.initDataClaims teeClaims.runtimeDataClaims
      teeClaims.tee = .ok tcbClaims ∧
    B.crate.toString tcbClaims = .ok tcbClaimsJson ∧
    B.policyEngine tcbClaimsJson (policyId ++ "_" ++ teeClaims.teeClass) = .ok results

/-- The appraisal after the policy. -/
theorem exists_appraise_eq {policyId : String} {teeClaims : TeeClaims} {results : EvaluationResult}
    {claims : Json.Map} (hresults : PolicyReturns B policyId teeClaims results)
    (hclaims : results.trustClaims.asObject = some claims) :
    ∃ appraisalOf : B.crate.TrustVector → B.crate.Extensions → Appraisal B.crate,
      (∀ vector extensions, (appraisalOf vector extensions).trustVector = vector) ∧
      appraise B policyId teeClaims = do
        let vector ← setTrustClaims B B.crate.newTrustVector claims
        Outcome.ensure (B.crate.anySet vector) "At least one policy claim must be set."
        let extensions ← setExtensions B B.crate.newExtensions results.extensions
        return appraisalOf vector extensions := by
  obtain ⟨tcbClaims, tcbClaimsJson, htcb, hjson, hpolicy⟩ := hresults
  refine ⟨fun vector extensions => ⟨B.crate.status vector, vector, policyId, tcbClaims, extensions⟩,
    fun _ _ => rfl, ?_⟩
  simp only [appraise, htcb, hjson, hpolicy, hclaims, Outcome.ofExcept, Outcome.okOr,
    Outcome.ok_bind]

theorem returns_setExtensions (extensions : B.crate.Extensions) (claims : List Extension) :
    (setExtensions B extensions claims).Returns := by
  induction claims generalizing extensions with
  | nil => exact Outcome.returns_ok _
  | cons extension claims ih =>
    refine (Outcome.returns_ofExcept _).bind fun value _ => ?_
    refine (Outcome.returns_ofExcept _).bind fun registered _ => ?_
    exact (Outcome.returns_ofExcept _).bind fun next _ => ih next

/-- The trust claims and the extensions of a result give an appraisal: the values are numbers, and
each extension is registered and set. -/
def Appraisable (B : Env) (results : EvaluationResult) (claims : Json.Map) : Prop :=
  (∀ p ∈ claims, (asI64 p.2).isSome) ∧
    ∃ extensions, setExtensions B B.crate.newExtensions results.extensions = .ok extensions

/-- The condition on the trust claims of a result: no name without a claim is looked up, and where
an appraisal is made the values are in range. -/
def ClaimsValid (results : EvaluationResult) (claims : Json.Map) : Prop :=
  NamesKnown V claims ∧
    (Appraisable B results claims → ∀ p ∈ claims, ∀ n, asI64 p.2 = some n → InRange n)

section Piece

variable {policyId : String} {teeClaims : TeeClaims} {results : EvaluationResult}
  {claims : Json.Map} (hresults : PolicyReturns B policyId teeClaims results)
  (hclaims : results.trustClaims.asObject = some claims) (hnodup : (claims.map Prod.fst).Nodup)

include hresults hclaims

theorem appraise_returns_iff :
    (appraise B policyId teeClaims).Returns ↔ NamesKnown V claims := by
  obtain ⟨appraisalOf, -, heq⟩ := exists_appraise_eq hresults hclaims
  rw [heq, Outcome.returns_bind_iff, setTrustClaims_returns_iff V, and_iff_left_iff_imp]
  intro _ vector _
  refine (Outcome.returns_ensure _ _).bind fun _ _ => ?_
  exact (returns_setExtensions _ _).bind fun _ _ => Outcome.returns_ok _

/-- The vector of an appraisal is the one that the loop makes. -/
theorem appraise_eq_ok {a : Appraisal B.crate} (h : appraise B policyId teeClaims = .ok a) :
    setTrustClaims B B.crate.newTrustVector claims = .ok a.trustVector ∧
      ∃ extensions, setExtensions B B.crate.newExtensions results.extensions = .ok extensions := by
  obtain ⟨appraisalOf, hvector, heq⟩ := exists_appraise_eq hresults hclaims
  simp only [heq, Outcome.bind_eq_ok, Outcome.pure_eq, Outcome.ok.injEq] at h
  obtain ⟨vector, hset, -, -, extensions, hextensions, rfl⟩ := h
  rw [hvector]
  exact ⟨hset, extensions, hextensions⟩

include hnodup

/-- Each member of a vector's claims is a number. -/
theorem holds_of_appraise {a : Appraisal B.crate} (hvalid : ClaimsValid V results claims)
    (h : appraise B policyId teeClaims = .ok a) : Holds V a.trustVector claims := by
  obtain ⟨hset, hextensions⟩ := appraise_eq_ok hresults hclaims h
  apply holds_of_inRange V hnodup hset
  apply hvalid.2
  refine ⟨fun p hp => ?_, hextensions⟩
  obtain ⟨n, hn, -⟩ := (setTrustClaims_eq_ok V hnodup hset).1 p hp
  exact Option.isSome_of_eq_some hn

/-- A result with a claim at all, and with all it takes, gives an appraisal. -/
theorem exists_appraise_of_known (hnames : NamesKnown V claims)
    (happraisable : Appraisable B results claims) (hne : claims ≠ []) :
    ∃ a, appraise B policyId teeClaims = .ok a := by
  obtain ⟨hnumeric, extensions, hextensions⟩ := happraisable
  obtain ⟨vector, hset⟩ := exists_setTrustClaims V B.crate.newTrustVector hnumeric hnames
  obtain ⟨p, hp⟩ := List.exists_mem_of_ne_nil claims hne
  obtain ⟨n, -, hvalue⟩ := (setTrustClaims_eq_ok V hnodup hset).1 p hp
  have hany : B.crate.anySet vector = true :=
    (V.anySet_iff vector).2 ⟨p.1, Option.isSome_of_eq_some hvalue⟩
  obtain ⟨appraisalOf, -, heq⟩ := exists_appraise_eq hresults hclaims
  refine ⟨appraisalOf vector extensions, ?_⟩
  simp [heq, hset, hany, hextensions, Outcome.ensure]

end Piece

/-! ## The run -/

/-- A piece that gives no appraisal ends the loop with its error. -/
theorem appraiseAll_eq_err {policyId : String} {before after : List TeeClaims}
    {teeClaims : TeeClaims} {indices : Table String UInt8}
    {submods reached : Table String (Appraisal B.crate)} {e : Error}
    (hbefore : appraiseAll B policyId indices submods before = .ok reached)
    (h : appraise B policyId teeClaims = .err e) :
    appraiseAll B policyId indices submods (before ++ teeClaims :: after) = .err e := by
  induction before generalizing indices submods with
  | nil => simp [appraiseAll, h]
  | cons first before ih =>
    simp only [appraiseAll, Outcome.bind_eq_ok] at hbefore
    obtain ⟨a, ha, index, hindex, hrest⟩ := hbefore
    rw [List.cons_append, appraiseAll, ha, Outcome.ok_bind, hindex, Outcome.ok_bind]
    exact ih hrest

variable (B) in
/-- A property of each piece that the loop comes to and for which the policy returns an object. -/
def AtEachPiece (policyId : String) (allTeeClaims : List TeeClaims)
    (P : TeeClaims → EvaluationResult → Json.Map → Prop) : Prop :=
  ∀ before teeClaims after reached results claims, allTeeClaims = before ++ teeClaims :: after →
    appraiseAll B policyId Table.empty Table.empty before = .ok reached →
    PolicyReturns B policyId teeClaims results → results.trustClaims.asObject = some claims →
    P teeClaims results claims

/-- At each piece `issue` ends with an error, or makes an appraisal with the trust claims that the
policy computed. -/
def KeepsTrustClaims (policyId : String) (policyIds : List String)
    (allTeeClaims : List TeeClaims) : Prop :=
  AtEachPiece B policyId allTeeClaims fun teeClaims _ claims =>
    (∃ e, appraise B policyId teeClaims = .err e ∧
      issue B allTeeClaims (policyId :: policyIds) = .err e) ∨
    ∃ a, appraise B policyId teeClaims = .ok a ∧ Holds V a.trustVector claims

variable (B) in
/-- The trust claims that the policy engine returns are a `serde_json` map: no two members have one
name. -/
def ReturnsMaps : Prop :=
  ∀ input policyId results claims, B.policyEngine input policyId = .ok results →
    results.trustClaims.asObject = some claims → (claims.map Prod.fst).Nodup

theorem PolicyReturns.nodup {policyId : String} {teeClaims : TeeClaims}
    {results : EvaluationResult} {claims : Json.Map} (hmaps : ReturnsMaps B)
    (h : PolicyReturns B policyId teeClaims results)
    (hclaims : results.trustClaims.asObject = some claims) : (claims.map Prod.fst).Nodup := by
  obtain ⟨_, _, -, -, hpolicy⟩ := h
  exact hmaps _ _ _ _ hpolicy hclaims

theorem keepsTrustClaims_of_valid (hmaps : ReturnsMaps B) {policyId : String}
    {allTeeClaims : List TeeClaims} (policyIds : List String)
    (hvalid : AtEachPiece B policyId allTeeClaims fun _ results claims =>
      ClaimsValid V results claims) : KeepsTrustClaims V policyId policyIds allTeeClaims := by
  intro before teeClaims after reached results claims heq hreached hresults hclaims
  have hpiece := hvalid before teeClaims after reached results claims heq hreached hresults hclaims
  cases h : appraise B policyId teeClaims with
  | ok a =>
    have hnodup := hresults.nodup hmaps hclaims
    exact .inr ⟨a, rfl, holds_of_appraise V hresults hclaims hnodup hpiece h⟩
  | err e =>
    refine .inl ⟨e, rfl, ?_⟩
    rw [issue, unsignedEar, heq, appraiseAll_eq_err hreached h]
    rfl
  | panic m => exact absurd h ((appraise_returns_iff V hresults hclaims).2 hpiece.1 m)

theorem valid_of_keepsTrustClaims (hmaps : ReturnsMaps B) {policyId : String}
    {allTeeClaims : List TeeClaims} {policyIds : List String}
    (h : KeepsTrustClaims V policyId policyIds allTeeClaims) :
    AtEachPiece B policyId allTeeClaims fun _ results claims => ClaimsValid V results claims := by
  intro before teeClaims after reached results claims heq hreached hresults hclaims
  have hpiece := h before teeClaims after reached results claims heq hreached hresults hclaims
  have hnames : NamesKnown V claims := by
    rw [← appraise_returns_iff V hresults hclaims]
    intro m hm
    rcases hpiece with ⟨e, he, -⟩ | ⟨a, ha, -⟩
    · rw [hm] at he
      cases he
    · rw [hm] at ha
      cases ha
  refine ⟨hnames, fun happraisable p hp n hn => ?_⟩
  obtain ⟨a, ha⟩ := exists_appraise_of_known V hresults hclaims (hresults.nodup hmaps hclaims)
    hnames happraisable (List.ne_nil_of_mem hp)
  rcases hpiece with ⟨e, he, -⟩ | ⟨a', ha', hholds⟩
  · rw [ha] at he
    cases he
  · obtain ⟨n', hn', hrange, -⟩ := hholds.member p hp
    rw [hn] at hn'
    cases hn'
    exact hrange

/-- **The trust claims of a token** are the policy's exactly when, at each piece that the loop comes
to, the names that it looks up have claims in the vector, and the values of an appraisal that is
made are in range. -/
theorem keepsTrustClaims_iff (hmaps : ReturnsMaps B) (policyId : String) (policyIds : List String)
    (allTeeClaims : List TeeClaims) :
    KeepsTrustClaims V policyId policyIds allTeeClaims ↔
      AtEachPiece B policyId allTeeClaims fun _ results claims => ClaimsValid V results claims :=
  ⟨valid_of_keepsTrustClaims V hmaps, keepsTrustClaims_of_valid V hmaps policyIds⟩

/-- The submodules of a token hold the trust claims of the policy, and nothing else. -/
theorem unsignedEar_holds (hmaps : ReturnsMaps B) {policyId : String} {policyIds : List String}
    {allTeeClaims : List TeeClaims} {ear : Ear B.crate}
    (hear : unsignedEar B allTeeClaims (policyId :: policyIds) = .ok ear)
    (hvalid : ∀ teeClaims ∈ allTeeClaims, ∀ results claims,
      PolicyReturns B policyId teeClaims results → results.trustClaims.asObject = some claims →
        ClaimsValid V results claims) {name : String} {a : Appraisal B.crate}
    (hget : ear.submods name = some a) :
    ∃ teeClaims ∈ allTeeClaims, ∃ results claims, PolicyReturns B policyId teeClaims results ∧
      results.trustClaims.asObject = some claims ∧ Holds V a.trustVector claims := by
  simp only [unsignedEar, Outcome.bind_eq_ok, Outcome.pure_eq, Outcome.ok.injEq] at hear
  obtain ⟨submods, hsubmods, _, -, _, -, _, -, rfl⟩ := hear
  obtain hempty | ⟨teeClaims, hmem, ha⟩ := appraiseAll_eq_ok hsubmods hget
  · cases hempty
  · have happraise := ha
    simp only [appraise, Outcome.bind_eq_ok, Outcome.ofExcept_eq_ok, Outcome.okOr_eq_ok] at ha
    obtain ⟨tcbClaims, htcb, json, hjson, results, hpolicy, claims, hclaims, -⟩ := ha
    have hresults : PolicyReturns B policyId teeClaims results :=
      ⟨tcbClaims, json, htcb, hjson, hpolicy⟩
    exact ⟨teeClaims, hmem, results, claims, hresults, hclaims,
      holds_of_appraise V hresults hclaims (hresults.nodup hmaps hclaims)
        (hvalid teeClaims hmem results claims hresults hclaims) happraise⟩

/-! ## A vector with the claims of EAR -/

def claimNames : List String :=
  ["instance-identity", "configuration", "executables", "file-system", "hardware",
    "runtime-opaque", "storage-opaque", "sourced-data"]

def setClaim (vector : Table String ℤ) (name : String) (n : ℤ) : Option (Table String ℤ) :=
  if name ∈ claimNames then some (vector.insert name n) else none

def claimValueOf (vector : Table String ℤ) (name : String) : Option ℤ :=
  if name ∈ claimNames then vector name else none

theorem claimValueOf_setClaim {vector vector' : Table String ℤ} {name : String} {n : ℤ}
    (h : setClaim vector name n = some vector') (k : String) :
    claimValueOf vector' k = if k = name then some n else claimValueOf vector k := by
  simp only [setClaim, Option.ite_none_right_eq_some, Option.some.injEq] at h
  obtain ⟨hname, rfl⟩ := h
  by_cases hk : k = name
  · simp [claimValueOf, hk, hname]
  · simp [claimValueOf, hk, Table.insert_of_ne]

theorem any_claimNames_iff (vector : Table String ℤ) :
    (claimNames.any fun name => (vector name).isSome) = true ↔
      ∃ name, (claimValueOf vector name).isSome := by
  rw [List.any_eq_true]
  apply exists_congr
  intro name
  by_cases h : name ∈ claimNames <;> simp [claimValueOf, h]

def vectorCrate : Crate where
  RawValue := Unit
  null := ()
  string _ := ()
  integer _ := ()
  fromStr _ := .ok ()
  toString _ := .ok "\x7b\x7d"
  RawValueKind := Unit
  kind _ := ()
  TrustVector := Table String ℤ
  newTrustVector := Table.empty
  setByName := setClaim
  anySet vector := claimNames.any fun name => (vector name).isSome
  TrustTier := Unit
  status _ := ()
  Extensions := Unit
  newExtensions := ()
  register extensions _ _ _ := .ok extensions
  setExtension extensions _ _ := .ok extensions

def earVectors : TrustVectors vectorCrate where
  IsClaim name := name ∈ claimNames
  value := claimValueOf
  isSome_setByName vector name n := by simp [vectorCrate, setClaim]
  value_setByName _ _ _ _ := claimValueOf_setClaim
  value_new _ := ite_self none
  anySet_iff := any_claimNames_iff

/-- A broker whose policy computes the claims. -/
def vectorBroker (claims : Json.Map) : Env where
  crate := vectorCrate
  durationMin := 5
  developerName := "https://confidentialcontainers.org"
  buildName := "attestation-service 0.1.0"
  profileName := "tag:github.com,2024:confidential-containers/Trustee"
  toVariantName _ := .ok "sample"
  policyEngine _ _ := .ok ⟨.object claims, []⟩
  now := 1700000000
  checkedAdd now minutes := some (now + 60 * minutes)
  sign _ := .ok "token"
  overflowChecks := false

def vectorPiece : TeeClaims := ⟨.Sample, "cpu", .object [], .null, .null⟩

theorem policyReturns_vectorBroker (claims : Json.Map) :
    PolicyReturns (vectorBroker claims) "default" vectorPiece ⟨.object claims, []⟩ :=
  ⟨_, _, rfl, rfl, rfl⟩

theorem returnsMaps_vectorBroker {claims : Json.Map} (h : (claims.map Prod.fst).Nodup) :
    ReturnsMaps (vectorBroker claims) := by
  intro input policyId results claims' hpolicy hclaims
  cases hpolicy
  cases hclaims
  exact h

/-- The theorem at a policy that affirms the hardware. -/
theorem keepsTrustClaims_affirming :
    KeepsTrustClaims (B := vectorBroker [("hardware", .number (.int 2))]) earVectors "default" []
      [vectorPiece] := by
  refine (keepsTrustClaims_iff (B := vectorBroker [("hardware", .number (.int 2))]) earVectors
    (returnsMaps_vectorBroker (by simp)) "default" [] [vectorPiece]).2 ?_
  intro before teeClaims after reached results claims _ _ hresults hclaims
  obtain ⟨_, _, -, -, hpolicy⟩ := hresults
  cases hpolicy
  cases hclaims
  refine ⟨fun p hp => ?_, fun _ p hp n hn => ?_⟩
  · have hmem : p ∈ [("hardware", Json.number (.int 2))] := List.takeWhile_subset _ hp
    rw [List.mem_singleton.1 hmem]
    simp [earVectors, claimNames]
  · rw [List.mem_singleton.1 hp] at hn
    cases hn
    simp [InRange]

/-- The hardware is contraindicated, by the value 258: the vector has 2, which affirms it. -/
theorem not_keepsTrustClaims_wrapped :
    ¬ KeepsTrustClaims (B := vectorBroker [("hardware", .number (.int 258))]) earVectors "default"
      [] [vectorPiece] := by
  intro h
  have hvalid := valid_of_keepsTrustClaims
    (B := vectorBroker [("hardware", .number (.int 258))]) earVectors
    (returnsMaps_vectorBroker (by simp)) h [] vectorPiece [] Table.empty _ _ rfl rfl
    (policyReturns_vectorBroker _) rfl
  have hrange := hvalid.2 ⟨by simp [asI64], (), rfl⟩ _ (List.mem_singleton_self _) 258 rfl
  exact absurd hrange.2 (by decide)

end Trustmee.Broker
