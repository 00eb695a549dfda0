import Trustmee.Foundations.Numbering
import Trustmee.Service.Binding

/-!
# The submodules of a token

`issue` stores the appraisal of a piece of evidence under the class of its claims and the number of
pieces of this class that came before. The number is kept in a byte. Up to 256 pieces of a class
each piece has its own submodule (`issue_submodules`). After that, in a build without overflow
checks, the numbers start again at 0 and a submodule takes the place of an earlier one
(`issue_replaces`). In the same way each request has a submodule when its evidence gives claims at
all and fewer than 256 pieces of its class come with later requests (`evaluate_appraised`).
-/

namespace Trustmee.Broker

variable {B : Env}

/-! ## The names of the submodules -/

/-- The classes of pieces of claims. -/
def classes (allTeeClaims : List TeeClaims) : List String := allTeeClaims.map (·.teeClass)

/-- The name that the loop gives to the submodule of a piece. -/
def submoduleName (cs : List String) (i : ℕ) : Option String :=
  (rank cs i).map fun p => numbered p.1 (p.2 % 256)

theorem submoduleName_eq_some {cs : List String} {name : String} {i : ℕ} :
    submoduleName cs i = some name ↔
      ∃ c, cs[i]? = some c ∧ numbered c ((cs.take i).count c % 256) = name := by
  simp only [submoduleName, rank, Option.map_map, Option.map_eq_some_iff, Function.comp_apply]

/-- The submodule is the one of the piece at `i`: no later piece has its name. -/
def WrittenBy (cs : List String) (name : String) (i : ℕ) : Prop :=
  submoduleName cs i = some name ∧ ∀ j, i < j → submoduleName cs j ≠ some name

/-- The indices that the loop keeps after pieces of some classes. -/
def Counted (cs : List String) (indices : Table String UInt8) : Prop :=
  ∀ c, indices c = if cs.count c = 0 then none else some (UInt8.ofNat (cs.count c - 1))

theorem Counted.nil : Counted [] Table.empty := fun _ => rfl

theorem Counted.insert {cs : List String} {indices : Table String UInt8} (h : Counted cs indices)
    (c : String) : Counted (cs ++ [c]) (indices.insert c (UInt8.ofNat (cs.count c))) := by
  intro c'
  by_cases hc : c' = c
  · subst hc
    rw [Table.insert_self, List.count_append, List.count_singleton_self, if_neg (by omega),
      Nat.add_sub_cancel]
  · have hcount : (cs ++ [c]).count c' = cs.count c' := by
      rw [List.count_append, List.count_singleton, if_neg (by simpa using Ne.symm hc), Nat.add_zero]
    rw [Table.insert_of_ne _ _ hc, hcount]
    exact h c'

theorem indexOf_eq_ok {cs : List String} {indices : Table String UInt8} (h : Counted cs indices)
    {c : String} {index : UInt8} (hindex : indexOf B indices c = .ok index) :
    index = UInt8.ofNat (cs.count c) := by
  rw [indexOf, h c] at hindex
  split_ifs at hindex with hzero
  · cases hindex
    rw [hzero]
    rfl
  · simp only [nextIndex] at hindex
    split_ifs at hindex
    cases hindex
    have hone : (1 : UInt8) = UInt8.ofNat 1 := rfl
    rw [hone, ← UInt8.ofNat_add, Nat.sub_add_cancel (by omega)]

/-- The names for pieces of some classes that come after others. -/
def submoduleNames : List String → List String → List String
  | _, [] => []
  | before, c :: cs => numbered c (before.count c % 256) :: submoduleNames (before ++ [c]) cs

theorem length_submoduleNames (before cs : List String) :
    (submoduleNames before cs).length = cs.length := by
  induction cs generalizing before with
  | nil => rfl
  | cons c cs ih => rw [submoduleNames, List.length_cons, ih, List.length_cons]

theorem getElem?_submoduleNames (before cs : List String) (i : ℕ) :
    (submoduleNames before cs)[i]? = submoduleName (before ++ cs) (before.length + i) := by
  induction cs generalizing before i with
  | nil =>
    rw [List.append_nil, submoduleName, rank, List.getElem?_eq_none (Nat.le_add_right _ _)]
    rfl
  | cons c cs ih =>
    cases i with
    | zero =>
      have hrank : rank (before ++ c :: cs) (before.length + 0) = some (c, before.count c) :=
        rank_eq_some.2 ⟨by simp, by simp⟩
      rw [submoduleName, hrank]
      rfl
    | succ i =>
      have happend : before ++ c :: cs = (before ++ [c]) ++ cs := by simp
      rw [submoduleNames, List.getElem?_cons_succ, ih, happend, List.length_append,
        List.length_singleton, Nat.add_assoc, Nat.add_comm 1 i]

theorem getElem?_submoduleNames_nil (cs : List String) (i : ℕ) :
    (submoduleNames [] cs)[i]? = submoduleName cs i := by
  rw [getElem?_submoduleNames, List.nil_append, List.length_nil, Nat.zero_add]

/-! ## The loop -/

/-- The loop stores the appraisal of each piece under its name, one after another. -/
theorem appraiseAll_eq_insertAll {policyId : String} {allTeeClaims : List TeeClaims}
    {before : List String} {indices : Table String UInt8}
    {submods result : Table String (Appraisal B.crate)} (hcounted : Counted before indices)
    (h : appraiseAll B policyId indices submods allTeeClaims = .ok result) :
    ∃ appraisals,
      List.Forall₂ (fun teeClaims a => appraise B policyId teeClaims = .ok a) allTeeClaims
        appraisals ∧
      result =
        submods.insertAll ((submoduleNames before (classes allTeeClaims)).zip appraisals) := by
  induction allTeeClaims generalizing before indices submods with
  | nil =>
    cases h
    exact ⟨[], .nil, rfl⟩
  | cons teeClaims allTeeClaims ih =>
    simp only [appraiseAll, Outcome.bind_eq_ok] at h
    obtain ⟨a, ha, index, hindex, hrest⟩ := h
    obtain rfl := indexOf_eq_ok hcounted hindex
    obtain ⟨appraisals, hall, hresult⟩ := ih (hcounted.insert _) hrest
    refine ⟨a :: appraisals, .cons ha hall, ?_⟩
    have hnames : submoduleNames before (classes (teeClaims :: allTeeClaims)) =
        numbered teeClaims.teeClass (before.count teeClaims.teeClass % 256) ::
          submoduleNames (before ++ [teeClaims.teeClass]) (classes allTeeClaims) := rfl
    rw [hresult, hnames, List.zip_cons_cons, Table.insertAll_cons, UInt8.toNat_ofNat']
    rfl

/-- **What the loop stores**: under each name the appraisal of the last piece that has it. -/
theorem appraiseAll_eq_some {policyId : String} {allTeeClaims : List TeeClaims}
    {result : Table String (Appraisal B.crate)}
    (h : appraiseAll B policyId Table.empty Table.empty allTeeClaims = .ok result) {name : String}
    {appraisal : Appraisal B.crate} :
    result name = some appraisal ↔ ∃ i teeClaims, WrittenBy (classes allTeeClaims) name i ∧
      allTeeClaims[i]? = some teeClaims ∧ appraise B policyId teeClaims = .ok appraisal := by
  obtain ⟨appraisals, hall, rfl⟩ := appraiseAll_eq_insertAll Counted.nil h
  have hlength : appraisals.length = (classes allTeeClaims).length := by
    rw [classes, List.length_map, hall.length_eq]
  have hpair : ∀ (i : ℕ) (w : Appraisal B.crate),
      ((submoduleNames [] (classes allTeeClaims)).zip appraisals)[i]? = some (name, w) ↔
        submoduleName (classes allTeeClaims) i = some name ∧ appraisals[i]? = some w := by
    intro i w
    rw [List.getElem?_zip_eq_some, getElem?_submoduleNames_nil]
  rw [Table.insertAll_eq_some]
  constructor
  · rintro (⟨i, hi, hlast⟩ | ⟨hempty, -⟩)
    · obtain ⟨hni, hai⟩ := (hpair i appraisal).1 hi
      obtain ⟨teeClaims, hmem, happraise⟩ := (Outcome.getElem?_of_forall₂ hall).1 hai
      refine ⟨i, teeClaims, ⟨hni, fun j hj hnj => ?_⟩, hmem, happraise⟩
      have hj' : j < appraisals.length := by
        rw [hlength]
        exact (List.getElem?_eq_some_iff.1 (submoduleName_eq_some.1 hnj).choose_spec.1).1
      exact hlast j hj _ ((hpair j _).2 ⟨hnj, List.getElem?_eq_getElem hj'⟩)
    · cases hempty
  · rintro ⟨i, teeClaims, ⟨hni, hlast⟩, hmem, happraise⟩
    have hai := (Outcome.getElem?_of_forall₂ hall).2 ⟨teeClaims, hmem, happraise⟩
    exact .inl ⟨i, (hpair i appraisal).2 ⟨hni, hai⟩,
      fun j hj w hw => hlast j hj ((hpair j w).1 hw).1⟩

theorem exists_appraise {policyId : String} {allTeeClaims : List TeeClaims}
    {indices : Table String UInt8} {submods result : Table String (Appraisal B.crate)}
    (h : appraiseAll B policyId indices submods allTeeClaims = .ok result) {teeClaims : TeeClaims}
    (hmem : teeClaims ∈ allTeeClaims) : ∃ a, appraise B policyId teeClaims = .ok a := by
  induction allTeeClaims generalizing indices submods with
  | nil => cases hmem
  | cons head allTeeClaims ih =>
    simp only [appraiseAll, Outcome.bind_eq_ok] at h
    obtain ⟨a, ha, index, -, hrest⟩ := h
    rcases List.mem_cons.1 hmem with rfl | hmem
    · exact ⟨a, ha⟩
    · exact ih hrest hmem

/-- The submodules of a token are those of the loop, under the first policy. -/
theorem appraiseAll_of_unsignedEar {allTeeClaims : List TeeClaims} {policyIds : List String}
    {ear : Ear B.crate} (h : unsignedEar B allTeeClaims policyIds = .ok ear) :
    ∃ policyId, policyIds.head? = some policyId ∧
      appraiseAll B policyId Table.empty Table.empty allTeeClaims = .ok ear.submods := by
  cases policyIds with
  | nil => exact absurd h Outcome.bail_ne_ok
  | cons policyId policyIds =>
    simp only [unsignedEar, Outcome.bind_eq_ok, Outcome.pure_eq, Outcome.ok.injEq] at h
    obtain ⟨submods, hsubmods, _, -, _, -, _, -, rfl⟩ := h
    exact ⟨policyId, rfl, hsubmods⟩

/-! ## Neither lost nor merged -/

variable (B) in
/-- Each piece of claims has a submodule of its own, under its class and its number in the class,
with its annotated evidence. -/
structure SubmodulesKept (policyId : String) (allTeeClaims : List TeeClaims)
    (submods : Table String (Appraisal B.crate)) : Prop where
  count : ∃ entries, submods.Enumerates entries ∧ entries.length = allTeeClaims.length
  stored : ∀ (i : ℕ) teeClaims, allTeeClaims[i]? = some teeClaims →
    ∃ appraisal, submods (numbered teeClaims.teeClass
        (((classes allTeeClaims).take i).count teeClaims.teeClass)) = some appraisal ∧
      appraise B policyId teeClaims = .ok appraisal ∧
      transformClaims B teeClaims.claims teeClaims.initDataClaims teeClaims.runtimeDataClaims
        teeClaims.tee = .ok appraisal.annotatedEvidence

/-- Up to 256 pieces of a class have different names. -/
theorem submoduleName_injective {cs : List String} (hclass : ∀ c ∈ cs, ¬ EndsInDigit c)
    (hcount : ∀ c, cs.count c ≤ 256) {i j : ℕ} {name : String}
    (hi : submoduleName cs i = some name) (hj : submoduleName cs j = some name) : i = j := by
  obtain ⟨⟨c, k⟩, hrank, rfl⟩ := Option.map_eq_some_iff.1 hi
  obtain ⟨⟨c', k'⟩, hrank', hname⟩ := Option.map_eq_some_iff.1 hj
  have hk := (rank_lt_count hrank).trans_le (hcount c)
  have hk' := (rank_lt_count hrank').trans_le (hcount c')
  have hmem := List.mem_of_getElem? (rank_eq_some.1 hrank).1
  have hmem' := List.mem_of_getElem? (rank_eq_some.1 hrank').1
  dsimp only at hname
  rw [Nat.mod_eq_of_lt hk, Nat.mod_eq_of_lt hk'] at hname
  obtain ⟨rfl, rfl⟩ := numbered_injective (hclass _ hmem') (hclass _ hmem) hname
  exact rank_injective hrank hrank'

/-- Different names give as many submodules as there are pieces. -/
theorem exists_enumerates {policyId : String} {allTeeClaims : List TeeClaims}
    {result : Table String (Appraisal B.crate)}
    (h : appraiseAll B policyId Table.empty Table.empty allTeeClaims = .ok result)
    (hinj : ∀ i j name, submoduleName (classes allTeeClaims) i = some name →
      submoduleName (classes allTeeClaims) j = some name → i = j) :
    ∃ entries, result.Enumerates entries ∧ entries.length = allTeeClaims.length := by
  obtain ⟨appraisals, hall, rfl⟩ := appraiseAll_eq_insertAll Counted.nil h
  have hname : ∀ i, (submoduleNames [] (classes allTeeClaims))[i]? =
      submoduleName (classes allTeeClaims) i := getElem?_submoduleNames_nil _
  have hlength : (submoduleNames [] (classes allTeeClaims)).length = appraisals.length := by
    rw [length_submoduleNames, classes, List.length_map, hall.length_eq]
  have hnodup : (submoduleNames [] (classes allTeeClaims)).Nodup := by
    refine List.nodup_iff_getElem?_ne_getElem?.2 fun i j hij hj heq => ?_
    have hname' := (hname j).symm.trans (List.getElem?_eq_getElem hj)
    have := hinj i j _ (((hname i).symm.trans heq).trans (List.getElem?_eq_getElem hj)) hname'
    omega
  refine ⟨_, Table.enumerates_insertAll ?_, ?_⟩
  · rwa [List.map_fst_zip hlength.le]
  · rw [List.length_zip, ← hlength, Nat.min_self, length_submoduleNames, classes, List.length_map]

/-- The submodules are kept exactly when no class has more than 256 pieces. -/
theorem submodulesKept_iff {policyId : String} {allTeeClaims : List TeeClaims}
    {result : Table String (Appraisal B.crate)}
    (h : appraiseAll B policyId Table.empty Table.empty allTeeClaims = .ok result)
    (hclass : ∀ c ∈ classes allTeeClaims, ¬ EndsInDigit c) :
    SubmodulesKept B policyId allTeeClaims result ↔ ∀ c, (classes allTeeClaims).count c ≤ 256 := by
  constructor
  · intro hkept c
    by_contra hgt
    obtain ⟨i, hi⟩ := exists_rank (show 256 < (classes allTeeClaims).count c by omega)
    obtain ⟨hci, hk⟩ := rank_eq_some.1 hi
    rw [classes, List.getElem?_map] at hci
    obtain ⟨teeClaims, hmem, rfl⟩ := Option.map_eq_some_iff.1 hci
    obtain ⟨appraisal, hstored, -⟩ := hkept.stored i teeClaims hmem
    rw [hk] at hstored
    obtain ⟨j, _, ⟨hj, -⟩, -⟩ := (appraiseAll_eq_some h).1 hstored
    obtain ⟨c', hcj, hname⟩ := submoduleName_eq_some.1 hj
    have hnum := (numbered_injective (hclass _ (List.mem_of_getElem? hcj))
      (hclass _ (List.mem_of_getElem? (rank_eq_some.1 hi).1)) hname).2
    omega
  · intro hcount
    refine ⟨exists_enumerates h fun i j name => submoduleName_injective hclass hcount, ?_⟩
    intro i teeClaims hmem
    have hci : (classes allTeeClaims)[i]? = some teeClaims.teeClass := by
      rw [classes, List.getElem?_map, hmem]
      rfl
    have hrank := rank_eq_some.2 ⟨hci, rfl⟩
    have hname : submoduleName (classes allTeeClaims) i = some (numbered teeClaims.teeClass
        (((classes allTeeClaims).take i).count teeClaims.teeClass)) := by
      refine submoduleName_eq_some.2 ⟨_, hci, ?_⟩
      rw [Nat.mod_eq_of_lt ((rank_lt_count hrank).trans_le (hcount _))]
    obtain ⟨appraisal, happraise⟩ := exists_appraise h (List.mem_of_getElem? hmem)
    have hwritten : WrittenBy (classes allTeeClaims) (numbered teeClaims.teeClass
        (((classes allTeeClaims).take i).count teeClaims.teeClass)) i := by
      refine ⟨hname, fun j hij hj => ?_⟩
      have := submoduleName_injective hclass hcount hname hj
      omega
    exact ⟨appraisal, (appraiseAll_eq_some h).2 ⟨i, teeClaims, hwritten, hmem, happraise⟩,
      happraise, appraise_annotatedEvidence happraise⟩

/-- **Submodules are neither lost nor merged up to 256 pieces of a class**, and beyond that they
are. -/
theorem issue_submodules {allTeeClaims : List TeeClaims} {policyIds : List String} {token : String}
    (hclass : ∀ c ∈ classes allTeeClaims, ¬ EndsInDigit c)
    (h : issue B allTeeClaims policyIds = .ok token) :
    ∃ policyId ear, policyIds.head? = some policyId ∧
      unsignedEar B allTeeClaims policyIds = .ok ear ∧ B.sign ear = .ok token ∧
      (SubmodulesKept B policyId allTeeClaims ear.submods ↔
        ∀ c, (classes allTeeClaims).count c ≤ 256) := by
  obtain ⟨ear, hear, hsign⟩ := Outcome.bind_eq_ok.1 h
  obtain ⟨policyId, hpolicy, hloop⟩ := appraiseAll_of_unsignedEar hear
  exact ⟨policyId, ear, hpolicy, hear, hsign, submodulesKept_iff hloop hclass⟩

/-- Without overflow checks the loop ends when each piece has an appraisal. -/
theorem exists_appraiseAll (hchecks : B.overflowChecks = false) {policyId : String}
    {allTeeClaims : List TeeClaims}
    (h : ∀ teeClaims ∈ allTeeClaims, ∃ a, appraise B policyId teeClaims = .ok a)
    (indices : Table String UInt8) (submods : Table String (Appraisal B.crate)) :
    ∃ result, appraiseAll B policyId indices submods allTeeClaims = .ok result := by
  induction allTeeClaims generalizing indices submods with
  | nil => exact ⟨submods, rfl⟩
  | cons teeClaims allTeeClaims ih =>
    obtain ⟨a, ha⟩ := h teeClaims List.mem_cons_self
    have hindex : ∃ index, indexOf B indices teeClaims.teeClass = .ok index := by
      unfold indexOf
      cases indices teeClaims.teeClass with
      | none => exact ⟨0, rfl⟩
      | some index =>
        refine ⟨index + 1, if_neg fun hpanic => ?_⟩
        rw [hchecks] at hpanic
        exact Bool.false_ne_true hpanic.1
    obtain ⟨index, hindex⟩ := hindex
    obtain ⟨result, hresult⟩ := ih (fun t ht => h t (List.mem_cons_of_mem _ ht))
      (indices.insert teeClaims.teeClass index)
      (submods.insert (teeClaims.teeClass ++ toString index.toNat) a)
    exact ⟨result, by simp only [appraiseAll, ha, hindex, Outcome.ok_bind, hresult]⟩

open AttestationService (exampleBroker)

/-- Claims of a sample verifier. -/
def exampleTeeClaims : TeeClaims := ⟨.Sample, "cpu", .object [], .null, .null⟩

theorem exampleTeeClaims_appraise (policyId : String) :
    ∃ a, appraise exampleBroker policyId exampleTeeClaims = .ok a := by
  have ht : transformClaims exampleBroker exampleTeeClaims.claims exampleTeeClaims.initDataClaims
      exampleTeeClaims.runtimeDataClaims exampleTeeClaims.tee = .ok _ :=
    transformClaims_object (moveClaim_of_none rfl) (moveClaim_of_none rfl) rfl rfl
  obtain ⟨a, ha, -⟩ := AttestationService.example_appraise policyId ht
  exact ⟨a, ha⟩

theorem exists_unsignedEar (n : ℕ) : ∃ ear,
    unsignedEar exampleBroker (List.replicate n exampleTeeClaims) ["default"] = .ok ear := by
  have happraise : ∀ teeClaims ∈ List.replicate n exampleTeeClaims,
      ∃ a, appraise exampleBroker "default" teeClaims = .ok a := by
    intro teeClaims hmem
    rw [List.eq_of_mem_replicate hmem]
    exact exampleTeeClaims_appraise "default"
  obtain ⟨result, hresult⟩ := exists_appraiseAll (B := exampleBroker) rfl happraise Table.empty
    Table.empty
  simp only [unsignedEar, hresult, Outcome.ok_bind]
  exact ⟨_, rfl⟩

/-- A submodule stays, with this appraisal or a later one. -/
theorem exists_submods_of_appraiseAll {policyId name : String} {allTeeClaims : List TeeClaims}
    {indices : Table String UInt8} {submods result : Table String (Appraisal B.crate)}
    (h : appraiseAll B policyId indices submods allTeeClaims = .ok result)
    (hname : ∃ a, submods name = some a) : ∃ a, result name = some a := by
  induction allTeeClaims generalizing indices submods with
  | nil =>
    cases h
    exact hname
  | cons head allTeeClaims ih =>
    simp only [appraiseAll, Outcome.bind_eq_ok] at h
    obtain ⟨a, -, index, -, hrest⟩ := h
    refine ih hrest ?_
    by_cases heq : name = head.teeClass ++ toString index.toNat
    · exact ⟨a, by rw [heq, Table.insert_self]⟩
    · obtain ⟨a', ha'⟩ := hname
      exact ⟨a', by rw [Table.insert_of_ne _ _ heq, ha']⟩

theorem exists_cpu0 {n : ℕ} {ear : Ear exampleBroker.crate} (hear : unsignedEar exampleBroker
    (List.replicate (n + 1) exampleTeeClaims) ["default"] = .ok ear) :
    ∃ a, ear.submods "cpu0" = some a := by
  obtain ⟨policyId, -, hloop⟩ := appraiseAll_of_unsignedEar hear
  rw [List.replicate_succ, appraiseAll] at hloop
  obtain ⟨a, -, hloop⟩ := Outcome.bind_eq_ok.1 hloop
  obtain ⟨index, hindex, hloop⟩ := Outcome.bind_eq_ok.1 hloop
  obtain rfl : 0 = index := Outcome.ok.inj hindex
  exact exists_submods_of_appraiseAll hloop ⟨a, Table.insert_self _ _ _⟩

/-- Some pieces give a token. -/
theorem example_issue {n : ℕ} {ear : Ear exampleBroker.crate} (hear : unsignedEar exampleBroker
    (List.replicate (n + 1) exampleTeeClaims) ["default"] = .ok ear) :
    issue exampleBroker (List.replicate (n + 1) exampleTeeClaims) ["default"] = .ok "token" := by
  obtain ⟨a, ha⟩ := exists_cpu0 hear
  rw [issue, hear]
  exact AttestationService.example_sign ha

theorem count_example (n : ℕ) (c : String) :
    (classes (List.replicate n exampleTeeClaims)).count c = if "cpu" = c then n else 0 := by
  simp [classes, exampleTeeClaims, List.count_replicate]

/-- **The 257th piece of a class takes the place of the first.** -/
theorem issue_replaces : ∃ ear,
    unsignedEar exampleBroker (List.replicate 257 exampleTeeClaims) ["default"] = .ok ear ∧
      issue exampleBroker (List.replicate 257 exampleTeeClaims) ["default"] = .ok "token" ∧
      ¬ SubmodulesKept exampleBroker "default" (List.replicate 257 exampleTeeClaims)
        ear.submods := by
  obtain ⟨ear, hear⟩ := exists_unsignedEar 257
  obtain ⟨_, hpolicy, hloop⟩ := appraiseAll_of_unsignedEar hear
  cases hpolicy
  have hclass : ∀ c ∈ classes (List.replicate 257 exampleTeeClaims), ¬ EndsInDigit c := by
    intro c hc
    obtain ⟨teeClaims, hmem, rfl⟩ := List.mem_map.1 hc
    rw [List.eq_of_mem_replicate hmem]
    decide
  refine ⟨ear, hear, example_issue hear, fun hkept => ?_⟩
  have hcount := (submodulesKept_iff hloop hclass).1 hkept "cpu"
  rw [count_example] at hcount
  simp at hcount

/-- Two pieces have their submodules. -/
theorem issue_submodules_two : ∃ ear,
    unsignedEar exampleBroker (List.replicate 2 exampleTeeClaims) ["default"] = .ok ear ∧
      SubmodulesKept exampleBroker "default" (List.replicate 2 exampleTeeClaims) ear.submods := by
  obtain ⟨ear, hear⟩ := exists_unsignedEar 2
  obtain ⟨_, ear', hpolicy, hear', -, hiff⟩ := issue_submodules (by decide) (example_issue hear)
  cases hpolicy
  cases hear.symm.trans hear'
  refine ⟨ear, hear, hiff.2 fun c => ?_⟩
  rw [count_example]
  split_ifs <;> omega

end Trustmee.Broker
