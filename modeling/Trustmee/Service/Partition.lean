import Trustmee.Service.Broker

/-!
# The claims of a submodule, partitioned

`transform_claims` takes `init_data` and `report_data` out of the verifier's claims, sets each
beside the claims that stand behind it, and leaves the others under the name of the TEE: a partition
of what the verifier gave (`transformClaims_partition`). It unwraps the two as strings, and the
claims of a component are any JSON, so another value of one of them is a panic (`partitioned_iff`).
-/

namespace Trustmee.Broker

variable (B : Env)

/-- A claim of the verifier in the output: it has its text there, and beside it the claims behind
it; without the claim neither is there. -/
structure Hoisted (inputClaims : Json) (name claimsName : String) (behind : Json)
    (output : Table String B.crate.RawValue) : Prop where
  present : ∀ v, inputClaims.get name = some v → ∃ text raw, v = .string text ∧
    output name = some (B.crate.string text) ∧ B.crate.fromStr behind.print = .ok raw ∧
    output claimsName = some raw
  absent : inputClaims.get name = none → output name = none ∧ output claimsName = none

/-- The claims without the two that are moved. -/
def remaining : Json → Json
  | .object m => .object (m.filter fun p => p.1 ≠ "init_data" ∧ p.1 ≠ "report_data")
  | v => v

/-- The output has the claims of the verifier, each in its place, and nothing else. -/
structure Partition (inputClaims initDataClaims runtimeDataClaims : Json) (tee : String)
    (output : Table String B.crate.RawValue) : Prop where
  keys : ∀ k, (output k).isSome ↔ k = tee ∨
    k ∈ ["init_data", "init_data_claims"] ∧ (inputClaims.get "init_data").isSome ∨
    k ∈ ["report_data", "runtime_data_claims"] ∧ (inputClaims.get "report_data").isSome
  initData : Hoisted B inputClaims "init_data" "init_data_claims" initDataClaims output
  reportData : Hoisted B inputClaims "report_data" "runtime_data_claims" runtimeDataClaims output
  rest : ∃ raw, B.crate.fromStr (remaining inputClaims).print = .ok raw ∧ output tee = some raw

/-- The call returns, and on success its output is a partition of the claims. -/
def Partitioned (inputClaims initDataClaims runtimeDataClaims : Json) (tee : Tee) : Prop :=
  (transformClaims B inputClaims initDataClaims runtimeDataClaims tee).Returns ∧
    ∀ output, transformClaims B inputClaims initDataClaims runtimeDataClaims tee = .ok output →
      ∃ name, B.toVariantName tee = .ok name ∧
        Partition B inputClaims initDataClaims runtimeDataClaims name output

/-- No TEE has the name of a claim beside its own. -/
def NamesTees : Prop := ∀ tee name, B.toVariantName tee = .ok name →
  name ∉ ["init_data", "init_data_claims", "report_data", "runtime_data_claims"]

variable {B}

/-! ## One claim -/

theorem erase_of_get_none {m : Json.Map} {name : String} (h : Json.Map.get m name = none) :
    Json.Map.erase m name = m := by
  induction m with
  | nil => rfl
  | cons p m ih =>
    obtain ⟨k, v⟩ := p
    rw [Json.Map.get_cons] at h
    split_ifs at h with hk
    rw [Json.Map.erase, List.filter_cons_of_pos (by simpa using Ne.symm hk)]
    exact congrArg _ (ih h)

/-- Whether a claim is there or not, moving it takes it from the others. -/
theorem moveClaim_fst {name claimsName : String} {behind : Json}
    {input output : Json.Map × Table String B.crate.RawValue}
    (h : moveClaim B name claimsName behind input = .ok output) :
    output.1 = Json.Map.erase input.1 name := by
  obtain ⟨hget, rfl⟩ | ⟨_, _, -, -, herase, -⟩ := moveClaim_eq_ok h
  · exact (erase_of_get_none hget).symm
  · exact herase

/-- A move leaves the rest of the output alone. -/
theorem moveClaim_of_ne {name claimsName : String} {behind : Json}
    {input output : Json.Map × Table String B.crate.RawValue}
    (h : moveClaim B name claimsName behind input = .ok output) {k : String} (hname : k ≠ name)
    (hclaims : k ≠ claimsName) : output.2 k = input.2 k := by
  obtain ⟨-, rfl⟩ | ⟨_, _, -, -, -, hout⟩ := moveClaim_eq_ok h
  · rfl
  · rw [hout, Table.insert_of_ne _ _ hclaims, Table.insert_of_ne _ _ hname]

/-- The call returns exactly when the claim, where it is there, is a string. -/
theorem moveClaim_returns_iff {name claimsName : String} {behind : Json}
    {input : Json.Map × Table String B.crate.RawValue} :
    (moveClaim B name claimsName behind input).Returns ↔
      ∀ v, Json.Map.get input.1 name = some v → v.asStr.isSome := by
  cases hget : Json.Map.get input.1 name with
  | none => simp [moveClaim_of_none hget, Outcome.returns_ok]
  | some v =>
    simp only [moveClaim, hget, Outcome.returns_bind_iff, Option.some.injEq, forall_eq']
    cases v.asStr with
    | none => simp [Outcome.unwrap, Outcome.Returns]
    | some text =>
      simp [Outcome.unwrap, Outcome.returns_ok, Outcome.returns_ofExcept]

/-- A claim that is moved to an output without it is hoisted. -/
theorem hoisted_of_moveClaim {name claimsName : String} {behind : Json} {m : Json.Map}
    {input output : Json.Map × Table String B.crate.RawValue} (hne : name ≠ claimsName)
    (h : moveClaim B name claimsName behind input = .ok output)
    (hget : Json.Map.get input.1 name = Json.Map.get m name)
    (hnone : input.2 name = none ∧ input.2 claimsName = none) :
    Hoisted B (.object m) name claimsName behind output.2 := by
  obtain ⟨habsent, rfl⟩ | ⟨text, raw, hpresent, hraw, -, hout⟩ := moveClaim_eq_ok h
  · refine ⟨fun v hv => ?_, fun _ => hnone⟩
    rw [Json.get_object, ← hget, habsent] at hv
    cases hv
  · refine ⟨fun v hv => ?_, fun hv => ?_⟩
    · rw [Json.get_object, ← hget, hpresent] at hv
      cases hv
      refine ⟨text, raw, rfl, ?_, hraw, ?_⟩
      · rw [hout, Table.insert_of_ne _ _ hne, Table.insert_self]
      · rw [hout, Table.insert_self]
    · rw [Json.get_object, ← hget, hpresent] at hv
      cases hv

/-- A claim that the verifier does not give is not there. -/
theorem Hoisted.of_absent {inputClaims behind : Json} {name claimsName : String}
    {output : Table String B.crate.RawValue} (hget : inputClaims.get name = none)
    (hname : output name = none) (hclaims : output claimsName = none) :
    Hoisted B inputClaims name claimsName behind output := by
  refine ⟨fun v hv => ?_, fun _ => ⟨hname, hclaims⟩⟩
  rw [hget] at hv
  cases hv

theorem Hoisted.congr {inputClaims behind : Json} {name claimsName : String}
    {output output' : Table String B.crate.RawValue}
    (h : Hoisted B inputClaims name claimsName behind output) (hname : output' name = output name)
    (hclaims : output' claimsName = output claimsName) :
    Hoisted B inputClaims name claimsName behind output' := by
  obtain ⟨hpresent, habsent⟩ := h
  rw [← hname, ← hclaims] at habsent
  simp only [← hname, ← hclaims] at hpresent
  exact ⟨hpresent, habsent⟩

theorem Hoisted.isSome_iff {inputClaims behind : Json} {name claimsName : String}
    {output : Table String B.crate.RawValue}
    (h : Hoisted B inputClaims name claimsName behind output) {k : String}
    (hk : k ∈ [name, claimsName]) : (output k).isSome ↔ (inputClaims.get name).isSome := by
  cases hget : inputClaims.get name with
  | none =>
    obtain ⟨hname, hclaims⟩ := h.absent hget
    rcases List.mem_pair.1 hk with rfl | rfl <;> simp [hname, hclaims]
  | some v =>
    obtain ⟨text, raw, -, hname, -, hclaims⟩ := h.present v hget
    rcases List.mem_pair.1 hk with rfl | rfl <;> simp [hname, hclaims]

/-! ## Both claims -/

/-- An object's claims are moved one after the other. -/
theorem moveClaims_object_eq_ok {m : Json.Map} {initDataClaims runtimeDataClaims : Json}
    {moved : Json × Table String B.crate.RawValue}
    (h : moveClaims B (.object m) initDataClaims runtimeDataClaims = .ok moved) :
    ∃ first second,
      moveClaim B "init_data" "init_data_claims" initDataClaims (m, Table.empty) = .ok first ∧
      moveClaim B "report_data" "runtime_data_claims" runtimeDataClaims first = .ok second ∧
      moved = (.object second.1, second.2) := by
  simp only [moveClaims, Outcome.bind_eq_ok, Outcome.pure_eq, Outcome.ok.injEq] at h
  obtain ⟨first, hfirst, second, hsecond, rfl⟩ := h
  exact ⟨first, second, hfirst, hsecond, rfl⟩

/-- What `moveClaims` leaves, and what it gives. -/
theorem moveClaims_partition {inputClaims initDataClaims runtimeDataClaims : Json}
    {moved : Json × Table String B.crate.RawValue}
    (h : moveClaims B inputClaims initDataClaims runtimeDataClaims = .ok moved) :
    moved.1 = remaining inputClaims ∧
      Hoisted B inputClaims "init_data" "init_data_claims" initDataClaims moved.2 ∧
      Hoisted B inputClaims "report_data" "runtime_data_claims" runtimeDataClaims moved.2 ∧
      ∀ k ∉ ["init_data", "init_data_claims", "report_data", "runtime_data_claims"],
        moved.2 k = none := by
  cases inputClaims with
  | object m =>
    obtain ⟨first, second, hfirst, hsecond, rfl⟩ := moveClaims_object_eq_ok h
    have hrest : first.1 = Json.Map.erase m "init_data" := moveClaim_fst hfirst
    refine ⟨?_, ?_, ?_, fun k hk => ?_⟩
    · rw [moveClaim_fst hsecond, hrest, Json.Map.erase, Json.Map.erase, List.filter_filter,
        remaining]
      simp only [ne_eq, decide_not, Bool.decide_and, Bool.and_comm]
    · have hinit := hoisted_of_moveClaim (by decide) hfirst rfl ⟨rfl, rfl⟩
      exact hinit.congr (moveClaim_of_ne hsecond (by decide) (by decide))
        (moveClaim_of_ne hsecond (by decide) (by decide))
    · refine hoisted_of_moveClaim (by decide) hsecond ?_ ⟨?_, ?_⟩
      · rw [hrest, Json.Map.get_erase, if_neg (by decide)]
      · exact moveClaim_of_ne hfirst (by decide) (by decide)
      · exact moveClaim_of_ne hfirst (by decide) (by decide)
    · simp only [List.mem_cons, List.not_mem_nil, or_false, not_or] at hk
      obtain ⟨hinit, hinitClaims, hreport, hruntime⟩ := hk
      rw [moveClaim_of_ne hsecond hreport hruntime, moveClaim_of_ne hfirst hinit hinitClaims]
      rfl
  | _ =>
    cases h
    exact ⟨rfl, .of_absent rfl rfl rfl, .of_absent rfl rfl rfl, fun _ _ => rfl⟩

/-- The names of a table with both claims hoisted and nothing else. -/
theorem isSome_hoisted_iff {inputClaims initDataClaims runtimeDataClaims : Json}
    {output : Table String B.crate.RawValue}
    (hinit : Hoisted B inputClaims "init_data" "init_data_claims" initDataClaims output)
    (hreport : Hoisted B inputClaims "report_data" "runtime_data_claims" runtimeDataClaims output)
    (hothers : ∀ k ∉ ["init_data", "init_data_claims", "report_data", "runtime_data_claims"],
      output k = none) (k : String) :
    (output k).isSome ↔
      k ∈ ["init_data", "init_data_claims"] ∧ (inputClaims.get "init_data").isSome ∨
      k ∈ ["report_data", "runtime_data_claims"] ∧ (inputClaims.get "report_data").isSome := by
  by_cases hk : k ∈ ["init_data", "init_data_claims"]
  · have hk' : k ∉ ["report_data", "runtime_data_claims"] := by
      rcases List.mem_pair.1 hk with rfl | rfl <;> decide
    rw [hinit.isSome_iff hk, and_iff_right hk, eq_false hk', false_and, or_false]
  · rw [eq_false hk, false_and, false_or]
    by_cases hk' : k ∈ ["report_data", "runtime_data_claims"]
    · rw [hreport.isSome_iff hk', and_iff_right hk']
    · have hnone : output k = none := by
        apply hothers
        intro hmem
        exact (List.mem_append (s := ["init_data", "init_data_claims"])).1 hmem |>.elim hk hk'
      simp [hnone, hk']

/-- **The output partitions the claims.** -/
theorem transformClaims_partition (hnames : NamesTees B)
    {inputClaims initDataClaims runtimeDataClaims : Json} {tee : Tee}
    {output : Table String B.crate.RawValue}
    (h : transformClaims B inputClaims initDataClaims runtimeDataClaims tee = .ok output) :
    ∃ name, B.toVariantName tee = .ok name ∧
      Partition B inputClaims initDataClaims runtimeDataClaims name output := by
  simp only [transformClaims, Outcome.bind_eq_ok, Outcome.ofExcept_eq_ok, Outcome.pure_eq,
    Outcome.ok.injEq] at h
  obtain ⟨moved, hmoved, raw, hraw, name, hname, rfl⟩ := h
  obtain ⟨hrest, hinit, hreport, hothers⟩ := moveClaims_partition hmoved
  have hfresh := hnames tee name hname
  simp only [List.mem_cons, List.not_mem_nil, or_false, not_or] at hfresh
  obtain ⟨hne₁, hne₂, hne₃, hne₄⟩ := hfresh
  refine ⟨name, hname, fun k => ?_, ?_, ?_, raw, by rw [← hrest, hraw], Table.insert_self _ _ _⟩
  · by_cases hk : k = name
    · simp [hk]
    · rw [Table.insert_of_ne _ _ hk, isSome_hoisted_iff hinit hreport hothers, eq_false hk,
        false_or]
  · exact hinit.congr (Table.insert_of_ne _ _ (Ne.symm hne₁))
      (Table.insert_of_ne _ _ (Ne.symm hne₂))
  · exact hreport.congr (Table.insert_of_ne _ _ (Ne.symm hne₃))
      (Table.insert_of_ne _ _ (Ne.symm hne₄))

/-! ## Calls that return -/

variable (B) in
/-- The claims that are moved are strings: `init_data`, and `report_data` where the claims behind
`init_data` are read. -/
def MovedAreStrings (inputClaims initDataClaims : Json) : Prop :=
  (∀ v, inputClaims.get "init_data" = some v → v.asStr.isSome) ∧
    (((inputClaims.get "init_data").isSome →
        ∃ raw, B.crate.fromStr initDataClaims.print = .ok raw) →
      ∀ v, inputClaims.get "report_data" = some v → v.asStr.isSome)

/-- Claims that are no object have nothing to move. -/
theorem movedAreStrings_of_get_eq_none {inputClaims initDataClaims : Json}
    (hget : ∀ name, inputClaims.get name = none) :
    MovedAreStrings B inputClaims initDataClaims := by
  constructor
  · intro v hv
    rw [hget] at hv
    cases hv
  · intro _ v hv
    rw [hget] at hv
    cases hv

theorem exists_moveClaim_eq_ok_iff {name claimsName : String} {behind : Json}
    {input : Json.Map × Table String B.crate.RawValue}
    (hstring : ∀ v, Json.Map.get input.1 name = some v → v.asStr.isSome) :
    (∃ output, moveClaim B name claimsName behind input = .ok output) ↔
      ((Json.Map.get input.1 name).isSome → ∃ raw, B.crate.fromStr behind.print = .ok raw) := by
  cases hget : Json.Map.get input.1 name with
  | none => simp [moveClaim_of_none hget]
  | some v =>
    obtain ⟨text, htext⟩ := Option.isSome_iff_exists.1 (hstring v hget)
    simp [moveClaim, hget, htext, Outcome.unwrap, Outcome.bind_eq_ok]

theorem moveClaims_returns_iff (inputClaims initDataClaims runtimeDataClaims : Json) :
    (moveClaims B inputClaims initDataClaims runtimeDataClaims).Returns ↔
      MovedAreStrings B inputClaims initDataClaims := by
  cases inputClaims with
  | object m =>
    have hsecond : ∀ first,
        moveClaim B "init_data" "init_data_claims" initDataClaims (m, Table.empty) = .ok first →
        ((moveClaim B "report_data" "runtime_data_claims" runtimeDataClaims first >>= fun moved =>
          pure (Json.object moved.1, moved.2)).Returns ↔
            ∀ v, Json.Map.get m "report_data" = some v → v.asStr.isSome) := by
      intro first hfirst
      rw [Outcome.returns_bind_iff, moveClaim_returns_iff, moveClaim_fst hfirst, Json.Map.get_erase,
        if_neg (by decide)]
      exact and_iff_left fun _ _ => Outcome.returns_ok _
    rw [moveClaims, Outcome.returns_bind_iff, moveClaim_returns_iff, MovedAreStrings]
    apply and_congr_right
    intro hstring
    have hfirst : (∃ first, moveClaim B "init_data" "init_data_claims" initDataClaims
        (m, Table.empty) = .ok first) ↔ _ := exists_moveClaim_eq_ok_iff hstring
    rw [Json.get_object, ← hfirst]
    constructor
    · rintro h ⟨first, hfirst⟩
      exact (hsecond first hfirst).1 (h first hfirst)
    · intro h first hfirst
      exact (hsecond first hfirst).2 (h ⟨first, hfirst⟩)
  | _ => exact iff_of_true (Outcome.returns_ok _) (movedAreStrings_of_get_eq_none fun _ => rfl)

theorem transformClaims_returns_iff (inputClaims initDataClaims runtimeDataClaims : Json)
    (tee : Tee) :
    (transformClaims B inputClaims initDataClaims runtimeDataClaims tee).Returns ↔
      MovedAreStrings B inputClaims initDataClaims := by
  rw [transformClaims, Outcome.returns_bind_iff, moveClaims_returns_iff, and_iff_left_iff_imp]
  intro _ moved _
  refine (Outcome.returns_ofExcept _).bind fun _ _ => ?_
  exact (Outcome.returns_ofExcept _).bind fun _ _ => Outcome.returns_ok _

/-- **The claims are partitioned** exactly when the two that are moved are strings. -/
theorem partitioned_iff (hnames : NamesTees B)
    (inputClaims initDataClaims runtimeDataClaims : Json) (tee : Tee) :
    Partitioned B inputClaims initDataClaims runtimeDataClaims tee ↔
      MovedAreStrings B inputClaims initDataClaims := by
  rw [Partitioned, transformClaims_returns_iff, and_iff_left_iff_imp]
  intro _ output h
  exact transformClaims_partition hnames h

/-! ## A broker of the sample TEE -/

def sampleBroker : Env where
  crate := {
    RawValue := Json
    null := .null
    string := .string
    integer := fun n => .number (.int n)
    fromStr := fun text => if text = "null" then .ok .null else .ok (.object [])
    toString := fun _ => .error "unavailable"
    RawValueKind := Unit
    kind := fun _ => ()
    TrustVector := Unit
    newTrustVector := ()
    setByName := fun vector _ _ => some vector
    anySet := fun _ => true
    TrustTier := Unit
    status := fun _ => ()
    Extensions := Unit
    newExtensions := ()
    register := fun extensions _ _ _ => .ok extensions
    setExtension := fun extensions _ _ => .ok extensions }
  durationMin := 5
  developerName := "https://confidentialcontainers.org"
  buildName := "attestation-service 0.1.0"
  profileName := "tag:github.com,2024:confidential-containers/Trustee"
  toVariantName _ := .ok "sample"
  policyEngine _ _ := .error "unavailable"
  now := 1700000000
  checkedAdd now minutes := some (now + 60 * minutes)
  sign _ := .ok "token"
  overflowChecks := false

theorem namesTees_sampleBroker : NamesTees sampleBroker := by
  intro tee name h
  cases h
  decide

/-- The theorem at claims with report data. -/
theorem partitioned_reportData :
    Partitioned sampleBroker (.object [("report_data", .string "bm9uY2U=")]) .null .null .Sample :=
  (partitioned_iff namesTees_sampleBroker _ _ _ _).2
    ⟨by simp [Json.Map.get], by simp [Json.Map.get, Json.asStr]⟩

/-- Report data that are a number are a panic. -/
theorem not_partitioned_number :
    ¬ Partitioned sampleBroker (.object [("report_data", .number (.int 0))]) .null .null
      .Sample := by
  intro h
  have hreturns := (transformClaims_returns_iff _ _ _ _).1 h.1
  simpa [Json.Map.get, Json.asStr] using hreturns.2 (by simp [Json.Map.get])

end Trustmee.Broker
