import Trustmee.Foundations.FileSystem
import Trustmee.Kbs.Plugins
import Mathlib.Computability.Language

/-!
# Resource descriptions

What the regular expression of `ResourceDesc::try_from` captures (`Captures`) is what the parser
finds, and a description is written as it is read (`tryFrom_eq_ok`). A segment has a character, none
that is not of the class, and no dot in front.
-/

namespace Trustmee.Kbs.ResourceDesc

open Computability
open FileSystem (pieces pieces_append pieces_of_notMem)

/-! ## The expression -/

/-- One character of a class. -/
def one (p : Char → Bool) : Language Char := {w | ∃ c, p c = true ∧ w = [c]}

theorem mem_kstar_one {p : Char → Bool} {w : List Char} :
    w ∈ (one p)∗ ↔ ∀ c ∈ w, p c = true := by
  rw [Language.mem_kstar]
  constructor
  · rintro ⟨l, rfl, hl⟩ c hc
    obtain ⟨v, hv, hcv⟩ := List.mem_flatten.1 hc
    obtain ⟨c', hc', rfl⟩ := hl v hv
    rwa [List.mem_singleton.1 hcv]
  · intro h
    refine ⟨w.map fun c => [c], w.flatMap_singleton'.symm, fun v hv => ?_⟩
    obtain ⟨c, hc, rfl⟩ := List.mem_map.1 hv
    exact ⟨c, h c hc, rfl⟩

/-- `[a-zA-Z0-9_\-]+[a-zA-Z0-9_\-\.]*`. -/
def nameExpression : Language Char := one isFirst * (one isFirst)∗ * (one isLater)∗

theorem isLater_of_isFirst {c : Char} (h : isFirst c = true) : isLater c = true := by
  rw [isLater, h, Bool.true_or]

/-- The expression of a name matches what `matchesName` takes. -/
theorem mem_nameExpression {s : String} : s.toList ∈ nameExpression ↔ matchesName s = true := by
  rw [matchesName, nameExpression]
  constructor
  · intro h
    obtain ⟨w, hw, later, hlater, hs⟩ := Language.mem_mul.1 h
    obtain ⟨_, ⟨c, hc, rfl⟩, first, hfirst, rfl⟩ := Language.mem_mul.1 hw
    rw [mem_kstar_one] at hfirst hlater
    rw [← hs]
    simp only [List.cons_append, List.nil_append, hc, Bool.true_and, List.all_eq_true]
    intro d hd
    rcases List.mem_append.1 hd with hd | hd
    · exact isLater_of_isFirst (hfirst d hd)
    · exact hlater d hd
  · intro h
    cases hs : s.toList with
    | nil => simp [hs] at h
    | cons c l =>
      simp only [hs, Bool.and_eq_true, List.all_eq_true] at h
      refine Language.mem_mul.2 ⟨[c], Language.mem_mul.2 ⟨[c], ⟨c, h.1, rfl⟩, [], ?_, rfl⟩, l, ?_,
        rfl⟩
      · exact Language.nil_mem_kstar _
      · exact mem_kstar_one.2 h.2

/-- The expression matches the text, with these captures. -/
def Captures (value : String) (desc : ResourceDesc) : Prop :=
  value.toList = desc.repositoryName.toList ++ '/' :: (desc.resourceType.toList ++ '/' ::
      desc.resourceTag.toList) ∧
    desc.repositoryName.toList ∈ nameExpression ∧ desc.resourceType.toList ∈ nameExpression ∧
    desc.resourceTag.toList ∈ nameExpression

/-! ## Segments -/

/-- A segment: at least one character, each of the class, and no dot in front. -/
def IsSegment (s : String) : Prop :=
  s ≠ "" ∧ (∀ c ∈ s.toList, isLater c = true) ∧ s.toList.head? ≠ some '.'

theorem matchesName_iff {s : String} : matchesName s = true ↔ IsSegment s := by
  rw [matchesName, IsSegment, ne_eq, ← String.toList_eq_nil_iff]
  cases s.toList with
  | nil => simp
  | cons c l =>
    have hfirst : isLater c = true ∧ c ≠ '.' ↔ isFirst c = true := by
      rw [isLater, Bool.or_eq_true, beq_iff_eq]
      constructor
      · rintro ⟨h | h, hdot⟩
        · exact h
        · exact absurd h hdot
      · intro h
        refine ⟨.inl h, ?_⟩
        rintro rfl
        exact absurd h (by decide)
    simp only [Bool.and_eq_true, List.all_eq_true, List.head?_cons, List.forall_mem_cons, ne_eq,
      Option.some.injEq, ← hfirst]
    tauto

theorem IsSegment.slash_notMem {s : String} (h : IsSegment s) : '/' ∉ s.toList :=
  fun hmem => absurd (h.2.1 '/' hmem) (by decide)

theorem IsSegment.nul_notMem {s : String} (h : IsSegment s) : Char.ofNat 0 ∉ s.toList :=
  fun hmem => absurd (h.2.1 _ hmem) (by decide)

/-- A segment goes down. -/
theorem IsSegment.isName {s : String} (h : IsSegment s) : FileSystem.IsName s := by
  refine ⟨h.1, ?_, ?_, h.slash_notMem⟩
  · rintro rfl
    exact h.2.2 rfl
  · rintro rfl
    exact h.2.2 rfl

/-! ## Reading and writing -/

/-- `Display`. -/
def display (desc : ResourceDesc) : String :=
  desc.repositoryName ++ "/" ++ desc.resourceType ++ "/" ++ desc.resourceTag

/-- A description whose names are segments. -/
structure Accepted (desc : ResourceDesc) : Prop where
  repositoryName : IsSegment desc.repositoryName
  resourceType : IsSegment desc.resourceType
  resourceTag : IsSegment desc.resourceTag

theorem split_eq_pieces (value : String) : split value '/' = pieces value := rfl

theorem split_display {repo type tag : String} (hrepo : '/' ∉ repo.toList)
    (htype : '/' ∉ type.toList) (htag : '/' ∉ tag.toList) :
    split (repo ++ "/" ++ type ++ "/" ++ tag) '/' = [repo, type, tag] := by
  rw [split_eq_pieces, pieces_append, pieces_append, pieces_of_notMem hrepo,
    pieces_of_notMem htype, pieces_of_notMem htag]
  rfl

/-- Three parts and the slashes between them. -/
theorem eq_of_split {value repo type tag : String} (h : split value '/' = [repo, type, tag]) :
    value = repo ++ "/" ++ type ++ "/" ++ tag := by
  have hlist := congrArg (List.map String.toList) h
  rw [split, List.map_map] at hlist
  have hid : String.toList ∘ String.ofList = id := funext fun _ => String.toList_ofList
  rw [hid, List.map_id] at hlist
  have hvalue : ['/'].intercalate (value.toList.splitOn '/') = value.toList :=
    List.intercalate_splitOn '/'
  rw [hlist] at hvalue
  rw [← String.toList_inj, ← hvalue]
  simp [List.intercalate]

/-- **What is read is written back**, and what is written is read. -/
theorem tryFrom_eq_ok {value : String} {desc : ResourceDesc} :
    tryFrom value = .ok desc ↔ Accepted desc ∧ value = desc.display := by
  constructor
  · intro h
    unfold tryFrom at h
    split at h
    · next repo type tag hsplit =>
      split at h
      · next hmatches =>
        cases h
        simp only [Bool.and_eq_true, matchesName_iff] at hmatches
        exact ⟨⟨hmatches.1.1, hmatches.1.2, hmatches.2⟩, eq_of_split hsplit⟩
      · cases h
    · cases h
  · rintro ⟨⟨hrepo, htype, htag⟩, rfl⟩
    rw [tryFrom, display, split_display hrepo.slash_notMem htype.slash_notMem htag.slash_notMem]
    simp [matchesName_iff.2 hrepo, matchesName_iff.2 htype, matchesName_iff.2 htag]

/-- The description is one that `try_from` builds. -/
def Parsed (desc : ResourceDesc) : Prop := ∃ value, tryFrom value = .ok desc

theorem parsed_iff {desc : ResourceDesc} : Parsed desc ↔ Accepted desc := by
  constructor
  · rintro ⟨value, h⟩
    exact (tryFrom_eq_ok.1 h).1
  · exact fun h => ⟨desc.display, tryFrom_eq_ok.2 ⟨h, rfl⟩⟩

/-- **The parser finds what the expression captures.** -/
theorem tryFrom_eq_ok_iff_captures {value : String} {desc : ResourceDesc} :
    tryFrom value = .ok desc ↔ Captures value desc := by
  rw [tryFrom_eq_ok, Captures]
  simp only [mem_nameExpression, matchesName_iff]
  have hdisplay : value = desc.display ↔ value.toList = desc.repositoryName.toList ++ '/' ::
      (desc.resourceType.toList ++ '/' :: desc.resourceTag.toList) := by
    rw [← String.toList_inj, display]
    simp
  rw [hdisplay]
  constructor
  · rintro ⟨⟨hrepo, htype, htag⟩, hvalue⟩
    exact ⟨hvalue, hrepo, htype, htag⟩
  · rintro ⟨hvalue, hrepo, htype, htag⟩
    exact ⟨⟨hrepo, htype, htag⟩, hvalue⟩

theorem display_inj {desc desc' : ResourceDesc} (h : Accepted desc) (h' : Accepted desc')
    (heq : desc.display = desc'.display) : desc = desc' := by
  have hread := tryFrom_eq_ok.2 ⟨h, rfl⟩
  rw [heq, tryFrom_eq_ok.2 ⟨h', rfl⟩] at hread
  exact (Outcome.ok.inj hread).symm

end Trustmee.Kbs.ResourceDesc
