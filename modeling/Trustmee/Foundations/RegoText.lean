import Mathlib.Data.List.Induction
import Mathlib.Data.List.Infix

/-!
# The text of a Rego module

Where a statement of a module may start, found by a scan of the characters before it: outside
comments and strings, outside brackets, at the start of a line, and not where the token before asks
for more. The head of a rule stands there, after `default` or alone (`HeadsAt`), so it stands on a
line that begins with it or with `default` (`HeadsAt.exists_line`).
-/

namespace Trustmee.RegoText

/-! ## The scan -/

/-- What the scan is in. -/
inductive Mode
  | code
  | comment
  | string
  | escape
  | raw
  deriving DecidableEq

/-- The scan after some characters. -/
structure Scan where
  mode : Mode
  /-- How many brackets are open. -/
  depth : ℕ
  /-- The word that the characters end with, the last character first. -/
  word : List Char
  /-- The token before asks for more. -/
  unfinished : Bool
  /-- Only blanks since the last line break. -/
  lineStart : Bool

def isIdent (c : Char) : Bool := c.isAlphanum || c == '_'

/-- The blanks within a line. -/
def blanks : List Char := [' ', '\t', '\r']

/-- The words that a statement goes on after. -/
def openers : List (List Char) :=
  ["as", "contains", "default", "else", "every", "if", "import", "in", "not", "package", "some",
    "with"].map String.toList

def Scan.endWord (s : Scan) : Scan :=
  if s.word = [] then s else { s with word := [], unfinished := s.word.reverse ∈ openers }

/-- A character between the words. -/
def Scan.punctuation (s : Scan) (c : Char) : Scan :=
  if c = '\n' then { s with lineStart := true }
  else if c ∈ blanks then s
  else if c = '#' then { s with mode := .comment }
  else if c = '"' then { s with mode := .string }
  else if c = Char.ofNat 0x60 then { s with mode := .raw }
  else if c ∈ ['(', '[', '{'] then
    { s with depth := s.depth + 1, unfinished := false, lineStart := false }
  else if c ∈ [')', ']', '}'] then
    { s with depth := s.depth - 1, unfinished := false, lineStart := false }
  else { s with unfinished := true, lineStart := false }

/-- The end of a string. -/
def Scan.close (s : Scan) : Scan :=
  { s with mode := .code, unfinished := false, lineStart := false }

def step (s : Scan) (c : Char) : Scan :=
  match s.mode with
  | .code =>
    if isIdent c then { s with word := c :: s.word, lineStart := false }
    else s.endWord.punctuation c
  | .comment => if c = '\n' then { s with mode := .code, lineStart := true } else s
  | .string =>
    if c = '\\' then { s with mode := .escape } else if c = '"' then s.close else s
  | .escape => { s with mode := .string }
  | .raw => if c = Char.ofNat 0x60 then s.close else s

def scan (text : List Char) : Scan := text.foldl step ⟨.code, 0, [], false, true⟩

theorem scan_append_singleton (text : List Char) (c : Char) :
    scan (text ++ [c]) = step (scan text) c := by
  simp [scan]

/-! ## The start of a line -/

/-- Only blanks since the last line break. -/
def AtLine (text : List Char) : Prop :=
  ∃ a ws, (∀ c ∈ ws, c ∈ blanks) ∧ (text = ws ∨ text = a ++ '\n' :: ws)

theorem atLine_nil : AtLine [] := ⟨[], [], by simp, .inl rfl⟩

theorem atLine_break (text : List Char) : AtLine (text ++ ['\n']) := ⟨text, [], by simp, .inr rfl⟩

theorem AtLine.blank {text : List Char} {c : Char} (h : AtLine text) (hc : c ∈ blanks) :
    AtLine (text ++ [c]) := by
  obtain ⟨a, ws, hws, htext⟩ := h
  refine ⟨a, ws ++ [c], ?_, ?_⟩
  · simpa [or_imp, forall_and, hc] using hws
  · rcases htext with rfl | rfl
    · exact .inl rfl
    · exact .inr (by simp)

@[simp] theorem Scan.endWord_mode (s : Scan) : s.endWord.mode = s.mode := by
  unfold Scan.endWord
  split <;> rfl

@[simp] theorem Scan.endWord_lineStart (s : Scan) : s.endWord.lineStart = s.lineStart := by
  unfold Scan.endWord
  split <;> rfl

theorem Scan.punctuation_lineStart {s : Scan} {c : Char} (hmode : (s.punctuation c).mode = .code)
    (hline : (s.punctuation c).lineStart = true) :
    c = '\n' ∨ c ∈ blanks ∧ s.mode = .code ∧ s.lineStart = true := by
  by_cases hbreak : c = '\n'
  · exact .inl hbreak
  · by_cases hblank : c ∈ blanks
    · rw [Scan.punctuation, if_neg hbreak, if_pos hblank] at hmode hline
      exact .inr ⟨hblank, hmode, hline⟩
    · rw [Scan.punctuation, if_neg hbreak, if_neg hblank] at hmode hline
      split_ifs at hmode hline

/-- A step to the start of a line is over a line break, or over a blank there. -/
theorem step_lineStart {s : Scan} {c : Char} (hmode : (step s c).mode = .code)
    (hline : (step s c).lineStart = true) :
    c = '\n' ∨ c ∈ blanks ∧ s.mode = .code ∧ s.lineStart = true := by
  cases hs : s.mode with
  | code =>
    simp only [step, hs] at hmode hline
    by_cases hident : isIdent c
    · simp [hident] at hline
    · rw [if_neg hident] at hmode hline
      simpa [hs] using Scan.punctuation_lineStart hmode hline
  | comment =>
    simp only [step, hs] at hmode
    by_cases hbreak : c = '\n'
    · exact .inl hbreak
    · simp [hbreak, hs] at hmode
  | string =>
    simp only [step, hs] at hmode hline
    split_ifs at hmode hline <;> simp_all [Scan.close]
  | escape => simp [step, hs] at hmode
  | raw =>
    simp only [step, hs] at hmode hline
    split_ifs at hmode hline <;> simp_all [Scan.close]

/-- **The scan at the start of a line.** -/
theorem atLine_of_scan {text : List Char} (hmode : (scan text).mode = .code)
    (hline : (scan text).lineStart = true) : AtLine text := by
  induction text using List.reverseRecOn with
  | nil => exact atLine_nil
  | append_singleton text c ih =>
    rw [scan_append_singleton] at hmode hline
    rcases step_lineStart hmode hline with rfl | ⟨hblank, hmode', hline'⟩
    · exact atLine_break text
    · exact (ih hmode' hline').blank hblank

/-! ## The heads of rules -/

/-- A statement may start after the characters. -/
def Starts (text : List Char) : Prop :=
  (scan text).mode = .code ∧ (scan text).depth = 0 ∧ (scan text).lineStart = true ∧
    (scan text).unfinished = false

instance (text : List Char) : Decidable (Starts text) := inferInstanceAs (Decidable (_ ∧ _))

/-- What may stand before the head of a rule in its statement: nothing, or `default`. -/
def IsOpening (opening : List Char) : Prop :=
  opening = [] ∨
    ∃ ws, ws ≠ [] ∧ (∀ c ∈ ws, c ∈ '\n' :: blanks) ∧ opening = "default".toList ++ ws

/-- The characters start with a word, the whole of it. -/
def StartsWithWord (word text : List Char) : Prop :=
  ∃ rest, text = word ++ rest ∧ ∀ c, rest.head? = some c → isIdent c = false

/-- The head of a rule of that name stands between the two parts of a text. -/
def HeadsAt (name before rest : List Char) : Prop :=
  StartsWithWord name rest ∧
    ∃ statement opening, before = statement ++ opening ∧ Starts statement ∧ IsOpening opening

theorem HeadsAt.of_starts {name before rest : List Char} (h : Starts before)
    (hname : StartsWithWord name rest) : HeadsAt name before rest :=
  ⟨hname, before, [], by simp, h, .inl rfl⟩

theorem IsOpening.mem {opening : List Char} (h : IsOpening opening) {c : Char} (hc : c ∈ opening) :
    c ∈ '\n' :: blanks ++ "default".toList := by
  rcases h with rfl | ⟨ws, -, hws, rfl⟩
  · cases hc
  · rcases List.mem_append.1 hc with hdefault | hblank
    · exact List.mem_append_right _ hdefault
    · exact List.mem_append_left _ (hws c hblank)

/-- Behind its opening a rule begins with `default` or with its name. -/
theorem IsOpening.exists_cons {opening : List Char} (h : IsOpening opening) (n : Char)
    (name : List Char) : ∃ d b, (d = n ∨ d = 'd') ∧ opening ++ n :: name = d :: b := by
  rcases h with rfl | ⟨ws, -, -, rfl⟩
  · exact ⟨n, name, .inl rfl, rfl⟩
  · exact ⟨'d', _, .inr rfl, rfl⟩

/-- A character that is not in the second part of a text, and comes before its end, is in the first
part. -/
theorem lt_of_not_mem {α : Type*} {before found first second rest : List α} {c : α}
    (heq : before ++ c :: found = first ++ second ++ rest) (hc : c ∉ second)
    (hlt : before.length < (first ++ second).length) : before.length < first.length := by
  by_contra hge
  have hget : (first ++ second ++ rest)[before.length]? = some c := by simp [← heq]
  rw [List.getElem?_append_left hlt, List.getElem?_append_right (by omega)] at hget
  exact hc (List.mem_of_getElem? hget)

/-- A text that begins in the first part of another ends with the second. -/
theorem exists_eq_append_of_lt {α : Type*} {before found first rest : List α}
    (heq : before ++ found = first ++ rest) (hlt : before.length < first.length) :
    ∃ a, found = a ++ rest := by
  rcases List.append_eq_append_iff.1 heq with ⟨a, -, hfound⟩ | ⟨a, hbefore, -⟩
  · exact ⟨a, hfound⟩
  · rw [hbefore, List.length_append] at hlt
    omega

/-- **A head that comes after some text begins a line of it**, alone or behind `default`, where that
text begins with no blank and not with a letter of `default`. -/
theorem HeadsAt.exists_line {n c : Char} {name before rest before' found : List Char}
    (h : HeadsAt (n :: name) before rest) (hc : c ∉ '\n' :: blanks ++ "default".toList)
    (heq : before' ++ c :: found = before ++ rest) (hlt : before'.length < before.length) :
    ∃ a ws d b, (∀ w ∈ ws, w ∈ blanks) ∧ (d = n ∨ d = 'd') ∧
      c :: found = a ++ '\n' :: ws ++ d :: b := by
  obtain ⟨⟨after, rfl, -⟩, statement, opening, rfl, ⟨hmode, -, hline, -⟩, hopening⟩ := h
  obtain ⟨a, ws, hws, hstatement⟩ := atLine_of_scan hmode hline
  have hnot : c ∉ '\n' :: ws ++ opening := by
    intro hmem
    rcases List.mem_append.1 hmem with hblank | hopen
    · apply hc
      rcases List.mem_cons.1 hblank with rfl | hw
      · simp
      · exact List.mem_append_left _ (List.mem_cons_of_mem _ (hws c hw))
    · exact hc (hopening.mem hopen)
  obtain ⟨d, b, hd, hcons⟩ := hopening.exists_cons n (name ++ after)
  rcases hstatement with rfl | rfl
  · -- on the first line there is nothing but blanks and the opening
    have hlt' : before'.length < ([] : List Char).length :=
      lt_of_not_mem heq (fun hmem => hnot (List.mem_cons_of_mem _ hmem)) hlt
    cases hlt'
  · rw [List.append_assoc a] at heq hlt
    have hlt' := lt_of_not_mem heq hnot hlt
    rw [List.append_assoc a] at heq
    obtain ⟨a', ha'⟩ := exists_eq_append_of_lt heq hlt'
    refine ⟨a', ws, d, b, hws, hd, ?_⟩
    rw [ha', ← hcons]
    simp

end Trustmee.RegoText
