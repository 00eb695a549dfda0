import Trustmee.Foundations.Bytes
import Mathlib.Tactic.SplitIfs

/-!
# Texts and their bytes

The bytes of a text in UTF-8 (`toUtf8`), and the two readers of the standard library: one that
refuses what is not UTF-8, and one that replaces it. On the bytes of a text both give the text.
-/

namespace Trustmee

/-- `str::as_bytes`. -/
def toUtf8 (s : String) : Bytes := s.toUTF8.data.toList

/-- `std::str::from_utf8`. -/
def fromUtf8 (b : Bytes) : Option String := String.fromUTF8? ⟨b.toArray⟩

@[simp] theorem fromUtf8_toUtf8 (s : String) : fromUtf8 (toUtf8 s) = some s := by
  have h : (⟨(toUtf8 s).toArray⟩ : ByteArray) = s.toUTF8 := by
    rw [toUtf8, Array.toArray_toList]
  rw [fromUtf8, h, String.fromUTF8?, String.toUTF8_eq_toByteArray, dif_pos s.isValidUTF8]
  rfl

theorem toUtf8_injective {s t : String} (h : toUtf8 s = toUtf8 t) : s = t := by
  have hread := fromUtf8_toUtf8 s
  rw [h, fromUtf8_toUtf8] at hread
  exact (Option.some.inj hread).symm

/-- A byte that continues a character. -/
def isContinuation (b : UInt8) : Bool := 0x80 ≤ b && b ≤ 0xBF

/-- The second byte may follow the first byte of a character of three or four bytes. -/
def maySecond (a b : UInt8) : Bool :=
  if a = 0xE0 then 0xA0 ≤ b && b ≤ 0xBF
  else if a = 0xED then 0x80 ≤ b && b ≤ 0x9F
  else if a = 0xF0 then 0x90 ≤ b && b ≤ 0xBF
  else if a = 0xF4 then 0x80 ≤ b && b ≤ 0x8F
  else isContinuation b

def replacement : Char := Char.ofNat 0xFFFD

/-- The characters of bytes. The longest start of a character that cannot go on is replaced. -/
def lossyChars : Bytes → List Char
  | [] => []
  | a :: rest =>
    if a < 0x80 then Char.ofNat a.toNat :: lossyChars rest
    else if 0xC2 ≤ a ∧ a ≤ 0xDF then
      match rest with
      | b :: rest' =>
        if isContinuation b then
          Char.ofNat ((a.toNat - 0xC0) * 64 + (b.toNat - 0x80)) :: lossyChars rest'
        else replacement :: lossyChars (b :: rest')
      | [] => [replacement]
    else if 0xE0 ≤ a ∧ a ≤ 0xEF then
      match rest with
      | b :: c :: rest' =>
        if !maySecond a b then replacement :: lossyChars (b :: c :: rest')
        else if !isContinuation c then replacement :: lossyChars (c :: rest')
        else Char.ofNat ((a.toNat - 0xE0) * 4096 + (b.toNat - 0x80) * 64 + (c.toNat - 0x80)) ::
          lossyChars rest'
      | [b] => if maySecond a b then [replacement] else replacement :: lossyChars [b]
      | [] => [replacement]
    else if 0xF0 ≤ a ∧ a ≤ 0xF4 then
      match rest with
      | b :: c :: d :: rest' =>
        if !maySecond a b then replacement :: lossyChars (b :: c :: d :: rest')
        else if !isContinuation c then replacement :: lossyChars (c :: d :: rest')
        else if !isContinuation d then replacement :: lossyChars (d :: rest')
        else Char.ofNat ((a.toNat - 0xF0) * 262144 + (b.toNat - 0x80) * 4096 +
          (c.toNat - 0x80) * 64 + (d.toNat - 0x80)) :: lossyChars rest'
      | [b, c] =>
        if !maySecond a b then replacement :: lossyChars [b, c]
        else if !isContinuation c then replacement :: lossyChars [c]
        else [replacement]
      | [b] => if maySecond a b then [replacement] else replacement :: lossyChars [b]
      | [] => [replacement]
    else replacement :: lossyChars rest

/-- `String::from_utf8_lossy`. -/
def fromUtf8Lossy (b : Bytes) : String := String.ofList (lossyChars b)

/-! ## The bytes of characters -/

section

variable {a b c d : UInt8} {rest : Bytes}

theorem isContinuation_iff : isContinuation b = true ↔ 0x80 ≤ b.toNat ∧ b.toNat ≤ 0xBF := by
  rw [isContinuation, Bool.and_eq_true, decide_eq_true_eq, decide_eq_true_eq,
    UInt8.le_iff_toNat_le, UInt8.le_iff_toNat_le]
  rfl

theorem lossyChars_one (ha : a.toNat < 0x80) :
    lossyChars (a :: rest) = Char.ofNat a.toNat :: lossyChars rest := by
  have h : a < 0x80 := UInt8.lt_iff_toNat_lt.2 ha
  rw [lossyChars.eq_def]
  exact if_pos h

theorem lossyChars_two (ha : 0xC2 ≤ a.toNat ∧ a.toNat ≤ 0xDF) (hb : isContinuation b = true) :
    lossyChars (a :: b :: rest) =
      Char.ofNat ((a.toNat - 0xC0) * 64 + (b.toNat - 0x80)) :: lossyChars rest := by
  have hlow : ¬ a < 0x80 := by
    rw [UInt8.lt_iff_toNat_lt]
    change ¬ a.toNat < 0x80
    omega
  have htwo : 0xC2 ≤ a ∧ a ≤ 0xDF := by
    rw [UInt8.le_iff_toNat_le, UInt8.le_iff_toNat_le]
    exact ha
  rw [lossyChars.eq_def]
  dsimp only
  rw [if_neg hlow, if_pos htwo, if_pos hb]

theorem lossyChars_three (ha : 0xE0 ≤ a.toNat ∧ a.toNat ≤ 0xEF) (hb : maySecond a b = true)
    (hc : isContinuation c = true) :
    lossyChars (a :: b :: c :: rest) =
      Char.ofNat ((a.toNat - 0xE0) * 4096 + (b.toNat - 0x80) * 64 + (c.toNat - 0x80)) ::
        lossyChars rest := by
  have hlow : ¬ a < 0x80 := by
    rw [UInt8.lt_iff_toNat_lt]
    change ¬ a.toNat < 0x80
    omega
  have htwo : ¬ (0xC2 ≤ a ∧ a ≤ 0xDF) := by
    rw [UInt8.le_iff_toNat_le, UInt8.le_iff_toNat_le]
    change ¬ (0xC2 ≤ a.toNat ∧ a.toNat ≤ 0xDF)
    omega
  have hthree : 0xE0 ≤ a ∧ a ≤ 0xEF := by
    rw [UInt8.le_iff_toNat_le, UInt8.le_iff_toNat_le]
    exact ha
  rw [lossyChars.eq_def]
  dsimp only
  rw [if_neg hlow, if_neg htwo, if_pos hthree, if_neg (by simp [hb]), if_neg (by simp [hc])]

theorem lossyChars_four (ha : 0xF0 ≤ a.toNat ∧ a.toNat ≤ 0xF4) (hb : maySecond a b = true)
    (hc : isContinuation c = true) (hd : isContinuation d = true) :
    lossyChars (a :: b :: c :: d :: rest) =
      Char.ofNat ((a.toNat - 0xF0) * 262144 + (b.toNat - 0x80) * 4096 + (c.toNat - 0x80) * 64 +
        (d.toNat - 0x80)) :: lossyChars rest := by
  have hlow : ¬ a < 0x80 := by
    rw [UInt8.lt_iff_toNat_lt]
    change ¬ a.toNat < 0x80
    omega
  have htwo : ¬ (0xC2 ≤ a ∧ a ≤ 0xDF) := by
    rw [UInt8.le_iff_toNat_le, UInt8.le_iff_toNat_le]
    change ¬ (0xC2 ≤ a.toNat ∧ a.toNat ≤ 0xDF)
    omega
  have hthree : ¬ (0xE0 ≤ a ∧ a ≤ 0xEF) := by
    rw [UInt8.le_iff_toNat_le, UInt8.le_iff_toNat_le]
    change ¬ (0xE0 ≤ a.toNat ∧ a.toNat ≤ 0xEF)
    omega
  have hfour : 0xF0 ≤ a ∧ a ≤ 0xF4 := by
    rw [UInt8.le_iff_toNat_le, UInt8.le_iff_toNat_le]
    exact ha
  rw [lossyChars.eq_def]
  dsimp only
  rw [if_neg hlow, if_neg htwo, if_neg hthree, if_pos hfour, if_neg (by simp [hb]),
    if_neg (by simp [hc]), if_neg (by simp [hd])]

theorem toNat_ofNat_lt {n : ℕ} (h : n < 256) : (UInt8.ofNat n).toNat = n :=
  UInt8.toNat_ofNat_of_lt' h

theorem maySecond_iff : maySecond a b = true ↔
    (0x80 ≤ b.toNat ∧ b.toNat ≤ 0xBF) ∧ (a.toNat = 0xE0 → 0xA0 ≤ b.toNat) ∧
      (a.toNat = 0xED → b.toNat ≤ 0x9F) ∧ (a.toNat = 0xF0 → 0x90 ≤ b.toNat) ∧
      (a.toNat = 0xF4 → b.toNat ≤ 0x8F) := by
  have hE0 : a = 0xE0 ↔ a.toNat = 0xE0 := UInt8.toNat_inj.symm
  have hED : a = 0xED ↔ a.toNat = 0xED := UInt8.toNat_inj.symm
  have hF0 : a = 0xF0 ↔ a.toNat = 0xF0 := UInt8.toNat_inj.symm
  have hF4 : a = 0xF4 ↔ a.toNat = 0xF4 := UInt8.toNat_inj.symm
  have hle (x y : UInt8) : x ≤ y ↔ x.toNat ≤ y.toNat := UInt8.le_iff_toNat_le
  have hA0 : (0xA0 : UInt8).toNat = 0xA0 := rfl
  have hBF : (0xBF : UInt8).toNat = 0xBF := rfl
  have h80 : (0x80 : UInt8).toNat = 0x80 := rfl
  have h9F : (0x9F : UInt8).toNat = 0x9F := rfl
  have h90 : (0x90 : UInt8).toNat = 0x90 := rfl
  have h8F : (0x8F : UInt8).toNat = 0x8F := rfl
  simp only [maySecond, hE0, hED, hF0, hF4]
  split_ifs <;> simp only [isContinuation_iff, Bool.and_eq_true, decide_eq_true_eq, hle, hA0, hBF,
    h80, h9F, h90, h8F] <;> omega

/-- A character is read from its bytes. -/
theorem lossyChars_utf8EncodeChar (ch : Char) :
    lossyChars (String.utf8EncodeChar ch ++ rest) = ch :: lossyChars rest := by
  have hval : ch.val.toNat = ch.toNat := rfl
  have hvalid : ch.toNat < 0xD800 ∨ 0xDFFF < ch.toNat ∧ ch.toNat < 0x110000 := ch.valid
  have hchar : Char.ofNat ch.toNat = ch := Char.ofNat_toNat ch
  unfold String.utf8EncodeChar
  dsimp only
  rw [hval]
  generalize ch.toNat = v at hvalid hchar
  subst hchar
  split_ifs with h₁ h₂ h₃
  · have hone := toNat_ofNat_lt (show v < 256 by omega)
    rw [List.cons_append, List.nil_append, lossyChars_one (by omega), hone]
  · have ha := toNat_ofNat_lt (show v / 64 % 0x20 + 0xc0 < 256 by omega)
    have hb := toNat_ofNat_lt (show v % 0x40 + 0x80 < 256 by omega)
    have hv : (v / 64 % 0x20 + 0xc0 - 0xC0) * 64 + (v % 0x40 + 0x80 - 0x80) = v := by omega
    rw [List.cons_append, List.cons_append, List.nil_append,
      lossyChars_two (by omega) (isContinuation_iff.2 (by omega)), ha, hb, hv]
  · have ha := toNat_ofNat_lt (show v / 4096 % 0x10 + 0xe0 < 256 by omega)
    have hb := toNat_ofNat_lt (show v / 64 % 0x40 + 0x80 < 256 by omega)
    have hc := toNat_ofNat_lt (show v % 0x40 + 0x80 < 256 by omega)
    have hv : (v / 4096 % 0x10 + 0xe0 - 0xE0) * 4096 + (v / 64 % 0x40 + 0x80 - 0x80) * 64 +
        (v % 0x40 + 0x80 - 0x80) = v := by omega
    rw [List.cons_append, List.cons_append, List.cons_append, List.nil_append,
      lossyChars_three (by omega) (maySecond_iff.2 (by omega)) (isContinuation_iff.2 (by omega)),
      ha, hb, hc, hv]
  · have ha := toNat_ofNat_lt (show v / 262144 % 0x08 + 0xf0 < 256 by omega)
    have hb := toNat_ofNat_lt (show v / 4096 % 0x40 + 0x80 < 256 by omega)
    have hc := toNat_ofNat_lt (show v / 64 % 0x40 + 0x80 < 256 by omega)
    have hd := toNat_ofNat_lt (show v % 0x40 + 0x80 < 256 by omega)
    have hv : (v / 262144 % 0x08 + 0xf0 - 0xF0) * 262144 + (v / 4096 % 0x40 + 0x80 - 0x80) * 4096 +
        (v / 64 % 0x40 + 0x80 - 0x80) * 64 + (v % 0x40 + 0x80 - 0x80) = v := by omega
    rw [List.cons_append, List.cons_append, List.cons_append, List.cons_append, List.nil_append,
      lossyChars_four (by omega) (maySecond_iff.2 (by omega)) (isContinuation_iff.2 (by omega))
        (isContinuation_iff.2 (by omega)), ha, hb, hc, hd, hv]

end

theorem toUtf8_eq_flatMap (s : String) : toUtf8 s = s.toList.flatMap String.utf8EncodeChar := by
  rw [toUtf8, String.toUTF8_eq_toByteArray, ← String.utf8Encode_toList, List.utf8Encode,
    List.data_toByteArray]

theorem lossyChars_flatMap (l : List Char) : lossyChars (l.flatMap String.utf8EncodeChar) = l := by
  induction l with
  | nil => rw [List.flatMap_nil, lossyChars]
  | cons ch l ih => rw [List.flatMap_cons, lossyChars_utf8EncodeChar, ih]

/-- The bytes of a text are read as the text. -/
theorem fromUtf8Lossy_toUtf8 (s : String) : fromUtf8Lossy (toUtf8 s) = s := by
  rw [fromUtf8Lossy, toUtf8_eq_flatMap, lossyChars_flatMap, String.ofList_toList]

theorem fromUtf8_eq_some {b : Bytes} {s : String} : fromUtf8 b = some s ↔ b = toUtf8 s := by
  constructor
  · intro h
    unfold fromUtf8 String.fromUTF8? at h
    split_ifs at h with hvalid
    rw [Option.some.injEq] at h
    subst h
    rfl
  · rintro rfl
    exact fromUtf8_toUtf8 s

theorem lossyChars_toUtf8 (s : String) : lossyChars (toUtf8 s) = s.toList := by
  rw [toUtf8_eq_flatMap, lossyChars_flatMap]

/-- A byte of one is a character of its own. -/
theorem toList_of_toUtf8_eq_cons {s : String} {a : UInt8} {rest : Bytes}
    (h : toUtf8 s = a :: rest) (ha : a.toNat < 0x80) :
    s.toList = Char.ofNat a.toNat :: lossyChars rest := by
  rw [← lossyChars_toUtf8, h, lossyChars_one ha]

theorem utf8EncodeChar_of_ascii {ch : Char} (h : ch.toNat < 0x80) :
    String.utf8EncodeChar ch = [UInt8.ofNat ch.toNat] := by
  unfold String.utf8EncodeChar
  dsimp only
  rw [if_pos (show ch.val.toNat ≤ 0x7f from Nat.le_of_lt_succ h)]
  rfl

/-- A character begins with a byte that continues none. -/
theorem exists_utf8EncodeChar_eq_cons (ch : Char) : ∃ a rest,
    String.utf8EncodeChar ch = a :: rest ∧ isContinuation a = false := by
  have hvalid : ch.val.toNat < 0xD800 ∨ 0xDFFF < ch.val.toNat ∧ ch.val.toNat < 0x110000 := ch.valid
  unfold String.utf8EncodeChar
  dsimp only
  generalize ch.val.toNat = v at hvalid
  split_ifs <;> refine ⟨_, _, rfl, Bool.eq_false_iff.2 fun h => ?_⟩ <;>
    rw [isContinuation_iff, toNat_ofNat_lt (by omega)] at h <;> omega

/-- No text has a byte that continues a character behind a character of one byte. -/
theorem fromUtf8_eq_none {a b : UInt8} {rest : Bytes} (ha : a.toNat < 0x80)
    (hb : isContinuation b = true) : fromUtf8 (a :: b :: rest) = none := by
  by_contra hne
  obtain ⟨s, hs⟩ := Option.ne_none_iff_exists'.1 hne
  have htext := fromUtf8_eq_some.1 hs
  have hbytes := toUtf8_eq_flatMap s
  rw [toList_of_toUtf8_eq_cons htext.symm ha, ← htext, List.flatMap_cons] at hbytes
  have hchar : (Char.ofNat a.toNat).toNat = a.toNat := by
    rw [Char.ofNat, dif_pos (.inl (by omega))]
    rfl
  rw [utf8EncodeChar_of_ascii (by omega), hchar, UInt8.ofNat_toNat, List.singleton_append,
    List.cons.injEq] at hbytes
  cases hl : lossyChars (b :: rest) with
  | nil =>
    rw [hl, List.flatMap_nil] at hbytes
    cases hbytes.2
  | cons ch l =>
    obtain ⟨x, y, hx, hnot⟩ := exists_utf8EncodeChar_eq_cons ch
    rw [hl, List.flatMap_cons, hx, List.cons_append, List.cons.injEq] at hbytes
    rw [hbytes.2.1, hnot] at hb
    cases hb

/-- A text has as many bytes as characters at least. -/
theorem length_toList_le (s : String) : s.toList.length ≤ (toUtf8 s).length := by
  rw [toUtf8_eq_flatMap]
  induction s.toList with
  | nil => exact Nat.le_refl 0
  | cons ch l ih =>
    obtain ⟨a, rest, ha, -⟩ := exists_utf8EncodeChar_eq_cons ch
    rw [List.flatMap_cons, ha, List.cons_append, List.length_cons, List.length_cons,
      List.length_append]
    omega

/-- A text of ASCII has as many bytes as characters. -/
theorem length_toUtf8_of_ascii {l : List Char} (h : ∀ c ∈ l, c.toNat < 0x80) :
    (toUtf8 (String.ofList l)).length = l.length := by
  rw [toUtf8_eq_flatMap, String.toList_ofList]
  induction l with
  | nil => rfl
  | cons ch l ih =>
    obtain ⟨hch, hl⟩ := List.forall_mem_cons.1 h
    rw [List.flatMap_cons, utf8EncodeChar_of_ascii hch, List.singleton_append, List.length_cons,
      ih hl, List.length_cons]

end Trustmee
