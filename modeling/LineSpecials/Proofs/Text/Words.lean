import LineSpecials.Text.Blank
import LineSpecials.Text.DigitClass
import LineSpecials.Text.Name
import Mathlib.Data.List.TakeWhile

namespace LineSpecials

/-- The code points of the blanks. -/
def blankCodes : List Nat :=
  [0x9, 0xA, 0xB, 0xC, 0xD, 0x20, 0x85, 0xA0, 0x1680, 0x2000, 0x2001, 0x2002, 0x2003, 0x2004,
    0x2005, 0x2006, 0x2007, 0x2008, 0x2009, 0x200A, 0x2028, 0x2029, 0x202F, 0x205F, 0x3000]

theorem toNat_mem_blankCodes {c : Char} (h : isBlank c) : c.toNat ∈ blankCodes := by
  simp only [isBlank, Bool.or_eq_true, Bool.and_eq_true, decide_eq_true_eq, beq_iff_eq] at h
  simp only [blankCodes, List.mem_cons, List.not_mem_nil, or_false]
  omega

theorem not_digit_of_blank {c : Char} (h : isBlank c) : isDecimalDigit c = false := by
  have hall : ∀ n ∈ blankCodes, inRanges digitRanges n = false := by decide
  exact hall _ (toNat_mem_blankCodes h)

theorem not_nameChar_of_blank {c : Char} (h : isBlank c) : isNameChar c = false := by
  have hall : ∀ n ∈ blankCodes, isNameChar (Char.ofNat n) = false := by decide
  simpa using hall _ (toNat_mem_blankCodes h)

theorem not_blank_of_digit {c : Char} (h : isDecimalDigit c) : isBlank c = false := by
  by_contra hb
  simp [not_digit_of_blank (by simpa using hb)] at h

theorem not_blank_of_nameChar {c : Char} (h : isNameChar c) : isBlank c = false := by
  by_contra hb
  simp [not_nameChar_of_blank (by simpa using hb)] at h

namespace Text

/-- The number that a decimal numeral stands for. -/
def toNat? (t : Text) : Option Nat :=
  if t ≠ [] ∧ t.all Char.isDigit then some (Nat.ofDigitChars 10 t 0) else none

theorem isDigit_of_mem_ofNat {n : Nat} {c : Char} (h : c ∈ ofNat n) : c.isDigit :=
  Nat.isDigit_of_mem_toDigits (by decide) (by decide) h

theorem toNat?_ofNat (n : Nat) : toNat? (ofNat n) = some n := by
  have hdigits : (ofNat n).all Char.isDigit = true :=
    List.all_eq_true.mpr fun c hc => isDigit_of_mem_ofNat hc
  unfold toNat?
  rw [if_pos ⟨Nat.toDigits_ne_nil, hdigits⟩]
  exact congrArg some Nat.ofDigitChars_ten_toDigits

/-- The first run of a class of characters is not empty and holds no others. -/
theorem first_run {p : Char → Bool} {t r : Text} {c : Char}
    (h : t.dropWhile (! p ·) = c :: r) :
    (c :: r).takeWhile p ≠ [] ∧ ∀ d ∈ (c :: r).takeWhile p, p d := by
  have hc := List.head?_dropWhile_not (! p ·) t
  rw [h, List.head?_cons] at hc
  have hc : p c = true := by simpa using hc
  exact ⟨by simp [hc], fun d hd => List.mem_takeWhile_imp hd⟩

theorem leadingWord_eq_some {t w : Text} (h : leadingWord t = some w) :
    w ≠ [] ∧ ∀ c ∈ w, isNameChar c := by
  unfold leadingWord at h
  split at h
  next => simp at h
  next c r hd =>
    cases Option.some.inj h
    exact first_run hd

/-- The first run of a class of characters is what others come before and none of its own follow. -/
theorem first_run_append {p : Char → Bool} {a w q : Text} (ha : ∀ c ∈ a, p c = false)
    (hne : w ≠ []) (hw : ∀ c ∈ w, p c) (hq : ∀ c, q.head? = some c → p c = false) :
    ∃ c r, (a ++ (w ++ q)).dropWhile (! p ·) = c :: r ∧ (c :: r).takeWhile p = w := by
  obtain ⟨c, r, rfl⟩ := List.exists_cons_of_ne_nil hne
  have htake : q.takeWhile p = [] := by
    cases q with
    | nil => rfl
    | cons d s => exact List.takeWhile_cons_of_neg (by simp [hq d rfl])
  refine ⟨c, r ++ q, ?_, ?_⟩
  · rw [List.dropWhile_append_of_pos (by simpa using ha)]
    exact List.dropWhile_cons_of_neg (by simp [hw c (by simp)])
  · rw [← List.cons_append, List.takeWhile_append_of_pos hw, htake, List.append_nil]

/-- The first word of a text is what other characters come before and none of its own follow. -/
theorem leadingWord_append {p w q : Text} (hp : ∀ c ∈ p, isNameChar c = false) (hne : w ≠ [])
    (hw : ∀ c ∈ w, isNameChar c) (hq : ∀ c, q.head? = some c → isNameChar c = false) :
    leadingWord (p ++ (w ++ q)) = some w := by
  obtain ⟨c, r, hdrop, htake⟩ := first_run_append hp hne hw hq
  unfold leadingWord
  rw [hdrop]
  exact congrArg some htake

theorem leadingWord_eq_some_iff {t w : Text} : leadingWord t = some w ↔
    ∃ p q, t = p ++ (w ++ q) ∧ (∀ c ∈ p, isNameChar c = false) ∧ w ≠ [] ∧
      (∀ c ∈ w, isNameChar c) ∧ ∀ c, q.head? = some c → isNameChar c = false := by
  constructor
  · intro h
    obtain ⟨hne, hw⟩ := leadingWord_eq_some h
    unfold leadingWord at h
    split at h
    next => simp at h
    next c r hd =>
      cases Option.some.inj h
      refine ⟨t.takeWhile (! isNameChar ·), (c :: r).dropWhile isNameChar, ?_, ?_, hne, hw, ?_⟩
      · rw [List.takeWhile_append_dropWhile, ← hd, List.takeWhile_append_dropWhile]
      · intro d hmem
        simpa using List.mem_takeWhile_imp hmem
      · intro d hhead
        have hnot := List.head?_dropWhile_not isNameChar (c :: r)
        rw [hhead] at hnot
        simpa using hnot
  · rintro ⟨p, q, rfl, hp, hne, hw, hq⟩
    exact leadingWord_append hp hne hw hq

end Text

end LineSpecials
