import LineSpecials.Proofs.EntryOrder

namespace LineSpecials

namespace Text

/-- A decimal numeral: ASCII digits, with no zero in front of others. -/
@[mk_iff]
structure IsNumeral (t : Text) : Prop where
  ne_nil : t ≠ []
  digits : t.all Char.isDigit
  no_idle_zero : 1 < t.length → t.head? ≠ some '0'

instance (t : Text) : Decidable t.IsNumeral := decidable_of_iff' _ (isNumeral_iff t)

/-- The number that decimal digits write. -/
def number (t : Text) : Nat := Nat.ofDigitChars 10 t 0

theorem number_cons (c : Char) (r : Text) :
    number (c :: r) = 10 ^ r.length * (c.toNat - 48) + number r := by
  unfold number
  rw [Nat.ofDigitChars_cons, Nat.ofDigitChars_eq_ofDigitChars_zero, Nat.mul_zero, Nat.zero_add]
  rfl

theorem toNat_of_isDigit {c : Char} (h : c.isDigit) : 48 ≤ c.toNat ∧ c.toNat ≤ 57 :=
  Char.isDigit_iff_toNat.mp h

theorem number_lt_pow_length {t : Text} (h : ∀ c ∈ t, c.isDigit) : number t < 10 ^ t.length := by
  induction t with
  | nil => decide
  | cons c r ih =>
    obtain ⟨hlow, hhigh⟩ := toNat_of_isDigit (h c (by simp))
    have hrest := ih fun d hd => h d (List.mem_cons_of_mem c hd)
    have hdigit : 10 ^ r.length * (c.toNat - 48) ≤ 10 ^ r.length * 9 :=
      Nat.mul_le_mul_left _ (by omega)
    rw [number_cons, List.length_cons, Nat.pow_succ]
    omega

/-- Of digits in equal number, those that come first as a text write the smaller number. -/
theorem number_lt_of_lt {a b : Text} (ha : ∀ c ∈ a, c.isDigit) (hlength : a.length = b.length)
    (h : a < b) : number a < number b := by
  induction a generalizing b with
  | nil =>
    have hb : b = [] := List.eq_nil_of_length_eq_zero hlength.symm
    simp [hb] at h
  | cons c r ih =>
    cases b with
    | nil => simp at hlength
    | cons d s =>
      have hdigits : ∀ x ∈ r, x.isDigit := fun x hx => ha x (List.mem_cons_of_mem c hx)
      have hsame : r.length = s.length := Nat.succ.inj hlength
      rw [number_cons, number_cons, ← hsame]
      rcases List.cons_lt_cons_iff.mp h with hcd | ⟨rfl, hrs⟩
      · have hlow := (toNat_of_isDigit (ha c (by simp))).1
        have hlt : c.toNat < d.toNat := UInt32.lt_iff_toNat_lt.mp hcd
        have hrest := number_lt_pow_length hdigits
        have hstep : 10 ^ r.length * (c.toNat - 48 + 1) ≤ 10 ^ r.length * (d.toNat - 48) :=
          Nat.mul_le_mul_left _ (by omega)
        rw [Nat.mul_add, Nat.mul_one] at hstep
        omega
      · have hrest := ih hdigits hsame hrs
        omega

namespace IsNumeral

variable {a b : Text}

theorem isDigit_of_mem (h : a.IsNumeral) : ∀ c ∈ a, c.isDigit := List.all_eq_true.mp h.digits

/-- A numeral of several digits writes at least the power of ten that its length stands for. -/
theorem pow_le_number (h : b.IsNumeral) {k : Nat} (hk : k + 2 = b.length) :
    10 ^ (k + 1) ≤ number b := by
  obtain ⟨c, r, rfl⟩ := List.exists_cons_of_ne_nil h.ne_nil
  have hlow := (toNat_of_isDigit (h.isDigit_of_mem c (by simp))).1
  have hne : c.toNat ≠ 48 := by
    intro hc
    have hzero : c = '0' := Char.toNat_inj.mp hc
    exact h.no_idle_zero (by omega) (congrArg some hzero)
  have hlength : r.length = k + 1 := by simpa using hk.symm
  have hdigit : 10 ^ (k + 1) * 1 ≤ 10 ^ (k + 1) * (c.toNat - 48) :=
    Nat.mul_le_mul_left _ (by omega)
  rw [number_cons, hlength]
  omega

theorem number_lt_of_length_lt (ha : a.IsNumeral) (hb : b.IsNumeral)
    (h : a.length < b.length) : number a < number b := by
  have hpos : 0 < a.length := List.length_pos_of_ne_nil ha.ne_nil
  obtain ⟨k, hk⟩ : ∃ k, k + 2 = b.length := ⟨b.length - 2, by omega⟩
  calc number a < 10 ^ a.length := number_lt_pow_length ha.isDigit_of_mem
    _ ≤ 10 ^ (k + 1) := Nat.pow_le_pow_right (by decide) (by omega)
    _ ≤ number b := hb.pow_le_number hk

theorem space_lt_head (h : a.IsNumeral) {c : Char} {r : Text} (ha : a = c :: r) : ' ' < c := by
  have hlow := (toNat_of_isDigit (h.isDigit_of_mem c (by simp [ha]))).1
  exact UInt32.lt_iff_toNat_lt.mpr (Nat.lt_of_lt_of_le (by decide) hlow)

/-- The longer of two numerals begins where the shorter one still has a blank. -/
theorem padLeft_lt_of_length_lt (hb : b.IsNumeral) {width : Nat} (hwidth : b.length ≤ width)
    (h : a.length < b.length) : padLeft width a < padLeft width b := by
  obtain ⟨c, r, hcr⟩ := List.exists_cons_of_ne_nil hb.ne_nil
  obtain ⟨k, hk⟩ : ∃ k, width - a.length = width - b.length + (k + 1) :=
    ⟨b.length - a.length - 1, by omega⟩
  unfold padLeft
  rw [hk, List.replicate_add, List.append_assoc, List.replicate_succ, List.cons_append]
  apply List.append_left_lt
  rw [hcr]
  exact List.cons_lt_cons_iff.mpr (Or.inl (hb.space_lt_head hcr))

/-- Padded numerals are ordered as their numbers are. -/
theorem number_lt_of_padLeft_lt (ha : a.IsNumeral) (hb : b.IsNumeral) {width : Nat}
    (hwidth : a.length ≤ width) (h : padLeft width a < padLeft width b) :
    number a < number b := by
  rcases Nat.lt_trichotomy a.length b.length with hlt | heq | hgt
  · exact number_lt_of_length_lt ha hb hlt
  · refine number_lt_of_lt ha.isDigit_of_mem heq (lt_of_not_ge fun hba => ?_)
    unfold padLeft at h
    rw [← heq] at h
    rcases lt_or_eq_of_le hba with hba | rfl
    · exact lt_asymm h (List.append_left_lt hba)
    · exact lt_irrefl _ h
  · exact absurd h (lt_asymm (padLeft_lt_of_length_lt ha hwidth hgt))

/-- No numeral is hidden by its padding. -/
theorem dropWhile_padLeft (h : a.IsNumeral) (width : Nat) :
    (padLeft width a).dropWhile (· == ' ') = a := by
  obtain ⟨c, r, hcr⟩ := List.exists_cons_of_ne_nil h.ne_nil
  have hc := (h.space_lt_head hcr).ne'
  unfold padLeft
  rw [List.dropWhile_append_of_pos (by simp), hcr, List.dropWhile_cons_of_neg (by simpa using hc)]

end IsNumeral

end Text

namespace Entry

/-- What entries with numerals for codes are ordered by: number, name, arity. -/
def numericKey (e : Entry) : Nat ×ₗ Text ×ₗ Nat :=
  toLex (e.code.text.number, toLex (e.name, e.arity))

/-- Among entries whose codes are numerals of the column's width at most, the order of keys is that
of numbers. -/
theorem numericKey_le {a b : Entry} (ha : a.code.text.IsNumeral) (hb : b.code.text.IsNumeral)
    (hwidth : a.code.text.length ≤ codeWidth) (h : a.orderKey ≤ b.orderKey) :
    a.numericKey ≤ b.numericKey := by
  unfold orderKey at h
  unfold numericKey
  rw [Prod.Lex.toLex_le_toLex] at h ⊢
  rcases h with hlt | ⟨heq, hrest⟩
  · exact Or.inl (ha.number_lt_of_padLeft_lt hb hwidth hlt)
  · have hsame : a.code.text = b.code.text := by
      have hdrop := congrArg (List.dropWhile (· == ' ')) heq
      unfold Code.padded at hdrop
      rwa [ha.dropWhile_padLeft, hb.dropWhile_padLeft] at hdrop
    exact Or.inr ⟨congrArg Text.number hsame, hrest⟩

/-- Sorting rearranges entries into table order. Entries with one key keep their order, and sorting
again changes nothing. If all codes are numerals of at most as many digits as the column is wide, the
order is that of the numbers, and among equal numbers that of names and then arities. -/
theorem sort_in_table_order (es : List Entry) :
    (sort es).Perm es ∧
      (sort es).Pairwise (·.orderKey ≤ ·.orderKey) ∧
      (∀ key, (sort es).filter (·.sortKey = key) = es.filter (·.sortKey = key)) ∧
      sort (sort es) = sort es ∧
      ((∀ e ∈ es, e.code.text.IsNumeral ∧ e.code.text.length ≤ codeWidth) →
        (sort es).Pairwise (·.numericKey ≤ ·.numericKey)) := by
  refine ⟨sort_perm es, pairwise_sort es, fun key => filter_sortKey_sort key es, ?_, fun h => ?_⟩
  · simpa using sort_sort_append es []
  · have hmem : ∀ e ∈ sort es, e.code.text.IsNumeral ∧ e.code.text.length ≤ codeWidth :=
      fun e he => h e ((sort_perm es).mem_iff.mp he)
    refine (pairwise_sort es).imp_of_mem ?_
    intro a b ha hb hab
    exact numericKey_le (hmem a ha).1 (hmem b hb).1 (hmem a ha).2 hab

/-- Entries with codes of one, two and three digits, two of them with one code. -/
def sampleEntries : List Entry :=
  [⟨⟨"128"⟩, "Door", 1⟩, ⟨⟨"5"⟩, "Lift", 2⟩, ⟨⟨"42"⟩, "Gate", 0⟩, ⟨⟨"5"⟩, "Door", 3⟩,
    ⟨⟨"0"⟩, "Exit", 1⟩]

/-- As texts without padding the codes would come as 0, 128, 42 and 5. -/
theorem sampleEntries_sorted :
    (∀ e ∈ sampleEntries, e.code.text.IsNumeral ∧ e.code.text.length ≤ codeWidth) ∧
      (sort sampleEntries).Pairwise (·.numericKey ≤ ·.numericKey) := by
  have hcodes : ∀ e ∈ sampleEntries, e.code.text.IsNumeral ∧ e.code.text.length ≤ codeWidth := by
    decide
  exact ⟨hcodes, (sort_in_table_order sampleEntries).2.2.2.2 hcodes⟩

end Entry

end LineSpecials
