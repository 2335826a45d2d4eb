import LineSpecials.CharSet.Folding
import LineSpecials.Proofs.ScannerAgreement

namespace LineSpecials

/-- The code point that a character is folded to: its own unless the folding table has another. -/
def foldedForm (c : Char) : Nat := (foldings.lookup c.toNat).getD c.toNat

namespace Reference

/-- Whether a text is the keyword up to case. -/
def SpellsKeyword (k : Text) : Prop := k.map foldedForm = keyword.map Char.toNat

/-- The folding table as far as ASCII is concerned: the capitals, the long s and the kelvin sign. -/
def asciiFoldings : List (Nat × Nat) :=
  (List.range 26).map (fun i => (0x41 + i, 0x61 + i)) ++ [(0x17F, 0x73), (0x212A, 0x6B)]

-- The kernel is slow at taking string literals apart, so the table is made of lists before the
-- kernel sees it.
theorem foldings_ascii :
    foldings.filter (fun p => p.1 < 0x80 || p.2 < 0x80) = asciiFoldings := by
  unfold foldings tableEntries foldingTable
  simp only [List.flatMap_cons]
  repeat rw [String.toList_ofList]
  decide +kernel

theorem lookup_long_s : foldings.lookup 0x17F = some 0x73 := by
  unfold foldings tableEntries foldingTable
  simp only [List.flatMap_cons]
  repeat rw [String.toList_ofList]
  decide +kernel

theorem lookup_filter {q : Nat × Nat → Bool} {n : Nat} {ps : List (Nat × Nat)}
    (h : ∀ p ∈ ps, p.1 = n → q p) : (ps.filter q).lookup n = ps.lookup n := by
  induction ps with
  | nil => rfl
  | cons p ps ih =>
    have hrest := ih fun p' hp' => h p' (List.mem_cons_of_mem p hp')
    obtain ⟨m, k⟩ := p
    by_cases hm : n = m
    · have hq := h (m, k) (by simp) hm.symm
      simp [hq, hm]
    · rw [List.lookup_cons, beq_false_of_ne hm, ← hrest, List.filter_cons]
      split
      next => rw [List.lookup_cons, beq_false_of_ne hm]
      next => rfl

theorem lookup_foldings {n : Nat} (h : n < 0x80) : foldings.lookup n = asciiFoldings.lookup n := by
  rw [← foldings_ascii]
  refine (lookup_filter fun p _ hp => ?_).symm
  simp [hp, h]

theorem toNat_lt_of_fold_mem {c : Char} (hlong : c ≠ 'ſ') (h : fold c ∈ keyword) :
    c.toNat < 0x80 := by
  have hletters : keyword.all (·.toNat < 0x80) := by decide
  unfold fold at h
  rw [if_neg hlong] at h
  unfold Char.toLower at h
  split at h
  next hupper => exact Nat.lt_of_le_of_lt (UInt32.le_iff_toNat_le.mp hupper.2) (by decide)
  next => exact of_decide_eq_true (List.all_eq_true.mp hletters c h)

/-- On the letters of the keyword the short folding is the folding of the table. -/
theorem foldedForm_eq_iff {l : Char} (hl : l ∈ keyword) (c : Char) :
    foldedForm c = l.toNat ↔ fold c = l := by
  constructor
  · intro h
    unfold foldedForm at h
    cases hc : foldings.lookup c.toNat with
    | none =>
      rw [hc, Option.getD_none] at h
      have hself : keyword.all fun l => fold l = l := by decide
      rw [Char.toNat_inj.mp h, of_decide_eq_true (List.all_eq_true.mp hself l hl)]
    | some n =>
      rw [hc, Option.getD_some] at h
      have hletter : n ∈ keyword.map Char.toNat := h ▸ List.mem_map_of_mem hl
      have hascii : ∀ m ∈ keyword.map Char.toNat, m < 0x80 := by decide
      have hmem : (c.toNat, n) ∈ asciiFoldings := by
        obtain ⟨before, after, hsplit, -⟩ := List.lookup_eq_some_iff.mp hc
        rw [← foldings_ascii, List.mem_filter, hsplit]
        exact ⟨by simp, by simp [hascii n hletter]⟩
      have hfolds : ∀ p ∈ asciiFoldings, p.2 ∈ keyword.map Char.toNat →
          fold (Char.ofNat p.1) = Char.ofNat p.2 := by decide
      have hfold := hfolds _ hmem hletter
      rwa [h, Char.ofNat_toNat, Char.ofNat_toNat] at hfold
  · intro h
    by_cases hlong : c = 'ſ'
    · have hs : fold 'ſ' = 's' := by decide
      have hcode : 'ſ'.toNat = 0x17F := by decide
      rw [← h, hlong, hs, foldedForm, hcode, lookup_long_s]
      rfl
    · have hascii := toNat_lt_of_fold_mem hlong (h ▸ hl)
      have hforms : ∀ n < 0x80, fold (Char.ofNat n) ∈ keyword →
          (asciiFoldings.lookup n).getD n = (fold (Char.ofNat n)).toNat := by decide
      have hform := hforms _ hascii
      rw [Char.ofNat_toNat, h] at hform
      rw [foldedForm, lookup_foldings hascii, hform hl]

theorem spellsKeyword_iff {k : Text} : SpellsKeyword k ↔ k.map fold = keyword := by
  have hletters : ∀ {ls : Text}, (∀ l ∈ ls, l ∈ keyword) → ∀ {k : Text},
      k.map foldedForm = ls.map Char.toNat ↔ k.map fold = ls := by
    intro ls hls
    induction ls with
    | nil => simp
    | cons l ls ih =>
      intro k
      cases k with
      | nil => simp
      | cons c r =>
        have hrest := ih (fun l' hl' => hls l' (List.mem_cons_of_mem l hl')) (k := r)
        simp only [List.map_cons, List.cons.injEq, foldedForm_eq_iff (hls l (by simp)), hrest]
  exact hletters fun l hl => hl

theorem SpellsKeyword.length_eq {k : Text} (h : SpellsKeyword k) : k.length = keyword.length := by
  rw [← spellsKeyword_iff.mp h, List.length_map]

/-- The keyword stands at the front of a text if a spelling of it does. -/
theorem isPrefixOf_map_fold_iff {t : Text} :
    keyword.isPrefixOf (t.map fold) ↔ ∃ k y, t = k ++ y ∧ SpellsKeyword k := by
  rw [List.isPrefixOf_iff_prefix]
  constructor
  · rintro ⟨u, hu⟩
    obtain ⟨k, y, rfl, hk, -⟩ := List.map_eq_append_iff.mp hu.symm
    exact ⟨k, y, rfl, spellsKeyword_iff.mpr hk⟩
  · rintro ⟨k, y, rfl, hk⟩
    rw [List.map_append, spellsKeyword_iff.mp hk]
    exact List.prefix_append _ _

/-- A cut of a text before and behind the first spelling of the keyword in it. -/
structure FirstKeyword (t x k y : Text) : Prop where
  text_eq : t = x ++ (k ++ y)
  spells : SpellsKeyword k
  leftmost : ∀ x' k' y', t = x' ++ (k' ++ y') → SpellsKeyword k' → x.length ≤ x'.length

theorem FirstKeyword.cons {c : Char} {r x k y : Text} (h : FirstKeyword r x k y)
    (hfront : ¬ ∃ k y, c :: r = k ++ y ∧ SpellsKeyword k) :
    FirstKeyword (c :: r) (c :: x) k y := by
  refine ⟨congrArg (c :: ·) h.text_eq, h.spells, fun x' k' y' ht hk => ?_⟩
  cases x' with
  | nil => exact absurd ⟨k', y', ht, hk⟩ hfront
  | cons d x' => exact Nat.succ_le_succ (h.leftmost x' k' y' (List.cons.inj ht).2 hk)

theorem FirstKeyword.of_cons {c : Char} {r x k y : Text} (h : FirstKeyword (c :: r) x k y)
    (hfront : ¬ ∃ k y, c :: r = k ++ y ∧ SpellsKeyword k) : ∃ x', FirstKeyword r x' k y := by
  cases x with
  | nil => exact absurd ⟨k, y, h.text_eq, h.spells⟩ hfront
  | cons d x =>
    obtain ⟨rfl, hr⟩ := List.cons.inj h.text_eq
    refine ⟨x, hr, h.spells, fun x' k' y' ht hk => ?_⟩
    exact Nat.le_of_succ_le_succ (h.leftmost (c :: x') k' y' (congrArg (c :: ·) ht) hk)

theorem afterKeyword_eq_some_iff {t y : Text} :
    afterKeyword t = some y ↔ ∃ x k, FirstKeyword t x k y := by
  induction t with
  | nil =>
    constructor
    · simp [afterKeyword]
    · rintro ⟨x, k, h⟩
      obtain ⟨-, hrest⟩ := List.append_eq_nil_iff.mp h.text_eq.symm
      have hk := spellsKeyword_iff.mp h.spells
      rw [(List.append_eq_nil_iff.mp hrest).1] at hk
      exact absurd hk (by decide)
  | cons c r ih =>
    unfold afterKeyword
    split
    next hfront =>
      obtain ⟨k, y', ht, hk⟩ := isPrefixOf_map_fold_iff.mp hfront
      have hrest : (c :: r).drop keyword.length = y' := by
        rw [ht, ← hk.length_eq, List.drop_left]
      rw [hrest]
      constructor
      · intro h
        cases Option.some.inj h
        exact ⟨[], k, ht, hk, fun _ _ _ _ _ => Nat.zero_le _⟩
      · rintro ⟨x, k', h⟩
        have hx : x = [] := List.eq_nil_of_length_eq_zero
          (Nat.eq_zero_of_le_zero (h.leftmost [] k y' ht hk))
        have hcut : k ++ y' = k' ++ y := by rw [← ht, h.text_eq, hx]; rfl
        rw [(List.append_inj hcut (hk.length_eq.trans h.spells.length_eq.symm)).2]
    next hfront =>
      rw [isPrefixOf_map_fold_iff] at hfront
      rw [ih]
      constructor
      · rintro ⟨x, k, h⟩
        exact ⟨c :: x, k, h.cons hfront⟩
      · rintro ⟨x, k, h⟩
        obtain ⟨x', h'⟩ := h.of_cons hfront
        exact ⟨x', k, h'⟩

theorem argumentText_eq_some_iff {t g : Text} : argumentText t = some g ↔
    ∃ u v, t = u ++ '(' :: (g ++ ')' :: v) ∧ '(' ∉ u ∧ ')' ∉ g := by
  constructor
  · intro h
    unfold argumentText at h
    split at h
    next u r hopen =>
      obtain ⟨⟨a, v⟩, hclose, rfl⟩ := Option.map_eq_some_iff.mp h
      obtain ⟨rfl, hu⟩ := Text.splitOnce_eq_some hopen
      obtain ⟨rfl, hg⟩ := Text.splitOnce_eq_some hclose
      exact ⟨u, v, rfl, hu, hg⟩
    next => simp at h
  · rintro ⟨u, v, rfl, hu, hg⟩
    exact argumentText_append hu hg v

/-- A trimmed line that refers to a special: a comment that holds the keyword, and behind its first
occurrence the name as the first word, and anywhere a pair of parentheses whose first gives the
arguments. -/
structure Grammar (t name : Text) (arity : Nat) : Prop where
  comment : commentSign <+: t
  named : ∃ x k p q, FirstKeyword t x k (p ++ (name ++ q)) ∧
    (∀ c ∈ p, isNameChar c = false) ∧ name ≠ [] ∧ (∀ c ∈ name, isNameChar c) ∧
    ∀ c, q.head? = some c → isNameChar c = false
  counted : ∃ u g v, t = u ++ '(' :: (g ++ ')' :: v) ∧ '(' ∉ u ∧ ')' ∉ g ∧
    arity = if g.all isBlank then 0 else g.count ',' + 1

/-- A line is read as a reference exactly if the trimmed line fits the grammar, with the name and
the arity that the grammar gives it, and otherwise it is not read as one. -/
theorem ofLine_iff_grammar (line : Text) :
    (∀ name arity, ofLine line = some ⟨name, arity⟩ ↔ Grammar line.trim name arity) ∧
      (ofLine line = none ↔ ¬ ∃ name arity, Grammar line.trim name arity) := by
  have hsome : ∀ name arity,
      ofLine line = some ⟨name, arity⟩ ↔ Grammar line.trim name arity := by
    intro name arity
    constructor
    · intro h
      unfold ofLine at h
      dsimp only at h
      split at h
      next hsign =>
        obtain ⟨y, hy, h⟩ := Option.bind_eq_some_iff.mp h
        obtain ⟨name, hname, h⟩ := Option.bind_eq_some_iff.mp h
        obtain ⟨g, hg, h⟩ := Option.bind_eq_some_iff.mp h
        cases Option.some.inj h
        obtain ⟨x, k, hfirst⟩ := afterKeyword_eq_some_iff.mp hy
        obtain ⟨p, q, rfl, hp, hne, hw, hq⟩ := Text.leadingWord_eq_some_iff.mp hname
        obtain ⟨u, v, ht, hu, hclose⟩ := argumentText_eq_some_iff.mp hg
        exact ⟨List.isPrefixOf_iff_prefix.mp hsign, ⟨x, k, p, q, hfirst, hp, hne, hw, hq⟩,
          ⟨u, g, v, ht, hu, hclose, rfl⟩⟩
      next => cases h
    · rintro ⟨hsign, ⟨x, k, p, q, hfirst, hp, hne, hw, hq⟩, ⟨u, g, v, ht, hu, hclose, rfl⟩⟩
      have hkeyword := afterKeyword_eq_some_iff.mpr ⟨x, k, hfirst⟩
      have hname := Text.leadingWord_eq_some_iff.mpr ⟨p, q, rfl, hp, hne, hw, hq⟩
      have hargs := argumentText_eq_some_iff.mpr ⟨u, v, ht, hu, hclose⟩
      unfold ofLine
      dsimp only
      rw [if_pos (List.isPrefixOf_iff_prefix.mpr hsign), hkeyword, Option.bind_eq_bind,
        Option.bind_some, hname, Option.bind_some, hargs]
      rfl
  refine ⟨hsome, ?_⟩
  constructor
  · rintro hnone ⟨name, arity, h⟩
    rw [← hsome, hnone] at h
    simp at h
  · intro h
    cases hr : ofLine line with
    | none => rfl
    | some r => exact absurd ⟨r.name, r.arity, (hsome r.name r.arity).mp hr⟩ h

/-- The long s spells the keyword, and the parentheses may stand before it. -/
example : ofLine " // (a,b() Implementſ - Door_Raise, see (c)" = some ⟨"Door_Raise", 2⟩ := by
  decide +kernel

end Reference

end LineSpecials
