import LineSpecials.Proofs.TableState
import LineSpecials.Proofs.Text.Trimming
import LineSpecials.Proofs.Text.Words

namespace LineSpecials

/-- An ASCII letter or an underscore, and behind it word characters only. -/
def IsIdentifier (t : Text) : Prop :=
  ∃ c r, t = c :: r ∧ (c.isAlpha ∨ c = '_') ∧ ∀ d ∈ r, isWordChar d

/-- The table's name, at the front of a text and no part of a longer word. -/
def NamesTable (t : Text) : Prop :=
  ∃ r, t = "HexenBindings".toList ++ r ∧ ∀ c, r.head? = some c → isWordChar c = false

/-- Tokens that have the table's name behind any number of identifiers. -/
def NameFollows (tokens : List Text) : Prop :=
  ∃ types name rest, tokens = types ++ name :: rest ∧ (∀ t ∈ types, IsIdentifier t) ∧
    NamesTable name

/-- Tokens that have the table's name behind one or more identifiers. -/
def DeclareTable (tokens : List Text) : Prop :=
  ∃ types name rest, tokens = types ++ name :: rest ∧ types ≠ [] ∧
    (∀ t ∈ types, IsIdentifier t) ∧ NamesTable name

theorem not_wordChar_of_blank {c : Char} (h : isBlank c) : isWordChar c = false := by
  have hall : ∀ n ∈ blankCodes, inRanges wordRanges n = false := by decide +kernel
  exact hall _ (toNat_mem_blankCodes h)

theorem not_nameFollows_nil : ¬ NameFollows [] := by
  rintro ⟨types, name, rest, h, -⟩
  simp at h

theorem nameFollows_cons {t : Text} {ts : List Text} :
    NameFollows (t :: ts) ↔ NamesTable t ∨ IsIdentifier t ∧ NameFollows ts := by
  constructor
  · rintro ⟨types, name, rest, h, htypes, hname⟩
    cases types with
    | nil =>
      obtain ⟨rfl, -⟩ := List.cons.inj h
      exact .inl hname
    | cons first types =>
      obtain ⟨rfl, rfl⟩ := List.cons.inj h
      obtain ⟨hfirst, htypes⟩ := List.forall_mem_cons.mp htypes
      exact .inr ⟨hfirst, types, name, rest, rfl, htypes, hname⟩
  · rintro (hname | ⟨hfirst, types, name, rest, rfl, htypes, hname⟩)
    · exact ⟨[], t, ts, rfl, by simp, hname⟩
    · exact ⟨t :: types, name, rest, rfl, List.forall_mem_cons.mpr ⟨hfirst, htypes⟩, hname⟩

theorem declareTable_iff {tokens : List Text} : DeclareTable tokens ↔
    ∃ first rest, tokens = first :: rest ∧ IsIdentifier first ∧ NameFollows rest := by
  constructor
  · rintro ⟨types, name, rest, rfl, hne, htypes, hname⟩
    obtain ⟨first, types, rfl⟩ := List.exists_cons_of_ne_nil hne
    obtain ⟨hfirst, htypes⟩ := List.forall_mem_cons.mp htypes
    exact ⟨first, types ++ name :: rest, rfl, hfirst, types, name, rest, rfl, htypes, hname⟩
  · rintro ⟨first, tokens, rfl, hfirst, types, name, rest, rfl, htypes, hname⟩
    exact ⟨first :: types, name, rest, rfl, List.cons_ne_nil first types,
      List.forall_mem_cons.mpr ⟨hfirst, htypes⟩, hname⟩

namespace Declaration

/-- A text that does not begin with a blank, cut behind its first token. -/
structure Cut (u w v : Text) : Prop where
  eq : u = w ++ v
  ne_nil : w ≠ []
  not_blank : ∀ c ∈ w, isBlank c = false
  blank : ∀ c, v.head? = some c → isBlank c

theorem exists_cut {u : Text} (hne : u ≠ []) (h : ∀ c, u.head? = some c → isBlank c = false) :
    ∃ w v, Cut u w v := by
  obtain ⟨c, r, rfl⟩ := List.exists_cons_of_ne_nil hne
  refine ⟨(c :: r).takeWhile (! isBlank ·), (c :: r).dropWhile (! isBlank ·),
    List.takeWhile_append_dropWhile.symm, by simp [h c rfl], fun d hd => ?_, fun d hd => ?_⟩
  · simpa using List.mem_takeWhile_imp hd
  · have hnot := List.head?_dropWhile_not (! isBlank ·) (c :: r)
    rw [hd] at hnot
    simpa using hnot

namespace Cut

variable {u w v : Text}

theorem tokens_eq (h : Cut u w v) : u.tokens = w :: v.tokens := by
  obtain ⟨rfl, hne, hnot, hblank⟩ := h
  cases v with
  | nil => rw [List.append_nil, Text.tokens_of_not_blank hne hnot, Text.tokens_nil]
  | cons c r =>
    have htail : Text.tokens (c :: r) = Text.tokens r :=
      Text.tokens_append_cons (hblank c rfl) [] r
    rw [Text.tokens_append_cons (hblank c rfl), Text.tokens_of_not_blank hne hnot, htail]
    rfl

theorem not_wordChar (h : Cut u w v) : ∀ c, v.head? = some c → isWordChar c = false :=
  fun c hc => not_wordChar_of_blank (h.blank c hc)

/-- The name stands at the front of a text if it does so in the first token. -/
theorem namesTable_iff (h : Cut u w v) : NamesTable u ↔ NamesTable w := by
  have hall : "HexenBindings".toList.all (! isBlank ·) = true := by decide
  have hname : ∀ c ∈ "HexenBindings".toList, isBlank c = false :=
    fun c hc => by simpa using List.all_eq_true.mp hall c hc
  constructor
  · rintro ⟨r, hu, hr⟩
    have hsplit : w ++ v = "HexenBindings".toList ++ r := h.eq.symm.trans hu
    rcases List.append_eq_append_iff.mp hsplit with ⟨x, hx, hv⟩ | ⟨x, hx, rfl⟩
    · have hnil : x = [] := by
        cases x with
        | nil => rfl
        | cons c x =>
          have hc := h.blank c (by rw [hv]; rfl)
          rw [hname c (by rw [hx]; simp)] at hc
          cases hc
      subst hnil
      exact ⟨[], by simpa using hx.symm, by simp⟩
    · exact ⟨x, hx, fun c hc => hr c (by rw [List.head?_append, hc]; rfl)⟩
  · rintro ⟨r, rfl, hr⟩
    refine ⟨r ++ v, by rw [h.eq, List.append_assoc], fun c hc => ?_⟩
    rw [List.head?_append, Option.or_eq_some_iff] at hc
    rcases hc with hc | ⟨-, hc⟩
    · exact hr c hc
    · exact h.not_wordChar c hc

theorem afterIdentifier_eq (h : Cut u w v) (hw : IsIdentifier w) : afterIdentifier u = some v := by
  obtain ⟨c, r, rfl, hc, hr⟩ := hw
  have hv : v.dropWhile isWordChar = v := by
    cases v with
    | nil => rfl
    | cons d s => exact List.dropWhile_cons_of_neg (by simp [h.not_wordChar d rfl])
  rw [h.eq, List.cons_append, afterIdentifier, if_pos (by simpa using hc),
    List.dropWhile_append_of_pos hr, hv]

/-- If a blank follows the identifier that a text begins with, then it is all of the first token. -/
theorem isIdentifier_of_blank {c : Char} {rest : Text} (h : Cut u w v)
    (hrest : afterIdentifier u = some (c :: rest)) (hc : isBlank c) : IsIdentifier w := by
  obtain ⟨d, r, rfl⟩ := List.exists_cons_of_ne_nil h.ne_nil
  rw [h.eq, List.cons_append, afterIdentifier] at hrest
  split at hrest
  next hd =>
    have hdrop := Option.some.inj hrest
    refine ⟨d, r, rfl, by simpa using hd, List.dropWhile_eq_nil_iff.mp ?_⟩
    by_contra hne
    obtain ⟨e, s, hs⟩ := List.exists_cons_of_ne_nil hne
    rw [List.dropWhile_append, hs, List.isEmpty_cons, if_neg (by decide), List.cons_append] at hdrop
    obtain ⟨rfl, -⟩ := List.cons.inj hdrop
    have hmem : e ∈ r := (List.dropWhile_suffix isWordChar).mem (by rw [hs]; simp)
    rw [h.not_blank e (List.mem_cons_of_mem d hmem)] at hc
    cases hc
  next => cases hrest

/-- A declaration goes on behind an identifier only if that is the whole first token. -/
theorem exists_afterIdentifier_iff (h : Cut u w v) :
    (∃ rest, afterIdentifier u = some rest ∧ continues rest = true) ↔
      IsIdentifier w ∧ continues v = true := by
  constructor
  · rintro ⟨rest, hrest, hcontinues⟩
    cases rest with
    | nil => rw [continues] at hcontinues; cases hcontinues
    | cons c rest =>
      have hc : isBlank c := by
        by_contra hc
        rw [continues, if_neg hc] at hcontinues
        cases hcontinues
      have hw := h.isIdentifier_of_blank hrest hc
      rw [h.afterIdentifier_eq hw] at hrest
      exact ⟨hw, Option.some.inj hrest ▸ hcontinues⟩
  · rintro ⟨hw, hcontinues⟩
    exact ⟨v, h.afterIdentifier_eq hw, hcontinues⟩

end Cut

theorem startsWithName_iff {t : Text} : startsWithName t = true ↔ NamesTable t := by
  have hname : tableName = "HexenBindings".toList := rfl
  unfold startsWithName NamesTable
  rw [← hname]
  constructor
  · intro h
    split at h
    next hrest => exact ⟨[], Text.dropLead?_eq_some_iff.mp hrest, by simp⟩
    next c r hrest => exact ⟨c :: r, Text.dropLead?_eq_some_iff.mp hrest, by simpa using h⟩
    next => cases h
  · rintro ⟨r, rfl, hr⟩
    rw [Text.dropLead?_eq_some_iff.mpr rfl]
    cases r with
    | nil => rfl
    | cons c r => simpa using hr c rfl

theorem continues_cons_iff {c : Char} (hc : isBlank c) (r : Text) : continues (c :: r) = true ↔
    NamesTable r.trimStart ∨ ∃ rest, afterIdentifier r.trimStart = some rest ∧
      continues rest = true := by
  rw [continues, if_pos hc, Bool.or_eq_true, startsWithName_iff]
  refine or_congr_right ?_
  split
  next rest hrest => simp [hrest]
  next hrest => simp [hrest]

/-- Blanks and identifiers in turn lead to the table's name if the tokens do. -/
theorem continues_iff {t : Text} (h : ∀ c, t.head? = some c → isBlank c) :
    continues t = true ↔ NameFollows t.tokens := by
  induction t using continues.induct with
  | case1 =>
    rw [continues, Text.tokens_nil]
    exact iff_of_false (by decide) not_nameFollows_nil
  | case2 c r hc ih =>
    have htokens : Text.tokens (c :: r) = Text.tokens (Text.trimStart r) := by
      rw [Text.tokens_trimStart]
      exact Text.tokens_append_cons hc [] r
    rw [htokens, continues_cons_iff hc]
    generalize hu : Text.trimStart r = u at ih ⊢
    by_cases hne : u = []
    · subst hne
      simp [afterIdentifier, NamesTable, not_nameFollows_nil]
    · obtain ⟨w, v, hcut⟩ := exists_cut hne fun d hd => Text.not_blank_of_head?_trimStart (hu ▸ hd)
      rw [hcut.tokens_eq, nameFollows_cons, hcut.namesTable_iff, hcut.exists_afterIdentifier_iff]
      -- An identifier ends where its token does, so the reader has no other place to go on from.
      refine or_congr_right (and_congr_right fun hw => ?_)
      exact ih v (hcut.afterIdentifier_eq hw) hcut.blank
  | case3 c r hc => exact absurd (h c rfl) hc

end Declaration

open Declaration

theorem isTableDeclaration_iff (line : Text) :
    isTableDeclaration line = true ↔ DeclareTable line.tokens := by
  have hexists : isTableDeclaration line = true ↔
      ∃ rest, afterIdentifier line.trimStart = some rest ∧ continues rest = true := by
    unfold isTableDeclaration
    split
    next rest hrest => simp [hrest]
    next hrest => simp [hrest]
  rw [hexists, declareTable_iff, ← Text.tokens_trimStart]
  generalize hu : line.trimStart = u
  by_cases hne : u = []
  · subst hne
    simp [afterIdentifier]
  · obtain ⟨w, v, hcut⟩ := exists_cut hne fun d hd => Text.not_blank_of_head?_trimStart (hu ▸ hd)
    rw [hcut.exists_afterIdentifier_iff, hcut.tokens_eq, continues_iff hcut.blank]
    constructor
    · rintro ⟨hw, hv⟩
      exact ⟨w, v.tokens, rfl, hw, hv⟩
    · rintro ⟨first, rest, h, hfirst, hrest⟩
      obtain ⟨rfl, rfl⟩ := List.cons.inj h
      exact ⟨hfirst, hrest⟩

example : isTableDeclaration "ev_binding_t HexenBindings2[] =" = false := by decide +kernel

example : isTableDeclaration "static HexenBindings HexenBindings[]" = true := by decide +kernel

/-- A line declares the table if and only if its tokens do, and the closed table of a source is
opened at the lines that do. Neither a line whose first token is no identifier nor one that has the
table's name in no other token declares it. -/
theorem opened_iff_declareTable :
    (∀ line : Text, isTableDeclaration line.trim = true ↔ DeclareTable line.trim.tokens) ∧
      (∀ (lines : List Text) (n : Nat), .opened n ∈ tableEvents lines ↔
        ∃ i line, n = i + 1 ∧ lines[i]? = some line ∧
          TableEvent.isOpenAfter false (lines.take i) = false ∧ DeclareTable line.trim.tokens) ∧
      (∀ line : Text, (∃ t ∈ line.trim.tokens.head?, ¬ IsIdentifier t) ∨
          (∀ t ∈ line.trim.tokens.tail, ¬ NamesTable t) →
        isTableDeclaration line.trim = false) := by
  have hdeclares : ∀ line : Text,
      isTableDeclaration line.trim = true ↔ DeclareTable line.trim.tokens :=
    fun line => isTableDeclaration_iff line.trim
  refine ⟨hdeclares, fun lines n => ?_, fun line hnot => ?_⟩
  · unfold tableEvents
    simp only [TableEvent.mem_ofLines_iff, TableEvent.ofLine_eq_opened_iff, TableEvent.declares,
      hdeclares]
    constructor
    · rintro ⟨i, line, hi, hclosed, hn, hline⟩
      exact ⟨i, line, by omega, hi, hclosed, hline⟩
    · rintro ⟨i, line, hn, hi, hclosed, hline⟩
      exact ⟨i, line, hi, hclosed, by omega, hline⟩
  · rw [← Bool.not_eq_true, hdeclares, declareTable_iff]
    rintro ⟨first, rest, htokens, hfirst, types, name, others, hrest, -, hname⟩
    rw [htokens] at hnot
    rcases hnot with ⟨t, ht, hnot⟩ | hnot
    · cases ht
      exact hnot hfirst
    · exact hnot name (by rw [List.tail_cons, hrest]; simp) hname

end LineSpecials
