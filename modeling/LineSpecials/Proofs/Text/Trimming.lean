import LineSpecials.Proofs.Text.Splitting
import LineSpecials.Text.Blank
import Mathlib.Data.List.DropRight

namespace LineSpecials.Text

theorem trimEnd_eq_rdropWhile (t : Text) : t.trimEnd = t.rdropWhile isBlank := rfl

theorem trim_blank_append {a : Text} (ha : ∀ c ∈ a, isBlank c) (t : Text) :
    (a ++ t).trim = t.trim := by
  unfold trim trimStart
  rw [List.dropWhile_append_of_pos ha]

theorem trim_append_blank (t : Text) {b : Text} (hb : ∀ c ∈ b, isBlank c) :
    (t ++ b).trim = t.trim := by
  have hends : ∀ s : Text, (s ++ b).trimEnd = s.trimEnd := by
    intro s
    unfold trimEnd
    rw [List.reverse_append, List.dropWhile_append_of_pos fun c hc => hb c (List.mem_reverse.mp hc)]
  unfold trim trimStart
  rw [List.dropWhile_append]
  split
  next he =>
    have hb' : b.dropWhile isBlank = [] := List.dropWhile_eq_nil_iff.mpr hb
    rw [hb', List.isEmpty_iff.mp he]
  next => exact hends _

theorem exists_blanks_around (t : Text) : ∃ a b : Text,
    (∀ c ∈ a, isBlank c) ∧ (∀ c ∈ b, isBlank c) ∧ t = a ++ (t.trim ++ b) := by
  refine ⟨t.takeWhile isBlank, t.trimStart.rtakeWhile isBlank, ?_, ?_, ?_⟩
  · intro c hc
    exact List.mem_takeWhile_imp hc
  · intro c hc
    exact List.mem_rtakeWhile_imp hc
  · rw [trim, trimEnd_eq_rdropWhile, List.rdropWhile_append_rtakeWhile]
    exact List.takeWhile_append_dropWhile.symm

@[simp] theorem trim_trim (t : Text) : t.trim.trim = t.trim := by
  obtain ⟨a, b, ha, hb, he⟩ := exists_blanks_around t
  conv_rhs => rw [he, trim_blank_append ha, trim_append_blank _ hb]

/-- A text that neither begins nor ends with a blank is trimmed. -/
theorem trim_eq_self {t : Text} (hh : ∀ c, t.head? = some c → isBlank c = false)
    (hl : ∀ c, t.getLast? = some c → isBlank c = false) : t.trim = t := by
  have hs : t.trimStart = t := by
    cases t with
    | nil => rfl
    | cons c r => exact List.dropWhile_cons_of_neg (by simp [hh c rfl])
  rw [trim, hs, trimEnd_eq_rdropWhile, List.rdropWhile_eq_self_iff]
  intro hne
  have := hl _ (List.getLast?_eq_some_getLast hne)
  simp [this]

/-- Behind a text with other characters than blanks at its ends, trimming takes blanks off the end
only. -/
theorem trim_append_of_ends {a : Text} (hne : a ≠ [])
    (hh : ∀ c, a.head? = some c → isBlank c = false)
    (hl : ∀ c, a.getLast? = some c → isBlank c = false) (t : Text) :
    (a ++ t).trim = a ++ t.trimEnd := by
  have hcut : t = t.trimEnd ++ t.rtakeWhile isBlank := by
    rw [trimEnd_eq_rdropWhile, List.rdropWhile_append_rtakeWhile]
  have hblank : ∀ c ∈ t.rtakeWhile isBlank, isBlank c := fun c hc => List.mem_rtakeWhile_imp hc
  conv_lhs => rw [hcut, ← List.append_assoc, trim_append_blank _ hblank]
  refine trim_eq_self (fun c hc => ?_) fun c hc => ?_
  · rw [List.head?_append_of_ne_nil _ hne] at hc
    exact hh c hc
  · rw [List.getLast?_append] at hc
    rcases Option.or_eq_some_iff.mp hc with hc | ⟨-, hc⟩
    · have hu : t.trimEnd ≠ [] := by
        intro hu
        simp [hu] at hc
      rw [List.getLast?_eq_some_getLast hu] at hc
      cases Option.some.inj hc
      exact Bool.not_eq_true _ ▸ List.rdropWhile_last_not isBlank t hu
    · exact hl c hc

theorem not_blank_of_head?_trimStart {t : Text} {c : Char} (h : t.trimStart.head? = some c) :
    isBlank c = false := by
  have hfirst := List.head?_dropWhile_not isBlank t
  rw [show (t.dropWhile isBlank).head? = some c from h] at hfirst
  exact hfirst

theorem not_blank_of_head?_trim {t : Text} {c : Char} (h : t.trim.head? = some c) :
    isBlank c = false := by
  obtain ⟨r, hr⟩ := List.head?_eq_some_iff.mp h
  obtain ⟨u, hu⟩ : t.trim <+: t.trimStart :=
    List.rdropWhile_prefix isBlank t.trimStart
  refine not_blank_of_head?_trimStart (t := t) ?_
  rw [← hu, hr]
  rfl

theorem mem_of_mem_trim {t : Text} {c : Char} (h : c ∈ t.trim) : c ∈ t := by
  obtain ⟨a, b, -, -, he⟩ := exists_blanks_around t
  rw [he]
  simp [h]

/-- What is counted of other characters than blanks, trimming does not change. -/
theorem count_trim {c : Char} (h : isBlank c = false) (t : Text) : t.trim.count c = t.count c := by
  obtain ⟨a, b, ha, hb, he⟩ := exists_blanks_around t
  have none : ∀ {s : Text}, (∀ d ∈ s, isBlank d) → s.count c = 0 := by
    intro s hs
    apply List.count_eq_zero.mpr
    intro hc
    simp [hs c hc] at h
  conv_rhs => rw [he]
  simp [none ha, none hb]

/-- What follows a character other than a blank is, but for blanks around it, the same with or
without trimming first. -/
theorem trim_after_trim {sep : Char} (h : isBlank sep = false) (t : Text) :
    trim (t.trim.dropWhile (· != sep)).tail = trim (t.dropWhile (· != sep)).tail := by
  obtain ⟨a, b, ha, hb, he⟩ := exists_blanks_around t
  have other : ∀ {s : Text}, (∀ d ∈ s, isBlank d) → ∀ d ∈ s, (d != sep) = true := by
    intro s hs d hd
    have hd := hs d hd
    simp only [bne_iff_ne, ne_eq]
    rintro rfl
    simp [hd] at h
  conv_rhs => rw [he, List.dropWhile_append_of_pos (other ha), List.dropWhile_append]
  split
  next hn =>
    rw [List.isEmpty_iff.mp hn, List.dropWhile_eq_nil_iff.mpr (other hb)]
  next hn =>
    rw [List.tail_append_of_ne_nil (by simpa [List.isEmpty_iff] using hn), trim_append_blank _ hb]

@[simp] theorem tokens_nil : tokens [] = [] := rfl

theorem tokens_append_cons {c : Char} (hc : isBlank c) (a b : Text) :
    tokens (a ++ c :: b) = tokens a ++ tokens b := by
  unfold tokens
  rw [splitWhen_append_cons hc, List.filter_append]

theorem tokens_of_not_blank {w : Text} (hw : w ≠ []) (h : ∀ c ∈ w, isBlank c = false) :
    tokens w = [w] := by
  unfold tokens
  simp [splitWhen_of_forall h, hw]

theorem tokens_blank_append {a : Text} (ha : ∀ c ∈ a, isBlank c) (t : Text) :
    tokens (a ++ t) = tokens t := by
  induction a with
  | nil => rfl
  | cons c r ih =>
    have hc : tokens (c :: (r ++ t)) = tokens [] ++ tokens (r ++ t) :=
      tokens_append_cons (ha c (by simp)) [] (r ++ t)
    rw [List.cons_append, hc, ih fun d hd => ha d (List.mem_cons_of_mem c hd)]
    rfl

@[simp] theorem tokens_trimStart (t : Text) : t.trimStart.tokens = t.tokens := by
  have hcut : t.takeWhile isBlank ++ t.trimStart = t := List.takeWhile_append_dropWhile
  conv_rhs => rw [← hcut, tokens_blank_append fun c hc => List.mem_takeWhile_imp hc]

theorem tokens_append_blank (t : Text) {b : Text} (hb : ∀ c ∈ b, isBlank c) :
    tokens (t ++ b) = tokens t := by
  cases b with
  | nil => rw [List.append_nil]
  | cons c r =>
    have hr : tokens r = [] := by
      simpa using tokens_blank_append (fun d hd => hb d (List.mem_cons_of_mem c hd)) ([] : Text)
    rw [tokens_append_cons (hb c (by simp)), hr, List.append_nil]

@[simp] theorem tokens_trim (t : Text) : t.trim.tokens = t.tokens := by
  obtain ⟨a, b, ha, hb, he⟩ := exists_blanks_around t
  conv_rhs => rw [he, tokens_blank_append ha, tokens_append_blank _ hb]

theorem not_blank_of_mem_tokens {t w : Text} (h : w ∈ t.tokens) : ∀ c ∈ w, isBlank c = false :=
  not_of_mem_splitWhen (List.mem_filter.mp h).1

/-- A text that begins with other characters than blanks begins with a token that they begin. -/
theorem exists_tokens_eq_cons {w : Text} (hw : w ≠ []) (h : ∀ c ∈ w, isBlank c = false)
    (t : Text) : ∃ v ts, tokens (w ++ t) = (w ++ v) :: ts := by
  have hcut : t = t.takeWhile (! isBlank ·) ++ t.dropWhile (! isBlank ·) :=
    List.takeWhile_append_dropWhile.symm
  have hv : ∀ c ∈ w ++ t.takeWhile (! isBlank ·), isBlank c = false := by
    intro c hc
    rcases List.mem_append.mp hc with hc | hc
    · exact h c hc
    · simpa using List.mem_takeWhile_imp hc
  have hne : w ++ t.takeWhile (! isBlank ·) ≠ [] := by simp [hw]
  refine ⟨t.takeWhile (! isBlank ·), ?_⟩
  conv in tokens (w ++ t) => rw [hcut, ← List.append_assoc]
  cases hd : t.dropWhile (! isBlank ·) with
  | nil => exact ⟨[], by rw [List.append_nil, tokens_of_not_blank hne hv]⟩
  | cons c r =>
    have hc : isBlank c := by simpa [hd] using List.head?_dropWhile_not (! isBlank ·) t
    exact ⟨tokens r, by rw [tokens_append_cons hc, tokens_of_not_blank hne hv]; rfl⟩

theorem tokens_word_append {w a : Text} (hw : w ≠ []) (h : ∀ c ∈ w, isBlank c = false)
    (hne : a ≠ []) (ha : ∀ c ∈ a, isBlank c) (t : Text) :
    tokens (w ++ (a ++ t)) = w :: tokens t := by
  obtain ⟨c, r, rfl⟩ := List.exists_cons_of_ne_nil hne
  have hc : tokens (w ++ c :: (r ++ t)) = tokens w ++ tokens (r ++ t) :=
    tokens_append_cons (ha c (by simp)) w (r ++ t)
  rw [List.cons_append, hc, tokens_of_not_blank hw h,
    tokens_blank_append fun d hd => ha d (List.mem_cons_of_mem c hd)]
  rfl

end LineSpecials.Text
