import LineSpecials.Text.Lines
import Mathlib.Data.List.TakeWhile

namespace LineSpecials.Text

theorem splitWhen_cons_of_pos {p : Char → Bool} {c : Char} (h : p c) (r : Text) :
    splitWhen p (c :: r) = [] :: splitWhen p r := by simp [splitWhen, h]

theorem splitWhen_cons_of_neg {p : Char → Bool} {c : Char} (h : ¬ p c) (r : Text) :
    splitWhen p (c :: r) = (splitWhen p r).modifyHead (c :: ·) := by
  rw [splitWhen, if_neg h]
  cases hr : splitWhen p r with
  | nil => exact absurd hr (splitWhen_ne_nil p r)
  | cons w ws => rfl

theorem splitWhen_eq_splitOnP (p : Char → Bool) (t : Text) : splitWhen p t = t.splitOnP p := by
  induction t with
  | nil => rfl
  | cons c r ih =>
    rw [List.splitOnP_cons_eq_if_modifyHead]
    by_cases hc : p c
    · rw [splitWhen_cons_of_pos hc, if_pos hc, ih]
    · rw [splitWhen_cons_of_neg hc, if_neg hc, ih]

theorem splitWhen_of_forall {p : Char → Bool} {t : Text} (h : ∀ c ∈ t, p c = false) :
    splitWhen p t = [t] := by
  rw [splitWhen_eq_splitOnP, List.splitOnP_eq_singleton h]

theorem splitWhen_append_cons {p : Char → Bool} {sep : Char} (hsep : p sep) (a b : Text) :
    splitWhen p (a ++ sep :: b) = splitWhen p a ++ splitWhen p b := by
  simp only [splitWhen_eq_splitOnP, List.splitOnP_append_cons _ _ hsep]

/-- No part of a cut text has a character that it was cut at. -/
theorem not_of_mem_splitWhen {p : Char → Bool} {t w : Text} (h : w ∈ splitWhen p t) :
    ∀ c ∈ w, p c = false := by
  induction t generalizing w with
  | nil =>
    have hw : w = [] := by simpa [splitWhen] using h
    simp [hw]
  | cons d r ih =>
    by_cases hd : p d
    · rw [splitWhen_cons_of_pos hd] at h
      rcases List.mem_cons.mp h with rfl | h
      · simp
      · exact ih h
    · rw [splitWhen_cons_of_neg hd] at h
      cases hr : splitWhen p r with
      | nil => exact absurd hr (splitWhen_ne_nil p r)
      | cons v vs =>
        rw [hr, List.modifyHead_cons] at h
        rcases List.mem_cons.mp h with rfl | h
        · intro c hc
          rcases List.mem_cons.mp hc with rfl | hc
          · simpa using hd
          · exact ih (by simp [hr]) c hc
        · exact ih (by simp [hr, h])

theorem length_splitWhen (sep : Char) (t : Text) :
    (splitWhen (· == sep) t).length = t.count sep + 1 := by
  induction t with
  | nil => rfl
  | cons c r ih =>
    by_cases hc : c = sep
    · rw [splitWhen_cons_of_pos (by simpa using hc), List.length_cons, ih, hc,
        List.count_cons_self]
    · rw [splitWhen_cons_of_neg (by simpa using hc), List.length_modifyHead, ih,
        List.count_cons_of_ne hc]

theorem splitOnce_append {sep : Char} {a : Text} (h : sep ∉ a) (b : Text) :
    splitOnce sep (a ++ sep :: b) = some (a, b) := by
  induction a with
  | nil => simp [splitOnce]
  | cons c r ih =>
    obtain ⟨hc, hr⟩ : sep ≠ c ∧ sep ∉ r := by simpa using h
    simp [splitOnce, Ne.symm hc, ih hr]

/-- The first cut exists where its character does, and takes all that comes before it. -/
theorem splitOnce_eq_if (sep : Char) (t : Text) :
    splitOnce sep t = if sep ∈ t then
      some (t.takeWhile (· != sep), (t.dropWhile (· != sep)).tail) else none := by
  induction t with
  | nil => rfl
  | cons c r ih =>
    unfold splitOnce
    by_cases hc : c = sep
    · simp [hc]
    · rw [if_neg hc, ih]
      by_cases hm : sep ∈ r
      · simp [hm, hc]
      · simp [hm, Ne.symm hc]

/-- A text with one separator is cut into what stands before it and what stands behind it. -/
theorem splitWhen_of_count_one {sep : Char} {t : Text} (h : t.count sep = 1) :
    splitWhen (· == sep) t = [t.takeWhile (· != sep), (t.dropWhile (· != sep)).tail] := by
  have hm : sep ∈ t := List.count_pos_iff.mp (by omega)
  have hcut := splitOnce_eq_if sep t
  rw [if_pos hm] at hcut
  obtain ⟨he, ha⟩ := splitOnce_eq_some hcut
  generalize t.takeWhile (· != sep) = a at *
  generalize (t.dropWhile (· != sep)).tail = b at *
  subst he
  have hb : sep ∉ b := by
    apply List.count_eq_zero.mp
    simp only [List.count_append, List.count_cons_self, List.count_eq_zero.mpr ha] at h
    omega
  have apart : ∀ {s : Text}, sep ∉ s → ∀ c ∈ s, (c == sep) = false := by
    intro s hs c hc
    simpa using ne_of_mem_of_not_mem hc hs
  rw [splitWhen_append_cons (by simp), splitWhen_of_forall (apart ha),
    splitWhen_of_forall (apart hb)]
  rfl

theorem dropLead?_eq_some_iff {t lead rest : Text} :
    t.dropLead? lead = some rest ↔ t = lead ++ rest := by
  unfold dropLead?
  constructor
  · intro h
    split at h
    next hlead =>
      obtain ⟨r, rfl⟩ := List.isPrefixOf_iff_prefix.mp hlead
      cases h
      simp
    next => cases h
  · rintro rfl
    rw [if_pos (List.isPrefixOf_iff_prefix.mpr (List.prefix_append lead rest)), List.drop_left]

theorem splitWhen_ofLines {ls : List Text} (h : ∀ l ∈ ls, '\n' ∉ l) :
    splitWhen (· == '\n') (ofLines ls) = ls ++ [[]] := by
  induction ls with
  | nil => rfl
  | cons l ls ih =>
    have hl : ∀ c ∈ l, (c == '\n') = false := by
      intro c hc
      simpa using ne_of_mem_of_not_mem hc (h l (by simp))
    have he : ofLines (l :: ls) = l ++ '\n' :: ofLines ls := by simp [ofLines]
    rw [he, splitWhen_append_cons (by simp), splitWhen_of_forall hl,
      ih fun m hm => h m (List.mem_cons_of_mem l hm)]
    rfl

theorem subset_of_mem_closeLines {ls : List Text} {l : Text} (h : l ∈ closeLines ls) :
    ∃ m ∈ ls, l ⊆ m := by
  induction ls with
  | nil => simp [closeLines] at h
  | cons m ms ih =>
    cases ms with
    | nil =>
      unfold closeLines at h
      split at h
      next => simp at h
      next => exact ⟨m, by simp, by simp_all⟩
    | cons m' ms =>
      rcases List.mem_cons.mp h with rfl | h
      · refine ⟨m, by simp, ?_⟩
        unfold dropReturn
        split
        · exact (List.dropLast_sublist m).subset
        · exact List.Subset.refl m
      · obtain ⟨n, hn, hs⟩ := ih h
        exact ⟨n, List.mem_cons_of_mem m hn, hs⟩

/-- No line of a text has a line break. -/
theorem newline_notin_of_mem_lines {t l : Text} (h : l ∈ t.lines) : '\n' ∉ l := by
  obtain ⟨m, hm, hs⟩ := subset_of_mem_closeLines h
  intro hn
  simpa using not_of_mem_splitWhen hm '\n' (hs hn)

end LineSpecials.Text
