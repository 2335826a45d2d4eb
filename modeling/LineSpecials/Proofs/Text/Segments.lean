import LineSpecials.Text.Lines
import Mathlib.Data.List.Basic

namespace LineSpecials.Text

/-- A stretch of a text that begins at the front or behind a line break and goes on to the next line
break, which belongs to it, or to the end. -/
structure IsSegment (t before s after : Text) : Prop where
  eq : t = before ++ (s ++ after)
  begins : before = [] ∨ before.getLast? = some '\n'
  ne_nil : s ≠ []
  unbroken : '\n' ∉ s.dropLast
  ends : after = [] ∨ s.getLast? = some '\n'

theorem segments_cons_newline (r : Text) : segments ('\n' :: r) = ['\n'] :: segments r := rfl

theorem segments_cons_of_ne {c : Char} (h : c ≠ '\n') {r s : Text} {ss : List Text}
    (hr : segments r = s :: ss) : segments (c :: r) = (c :: s) :: ss := by
  rw [segments, if_neg h, hr]

theorem segments_ne_nil {t : Text} (h : t ≠ []) : segments t ≠ [] := by
  intro hnil
  have hflatten := flatten_segments t
  rw [hnil] at hflatten
  exact h hflatten.symm

/-- A text is cut behind each of its line breaks. -/
theorem segments_append {b : Text} (h : b = [] ∨ b.getLast? = some '\n') (u : Text) :
    segments (b ++ u) = segments b ++ segments u := by
  induction b with
  | nil => rfl
  | cons c r ih =>
    by_cases hr : r = []
    · subst hr
      have hc : c = '\n' := by simpa using h
      subst hc
      rfl
    · have hlast : r.getLast? = some '\n' := by
        rw [List.getLast?_cons_of_ne_nil hr] at h
        exact h.resolve_left (List.cons_ne_nil c r)
      have ih := ih (.inr hlast)
      by_cases hc : c = '\n'
      · subst hc
        rw [List.cons_append, segments_cons_newline, ih, segments_cons_newline, List.cons_append]
      · obtain ⟨s, ss, hs⟩ := List.exists_cons_of_ne_nil (segments_ne_nil hr)
        rw [hs, List.cons_append] at ih
        rw [List.cons_append, segments_cons_of_ne hc ih, segments_cons_of_ne hc hs,
          List.cons_append]

theorem segments_of_unbroken {s : Text} (hne : s ≠ []) (h : '\n' ∉ s.dropLast) :
    segments s = [s] := by
  induction s with
  | nil => exact absurd rfl hne
  | cons c r ih =>
    by_cases hr : r = []
    · subst hr
      by_cases hc : c = '\n'
      · subst hc
        rfl
      · rw [segments, if_neg hc]
        rfl
    · rw [List.dropLast_cons_of_ne_nil hr, List.mem_cons, not_or] at h
      exact segments_cons_of_ne (Ne.symm h.1) (ih hr h.2)

theorem unbroken_of_mem_segments {t s : Text} (h : s ∈ segments t) :
    s ≠ [] ∧ '\n' ∉ s.dropLast := by
  induction t generalizing s with
  | nil => simp [segments] at h
  | cons c r ih =>
    unfold segments at h
    split at h
    next =>
      rcases List.mem_cons.mp h with rfl | h
      · simp
      · exact ih h
    next hc =>
      split at h
      next =>
        obtain rfl := List.mem_singleton.mp h
        simp
      next first rest hr =>
        rcases List.mem_cons.mp h with rfl | h
        · obtain ⟨hne, hfirst⟩ := ih (s := first) (by simp [hr])
          rw [List.dropLast_cons_of_ne_nil hne, List.mem_cons, not_or]
          exact ⟨List.cons_ne_nil c first, Ne.symm hc, hfirst⟩
        · exact ih (by simp [hr, h])

/-- Whatever stands before a segment ends with a line break. -/
theorem flatten_before_segment {t line : Text} {before after : List Text}
    (h : t.segments = before ++ line :: after) :
    before = [] ∨ ∃ s, before.flatten = s ++ ['\n'] := by
  induction t generalizing before with
  | nil => simp [segments] at h
  | cons c r ih =>
    cases before with
    | nil => exact .inl rfl
    | cons first before =>
      right
      unfold segments at h
      split at h
      next =>
        obtain ⟨rfl, hr⟩ := List.cons.inj h
        rcases ih hr with rfl | ⟨s, hs⟩
        · exact ⟨[], rfl⟩
        · exact ⟨'\n' :: s, by simp [hs]⟩
      next =>
        split at h
        next => simp at h
        next s ss hr =>
          obtain ⟨rfl, rfl⟩ := List.cons.inj h
          have hbefore := @ih (s :: before) hr
          obtain ⟨x, hx⟩ := hbefore.resolve_left (List.cons_ne_nil s before)
          exact ⟨c :: x, by simpa using hx⟩

/-- A text is cut into its segments, and a segment is where the parts before and behind it say. -/
theorem isSegment_iff {t before s after : Text} : IsSegment t before s after ↔
    ∃ bs as, t.segments = bs ++ s :: as ∧ before = bs.flatten ∧ after = as.flatten := by
  constructor
  · rintro ⟨rfl, hbegins, hne, hunbroken, hends⟩
    have hs : segments (s ++ after) = s :: segments after := by
      rcases hends with rfl | hends
      · rw [List.append_nil, segments_of_unbroken hne hunbroken]
        rfl
      · rw [segments_append (.inr hends), segments_of_unbroken hne hunbroken]
        rfl
    exact ⟨segments before, segments after, by rw [segments_append hbegins, hs],
      (flatten_segments before).symm, (flatten_segments after).symm⟩
  · rintro ⟨bs, as, h, rfl, rfl⟩
    obtain ⟨hne, hunbroken⟩ := unbroken_of_mem_segments (t := t) (s := s) (by simp [h])
    refine ⟨by rw [← flatten_segments t, h]; simp, ?_, hne, hunbroken, ?_⟩
    · rcases flatten_before_segment h with rfl | ⟨x, hx⟩
      · exact .inl rfl
      · exact .inr (by simp [hx])
    · cases as with
      | nil => exact .inl rfl
      | cons a as =>
        right
        have hsplit : t.segments = (bs ++ [s]) ++ a :: as := by simp [h]
        obtain ⟨x, hx⟩ := (flatten_before_segment hsplit).resolve_left (by simp)
        rw [List.flatten_append, List.flatten_singleton] at hx
        have hlast := congrArg List.getLast? hx
        rwa [List.getLast?_append_of_ne_nil _ hne, List.getLast?_concat] at hlast

end LineSpecials.Text
