import LineSpecials.Config.Basic
import LineSpecials.Proofs.Text.Segments
import LineSpecials.Proofs.Text.Splitting

namespace LineSpecials

namespace Text

/-- Nothing but blanks stand behind the last line break. -/
def Indents (t : Text) : Prop := ∀ b, b <:+ t → '\n' ∉ b → ∀ c ∈ b, isBlank c

theorem indents_of_blank {t : Text} (h : ∀ c ∈ t, isBlank c) : t.Indents :=
  fun _ hb _ c hc => h c (hb.mem hc)

theorem indents_append_newline {b : Text} (h : ∀ c ∈ b, isBlank c) (t : Text) :
    Indents (t ++ '\n' :: b) := by
  intro s hs hn
  rcases List.suffix_or_suffix_of_suffix hs (List.suffix_append t ('\n' :: b)) with hs | hs
  · rcases List.suffix_cons_iff.mp hs with rfl | hs
    · exact absurd List.mem_cons_self hn
    · exact fun c hc => h c (hs.mem hc)
  · exact absurd (hs.mem List.mem_cons_self) hn

theorem Indents.of_suffix {s t : Text} (h : t.Indents) (hs : s <:+ t) : s.Indents :=
  fun b hb => h b (hb.trans hs)

theorem Indents.blank {t : Text} (h : t.Indents) (hn : '\n' ∉ t) : ∀ c ∈ t, isBlank c :=
  h t List.suffix_rfl hn

end Text

namespace Config

open Text (Indents)

/-- A key and an equals sign, with nothing but blanks between them. -/
def BeginsAssignment (key u : Text) : Prop :=
  ∃ w, u = key ++ w ∧ w.trimStart.head? = some '='

/-- In a text, an assignment of a key as a reader of lines sees it: `u` is the text from the key
on. -/
def Ahead (key t u : Text) : Prop := ∃ s, t = s ++ u ∧ s.Indents ∧ BeginsAssignment key u

variable {key line : Text}

theorem BeginsAssignment.append {u : Text} (h : BeginsAssignment key u) (t : Text) :
    BeginsAssignment key (u ++ t) := by
  obtain ⟨w, rfl, hw⟩ := h
  refine ⟨w ++ t, List.append_assoc .., ?_⟩
  have hne : w.trimStart ≠ [] := by
    intro hnil
    simp [hnil] at hw
  unfold Text.trimStart at hne hw ⊢
  rw [List.dropWhile_append, if_neg (by simpa using hne), List.head?_append, hw]
  rfl

theorem assignmentColumn_eq_some {column : Nat} (h : assignmentColumn key line = some column) :
    ∃ indent u, line = indent ++ u ∧ (∀ c ∈ indent, isBlank c) ∧ BeginsAssignment key u ∧
      column = indent.byteLength := by
  have hline : line.takeWhile isBlank ++ line.trimStart = line := List.takeWhile_append_dropWhile
  unfold assignmentColumn at h
  split at h
  next rest hrest =>
    split at h
    next heq =>
      cases h
      refine ⟨line.takeWhile isBlank, line.trimStart, hline.symm, fun c hc => ?_,
        ⟨rest, Text.dropLead?_eq_some_iff.mp hrest, heq⟩, ?_⟩
      · exact (List.all_eq_true.mp List.all_takeWhile) c hc
      · have hlen := congrArg Text.byteLength hline
        rw [Text.byteLength_append] at hlen
        omega
    next => cases h
  next => cases h

theorem assignmentOffset_eq_some {offset start : Nat} {lines : List Text}
    (h : assignmentOffset key offset lines = some start) :
    ∃ before line after column, lines = before ++ line :: after ∧
      (∀ l ∈ before, assignmentColumn key l = none) ∧
      assignmentColumn key line = some column ∧
      start = offset + Text.byteLength before.flatten + column := by
  induction lines generalizing offset with
  | nil => cases h
  | cons line lines ih =>
    unfold assignmentOffset at h
    split at h
    next column hcolumn => cases h; exact ⟨[], line, lines, column, rfl, by simp, hcolumn, rfl⟩
    next hnone =>
      obtain ⟨before, line', after, column, rfl, hbefore, hcolumn, rfl⟩ := ih h
      refine ⟨line :: before, line', after, column, rfl,
        List.forall_mem_cons.mpr ⟨hnone, hbefore⟩, hcolumn, ?_⟩
      rw [List.flatten_cons, Text.byteLength_append]
      omega

theorem assignmentOffset_isSome_iff {offset : Nat} {lines : List Text} :
    (assignmentOffset key offset lines).isSome ↔
      ∃ line ∈ lines, (assignmentColumn key line).isSome := by
  induction lines generalizing offset with
  | nil => simp [assignmentOffset]
  | cons line lines ih =>
    unfold assignmentOffset
    split
    next column hcolumn => simp [hcolumn]
    next hnone => simp [hnone, ih]

/-- A span that a reader of lines finds is the stretch of the key in front of an assignment. -/
theorem assignmentSpan_eq_some {document : Text} {span : Span}
    (h : assignmentSpan document key = some span) :
    ∃ u, Ahead key document u ∧
      span = ⟨document.byteLength - u.byteLength, key.byteLength⟩ := by
  obtain ⟨start, hstart, rfl⟩ := Option.map_eq_some_iff.mp h
  obtain ⟨before, line, after, column, hsegments, -, hcolumn, rfl⟩ :=
    assignmentOffset_eq_some hstart
  obtain ⟨indent, u, rfl, hblank, hu, rfl⟩ := assignmentColumn_eq_some hcolumn
  have hdocument : document = (before.flatten ++ indent) ++ (u ++ after.flatten) := by
    rw [← Text.flatten_segments document, hsegments]
    simp
  refine ⟨u ++ after.flatten, ⟨before.flatten ++ indent, hdocument, ?_, hu.append _⟩, ?_⟩
  · rcases Text.flatten_before_segment hsegments with rfl | ⟨s, hs⟩
    · exact Text.indents_of_blank hblank
    · rw [hs, List.append_assoc]
      exact Text.indents_append_newline hblank s
  · rw [hdocument, Text.byteLength_append, Text.byteLength_append, Nat.add_sub_cancel, Nat.zero_add]

namespace Ahead

variable {t u : Text} {c : Char}

theorem suffix (h : Ahead key t u) : u <:+ t := by
  obtain ⟨s, rfl, _⟩ := h
  exact List.suffix_append s u

theorem begins (h : Ahead key t u) : BeginsAssignment key u := by
  obtain ⟨_, _, _, hu⟩ := h
  exact hu

/-- Behind a character the key stands at the same places, the one at the character apart. -/
theorem of_cons (h : Ahead key (c :: t) u) : u = c :: t ∨ Ahead key t u := by
  obtain ⟨s, hs, hindents, hu⟩ := h
  cases s with
  | nil => exact .inl hs.symm
  | cons d s =>
    obtain ⟨rfl, rfl⟩ := List.cons.inj hs
    exact .inr ⟨s, rfl, hindents.of_suffix (List.suffix_cons c s), hu⟩

/-- A key is either behind a part of the text or begins within it. -/
theorem of_append {w rest : Text} (h : Ahead key (w ++ rest) u) :
    Ahead key rest u ∨ ∃ x, x ≠ [] ∧ u = x ++ rest := by
  induction w with
  | nil => exact .inl h
  | cons c w ih =>
    rcases h.of_cons with rfl | h
    · exact .inr ⟨c :: w, List.cons_ne_nil c w, rfl⟩
    · exact ih h

/-- No key stands behind something else on a line. -/
theorem of_line {w rest : Text} (hc : isBlank c = false) (hw : '\n' ∉ c :: w)
    (h : Ahead key (c :: w ++ rest) u) : u = c :: w ++ rest ∨ Ahead key rest u := by
  obtain ⟨s, hs, hindents, hu⟩ := h
  rcases List.append_eq_append_iff.mp hs with ⟨x, rfl, rfl⟩ | ⟨x, hx, rfl⟩
  · exact .inr ⟨x, rfl, hindents.of_suffix (List.suffix_append ..), hu⟩
  · left
    cases s with
    | nil => rw [hx]; rfl
    | cons d s =>
      obtain ⟨rfl, -⟩ := List.cons.inj hx
      have hn : '\n' ∉ c :: s := fun hm => hw (hx ▸ List.mem_append_left x hm)
      rw [hindents.blank hn c List.mem_cons_self] at hc
      cases hc

end Ahead

end Config

end LineSpecials
