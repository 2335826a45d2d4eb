import LineSpecials.Proofs.AssignmentLines
import LineSpecials.Proofs.Text.Bytes

namespace LineSpecials

namespace Text

theorem dropBytes_append_append (a b c : Text) :
    dropBytes (byteLength a + byteLength b) (a ++ (b ++ c)) = some c := by
  rw [← byteLength_append, ← List.append_assoc, dropBytes_append]

theorem take_drop_bytes_append (a b c : Text) :
    ((bytes (a ++ (b ++ c))).drop (byteLength a)).take (byteLength b) = bytes b := by
  unfold bytes
  rw [List.flatMap_append, List.flatMap_append, ← length_bytes a, ← length_bytes b]
  exact (congrArg _ List.drop_left).trans List.take_left

end Text

namespace Config

variable {key : Text}

/-- Blanks, the key, blanks, an equals sign, and anything behind it. -/
def AssignsKey (key s : Text) : Prop :=
  ∃ indent gap value, s = indent ++ (key ++ (gap ++ '=' :: value)) ∧ (∀ c ∈ indent, isBlank c) ∧
    ∀ c ∈ gap, isBlank c

theorem beginsAssignment_iff {u : Text} : BeginsAssignment key u ↔
    ∃ gap value, u = key ++ (gap ++ '=' :: value) ∧ ∀ c ∈ gap, isBlank c := by
  constructor
  · rintro ⟨w, rfl, hw⟩
    obtain ⟨value, hvalue⟩ := List.head?_eq_some_iff.mp hw
    have hcut : w.takeWhile isBlank ++ w.trimStart = w := List.takeWhile_append_dropWhile
    exact ⟨w.takeWhile isBlank, value, by rw [← hvalue, hcut],
      fun c hc => List.mem_takeWhile_imp hc⟩
  · rintro ⟨gap, value, rfl, hgap⟩
    refine ⟨gap ++ '=' :: value, rfl, ?_⟩
    rw [Text.trimStart, List.dropWhile_append_of_pos hgap,
      List.dropWhile_cons_of_neg (by decide), List.head?_cons]

theorem assignmentColumn_isSome_iff (hne : key ≠ [])
    (hfirst : ∀ c, key.head? = some c → isBlank c = false) {s : Text} :
    (assignmentColumn key s).isSome ↔ AssignsKey key s := by
  constructor
  · intro h
    obtain ⟨column, hcolumn⟩ := Option.isSome_iff_exists.mp h
    obtain ⟨indent, u, rfl, hindent, hu, -⟩ := assignmentColumn_eq_some hcolumn
    obtain ⟨gap, value, rfl, hgap⟩ := beginsAssignment_iff.mp hu
    exact ⟨indent, gap, value, rfl, hindent, hgap⟩
  · rintro ⟨indent, gap, value, rfl, hindent, hgap⟩
    obtain ⟨c, r, rfl⟩ := List.exists_cons_of_ne_nil hne
    have hstart : Text.trimStart (indent ++ (c :: r ++ (gap ++ '=' :: value))) =
        c :: r ++ (gap ++ '=' :: value) := by
      rw [Text.trimStart, List.dropWhile_append_of_pos hindent]
      exact List.dropWhile_cons_of_neg (by simp [hfirst c rfl])
    have hvalue : Text.trimStart (gap ++ '=' :: value) = '=' :: value := by
      rw [Text.trimStart, List.dropWhile_append_of_pos hgap, List.dropWhile_cons_of_neg (by decide)]
    unfold assignmentColumn
    rw [hstart, Text.dropLead?_eq_some_iff.mpr rfl]
    simp [hvalue]

/-- The label of a key is where the first segment that assigns the key has it. -/
structure MarksKey (document key : Text) (span : Span) : Prop where
  /-- No segment before the labelled one assigns the key. -/
  first : ∃ before indent gap value after,
    Text.IsSegment document before (indent ++ (key ++ (gap ++ '=' :: value))) after ∧
      (∀ c ∈ indent, isBlank c) ∧ (∀ c ∈ gap, isBlank c) ∧
      span.start = Text.byteLength before + Text.byteLength indent ∧
      ∀ b s a, Text.IsSegment document b s a → AssignsKey key s → before.length ≤ b.length
  length : span.length = key.byteLength
  /-- Both ends are between characters. -/
  characters : ∃ rest, document.dropBytes span.start = some (key ++ rest) ∧
    document.dropBytes (span.start + span.length) = some rest
  bytes : (document.bytes.drop span.start).take span.length = key.bytes

theorem assignmentSpan_isSome_iff (hne : key ≠ [])
    (hfirst : ∀ c, key.head? = some c → isBlank c = false) {document : Text} :
    (assignmentSpan document key).isSome ↔
      ∃ before s after, Text.IsSegment document before s after ∧ AssignsKey key s := by
  unfold assignmentSpan
  rw [Option.isSome_map, assignmentOffset_isSome_iff]
  simp only [assignmentColumn_isSome_iff hne hfirst, Text.isSegment_iff]
  constructor
  · rintro ⟨s, hs, hassigns⟩
    obtain ⟨bs, as, h⟩ := List.append_of_mem hs
    exact ⟨bs.flatten, s, as.flatten, ⟨bs, as, h, rfl, rfl⟩, hassigns⟩
  · rintro ⟨-, s, -, ⟨bs, as, h, -, -⟩, hassigns⟩
    exact ⟨s, by simp [h], hassigns⟩

theorem marksKey_of_assignmentSpan (hne : key ≠ [])
    (hfirst : ∀ c, key.head? = some c → isBlank c = false) {document : Text} {span : Span}
    (h : assignmentSpan document key = some span) : MarksKey document key span := by
  obtain ⟨start, hstart, rfl⟩ := Option.map_eq_some_iff.mp h
  obtain ⟨before, line, after, column, hsegments, hbefore, hcolumn, rfl⟩ :=
    assignmentOffset_eq_some hstart
  obtain ⟨indent, u, rfl, hindent, hu, rfl⟩ := assignmentColumn_eq_some hcolumn
  obtain ⟨gap, value, rfl, hgap⟩ := beginsAssignment_iff.mp hu
  have hsegment := Text.isSegment_iff.mpr ⟨before, after, hsegments, rfl, rfl⟩
  have hplace : 0 + Text.byteLength before.flatten + Text.byteLength indent =
      Text.byteLength (before.flatten ++ indent) := by simp
  have hdocument : document =
      (before.flatten ++ indent) ++ (key ++ (gap ++ '=' :: value ++ after.flatten)) := by
    rw [hsegment.eq]
    simp
  have hearliest : ∀ b s a, Text.IsSegment document b s a → AssignsKey key s →
      (List.flatten before).length ≤ b.length := by
    intro b s a hs hassigns
    obtain ⟨bs, as, hsplit, rfl, -⟩ := Text.isSegment_iff.mp hs
    have hcolumn := (assignmentColumn_isSome_iff hne hfirst).mpr hassigns
    -- The segments before the labelled one assign nothing, so this one is not among them.
    rcases List.append_eq_append_iff.mp (hsegments.symm.trans hsplit) with
      ⟨x, rfl, -⟩ | ⟨x, rfl, hx⟩
    · simp
    · cases x with
      | nil => simp
      | cons y x =>
        obtain ⟨rfl, -⟩ := List.cons.inj hx
        rw [hbefore s (by simp)] at hcolumn
        cases hcolumn
  rw [hplace]
  refine ⟨⟨before.flatten, indent, gap, value, after.flatten, hsegment, hindent, hgap, by simp,
    hearliest⟩, rfl, ⟨gap ++ '=' :: value ++ after.flatten, ?_, ?_⟩, ?_⟩
  · exact hdocument ▸ Text.dropBytes_append ..
  · exact hdocument ▸ Text.dropBytes_append_append ..
  · exact hdocument ▸ Text.take_drop_bytes_append ..

/-- The failure of a key has a label if and only if a segment of the document assigns the key, and
the label marks the key in the first one that does. -/
theorem invalidKey_label (document file message : Text) {key : Text} (hne : key ≠ [])
    (hfirst : ∀ c, key.head? = some c → isBlank c = false) :
    ∃ span? : Option Span, invalidKey document file message key = .invalid file message span? ∧
      (span?.isSome ↔
        ∃ before s after, Text.IsSegment document before s after ∧ AssignsKey key s) ∧
      ∀ span, span? = some span → MarksKey document key span :=
  ⟨assignmentSpan document key, rfl, assignmentSpan_isSome_iff hne hfirst,
    fun _ h => marksKey_of_assignmentSpan hne hfirst h⟩

/-- The key stands behind a line with a longer key, indented by a blank of three bytes, and once
more on the last line. -/
def indentedActions : Text := "actions_dir = 1\r\n\u3000actions\t= ''\nactions = 2"

theorem indentedActions_label :
    ("actions" : Text) ≠ [] ∧ (∀ c, ("actions" : Text).head? = some c → isBlank c = false) ∧
      invalidKey indentedActions "f" "m" "actions" = .invalid "f" "m" (some ⟨20, 7⟩) ∧
      MarksKey indentedActions "actions" ⟨20, 7⟩ := by
  have hne : ("actions" : Text) ≠ [] := by decide
  have hfirst : ∀ c, ("actions" : Text).head? = some c → isBlank c = false := by
    rintro c hc
    cases hc
    decide
  have hlabel : invalidKey indentedActions "f" "m" "actions" =
      .invalid "f" "m" (some ⟨20, 7⟩) := by decide +kernel
  obtain ⟨span?, heq, -, hmarks⟩ := invalidKey_label indentedActions "f" "m" hne hfirst
  obtain ⟨-, -, hspan⟩ := Failure.invalid.inj (heq.symm.trans hlabel)
  exact ⟨hne, hfirst, hlabel, hmarks _ hspan⟩

end Config

end LineSpecials
