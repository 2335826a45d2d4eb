import LineSpecials.Proofs.BlockRestart

namespace LineSpecials.Block

/-- At least 15 characters, nine of which from the sixth on spell the marker. -/
def isMarkerInCharacters (line : Text) : Bool :=
  decide (15 ≤ line.trim.length) && (line.trim.drop 5).take 9 == "ExtraData".toList

/-- Whether the five characters before the marker word have one byte each, if the line is a marker
line in either way of counting. -/
def PlainColumn (line : Text) : Prop :=
  isMarker line = true ∨ isMarkerInCharacters line = true →
    ∀ c ∈ line.trim.take 5, c.toNat < 0x80

theorem isMarker_iff {line : Text} : isMarker line = true ↔
    ∃ p r : Text, line.trim = p ++ (markerWord ++ r) ∧ r ≠ [] ∧ p.byteLength = 5 := by
  have hword : markerWord.byteLength = 9 := by decide
  have hrest : ∀ p r : Text, p.byteLength = 5 →
      (15 ≤ Text.byteLength (p ++ (markerWord ++ r)) ↔ r ≠ []) := by
    intro p r hp
    rw [Text.byteLength_append, Text.byteLength_append, hp, hword]
    cases r with
    | nil => simp
    | cons c r =>
      have hc := c.utf8Size_pos
      rw [Text.byteLength_cons]
      exact iff_of_true (by omega) (List.cons_ne_nil c r)
  unfold isMarker
  rw [Bool.and_eq_true, decide_eq_true_eq]
  constructor
  · rintro ⟨hlength, hmarker⟩
    split at hmarker
    next rest hdrop =>
      obtain ⟨p, hp, hcolumn⟩ := Text.dropBytes_eq_some_iff.mp hdrop
      obtain ⟨r, rfl⟩ := List.isPrefixOf_iff_prefix.mp hmarker
      rw [hp] at hlength
      exact ⟨p, r, hp, (hrest p r hcolumn).mp hlength, hcolumn⟩
    next => cases hmarker
  · rintro ⟨p, r, hp, hr, hcolumn⟩
    have hdrop : Text.dropBytes markerColumn line.trim = some (markerWord ++ r) :=
      Text.dropBytes_eq_some_iff.mpr ⟨p, hp, hcolumn⟩
    refine ⟨hp ▸ (hrest p r hcolumn).mpr hr, ?_⟩
    rw [hdrop]
    exact List.isPrefixOf_iff_prefix.mpr (List.prefix_append markerWord r)

theorem isMarkerInCharacters_iff {line : Text} : isMarkerInCharacters line = true ↔
    ∃ p r : Text, line.trim = p ++ (markerWord ++ r) ∧ r ≠ [] ∧ p.length = 5 := by
  have hword : "ExtraData".toList = markerWord := rfl
  have hlength : markerWord.length = 9 := by decide
  unfold isMarkerInCharacters
  rw [Bool.and_eq_true, decide_eq_true_eq, beq_iff_eq, hword]
  constructor
  · rintro ⟨hlong, hmarker⟩
    have hsplit : line.trim = line.trim.take 5 ++ (markerWord ++ (line.trim.drop 5).drop 9) := by
      rw [← hmarker, List.take_append_drop, List.take_append_drop]
    refine ⟨line.trim.take 5, (line.trim.drop 5).drop 9, hsplit, ?_, ?_⟩
    · rw [← List.length_pos_iff, List.length_drop, List.length_drop]
      omega
    · rw [List.length_take]
      omega
  · rintro ⟨p, r, hp, hr, hcolumn⟩
    have hpos := List.length_pos_iff.mpr hr
    rw [hp, ← hcolumn, List.drop_left, ← hlength, List.take_left]
    refine ⟨?_, rfl⟩
    rw [List.length_append, List.length_append]
    omega

/-- The marker word does not overlap with itself. -/
theorem eq_nil_of_markerWord_append {x r r' : Text} (hx : x.length < 9)
    (h : markerWord ++ r = x ++ (markerWord ++ r')) : x = [] := by
  by_contra hne
  have hpos := List.length_pos_iff.mpr hne
  have hlength : markerWord.length = 9 := by decide
  have hat := congrArg (·[x.length]?) h
  have hfirst : (markerWord ++ r')[0]? = some 'E' := rfl
  have hother : ∀ n < 9, 0 < n → markerWord[n]? ≠ some 'E' := by decide
  rw [List.getElem?_append_left (by omega), List.getElem?_append_right (Nat.le_refl _),
    Nat.sub_self, hfirst] at hat
  exact hother x.length hx hpos hat

/-- Both ways of counting find the marker word in a line if its column is plain, or neither does. -/
theorem markers_agree_iff {line : Text} :
    isMarkerInCharacters line = isMarker line ↔ PlainColumn line := by
  unfold PlainColumn
  constructor
  · rintro hsame heither
    rw [hsame, or_self] at heither
    obtain ⟨p, r, hp, -, hbytes⟩ := isMarker_iff.mp heither
    obtain ⟨q, r', hq, -, hchars⟩ := isMarkerInCharacters_iff.mp (hsame.trans heither)
    have hshort := Text.length_le_byteLength p
    -- The word begins at or before its column in characters, so it begins in both columns at once.
    obtain ⟨x, rfl⟩ : p <+: q :=
      List.prefix_of_prefix_length_le ⟨_, hp.symm⟩ ⟨_, hq.symm⟩ (by omega)
    rw [List.length_append] at hchars
    have hword : markerWord ++ r = x ++ (markerWord ++ r') := by
      rw [hp, List.append_assoc] at hq
      exact List.append_cancel_left hq
    obtain rfl := eq_nil_of_markerWord_append (by omega) hword
    rw [hq, List.append_nil, ← hchars, List.length_nil, Nat.add_zero, List.take_left]
    exact Text.byteLength_eq_length_iff.mp (by simpa [hbytes] using hchars.symm)
  · intro hplain
    rw [Bool.eq_iff_iff]
    constructor
    · intro h
      obtain ⟨p, r, hp, hr, hchars⟩ := isMarkerInCharacters_iff.mp h
      have hascii := hplain (.inr h)
      rw [hp, ← hchars, List.take_left] at hascii
      exact isMarker_iff.mpr ⟨p, r, hp, hr, (Text.byteLength_eq_length_iff.mpr hascii).trans hchars⟩
    · intro h
      obtain ⟨p, r, hp, hr, hbytes⟩ := isMarker_iff.mp h
      -- Five bytes are at most five characters, and these are plain.
      have hascii := hplain (.inl h)
      have hshort := Text.length_le_byteLength p
      have hbegins : p <+: line.trim.take 5 :=
        List.prefix_take_iff.mpr ⟨⟨_, hp.symm⟩, by omega⟩
      have hp' := Text.byteLength_eq_length_iff.mpr fun c hc => hascii c (hbegins.mem hc)
      exact isMarkerInCharacters_iff.mpr ⟨p, r, hp, hr, hp'.symm.trans hbytes⟩

namespace Cursor

variable {marks : Text → Bool}

/-- The step of a reader that tells marker lines by `marks`. -/
def stepBy (marks : Text → Bool) : Cursor → Text → Cursor × Option Entry
  | marker name arity, line => (if marks line then code name arity else opening, none)
  | cur, line => cur.step line

/-- The entries that lines complete if marker lines are told by `marks`. -/
def entriesBy (marks : Text → Bool) : Cursor → List Text → List Entry
  | _, [] => []
  | cur, line :: lines =>
    (cur.stepBy marks line).2.toList ++ (cur.stepBy marks line).1.entriesBy marks lines

theorem stepBy_isMarker (cur : Cursor) (line : Text) :
    cur.stepBy isMarker line = cur.step line := by
  cases cur <;> rfl

theorem entriesBy_isMarker (cur : Cursor) (lines : List Text) :
    cur.entriesBy isMarker lines = cur.entries lines := by
  induction lines generalizing cur with
  | nil => rfl
  | cons line lines ih => rw [entriesBy, entries, stepBy_isMarker, ih]

theorem stepBy_of_agrees {cur : Cursor} {line : Text}
    (h : (∃ name arity, cur = marker name arity) → marks line = isMarker line) :
    cur.stepBy marks line = cur.step line := by
  cases cur with
  | marker name arity => rw [stepBy, h ⟨name, arity, rfl⟩, step]
  | _ => rfl

/-- What a line completes does not hang on the marker. -/
theorem stepBy_snd (cur : Cursor) (line : Text) :
    (cur.stepBy marks line).2 = (cur.step line).2 := by
  cases cur <;> rfl

/-- Behind a marker line a colon completes the block. -/
theorem entriesBy_colon (name : Text) (arity : Nat) (line : Text) :
    (marker name arity).entriesBy marks [line, [':']] =
      if marks line then [⟨⟨[]⟩, name, arity⟩] else [] := by
  have hcode : code? [':'] = some ⟨[]⟩ := by decide
  have hopening : (opening.step [':']).2 = none := rfl
  cases hm : marks line with
  | false => simp [entriesBy, stepBy, hm, hopening]
  | true => simp [entriesBy, stepBy, step, hm, hcode]

end Cursor

open Cursor (opening marker)

/-- A line that a block under way needs for its marker. -/
def DueAsMarker (lines : List Text) (line : Text) : Prop :=
  ∃ before, before ++ [line] <+: lines ∧ ∃ name arity, opening.after before = marker name arity

theorem not_dueAsMarker_nil (line : Text) : ¬ DueAsMarker [] line := by
  rintro ⟨before, h, -⟩
  simp at h

theorem dueAsMarker_concat {lines : List Text} {last line : Text} :
    DueAsMarker (lines ++ [last]) line ↔
      DueAsMarker lines line ∨
        line = last ∧ ∃ name arity, opening.after lines = marker name arity := by
  unfold DueAsMarker
  simp only [List.prefix_concat_iff]
  constructor
  · rintro ⟨before, heq | h, hdue⟩
    · obtain ⟨rfl, hlast⟩ := List.append_inj' heq rfl
      exact .inr ⟨List.singleton_inj.mp hlast, hdue⟩
    · exact .inl ⟨before, h, hdue⟩
  · rintro (⟨before, h, hdue⟩ | ⟨rfl, hdue⟩)
    · exact ⟨before, .inr h, hdue⟩
    · exact ⟨lines, .inl rfl, hdue⟩

section Scanners

variable {marks : Text → Bool} {lines : List Text}

/-- Two readers that tell the lines due as markers alike are in step behind them. -/
theorem entriesBy_append (h : ∀ line, DueAsMarker lines line → marks line = isMarker line)
    (rest : List Text) : opening.entriesBy marks (lines ++ rest) =
      entries lines ++ (opening.after lines).entriesBy marks rest := by
  induction lines using List.reverseRecOn generalizing rest with
  | nil => rfl
  | append_singleton lines last ih =>
    have hlast : (opening.after lines).stepBy marks last = (opening.after lines).step last :=
      Cursor.stepBy_of_agrees fun hdue => h last (dueAsMarker_concat.mpr (.inr ⟨rfl, hdue⟩))
    have hentries : entries (lines ++ [last]) =
        entries lines ++ ((opening.after lines).step last).2.toList := by
      unfold entries
      rw [Cursor.entries_append]
      simp [Cursor.entries]
    have ih := ih (fun line hline => h line (dueAsMarker_concat.mpr (.inl hline))) (last :: rest)
    rw [List.append_assoc, List.singleton_append, ih, hentries, Cursor.after_concat,
      Cursor.entriesBy, hlast, List.append_assoc]

/-- Readers tell the lines due as markers alike if and only if they find the same entries in every
beginning of the source with any one line behind it. -/
theorem marks_eq_iff :
    (∀ line, DueAsMarker lines line → marks line = isMarker line) ↔
      ∀ before next, before <+: lines →
        entries (before ++ [next]) = opening.entriesBy marks (before ++ [next]) := by
  constructor
  · intro h before next hbefore
    have halike : ∀ line, DueAsMarker before line → marks line = isMarker line := by
      rintro line ⟨earlier, hearlier, hdue⟩
      exact h line ⟨earlier, hearlier.trans hbefore, hdue⟩
    rw [entriesBy_append halike, entries, Cursor.entries_append]
    simp [entries, Cursor.entries, Cursor.entriesBy, Cursor.stepBy_snd]
  · intro h
    induction lines using List.reverseRecOn with
    | nil => exact fun line hdue => absurd hdue (not_dueAsMarker_nil line)
    | append_singleton lines last ih =>
      have ih := ih fun before next hbefore =>
        h before next (hbefore.trans (List.prefix_append _ _))
      intro line hdue
      rcases dueAsMarker_concat.mp hdue with hdue | ⟨rfl, name, arity, hcursor⟩
      · exact ih line hdue
      · -- A colon behind the line is the end of a block for those who take the line for a marker.
        have hcolon := h (lines ++ [line]) [':'] List.prefix_rfl
        rw [List.append_assoc, entriesBy_append ih, entries, Cursor.entries_append,
          ← Cursor.entriesBy_isMarker (opening.after lines), hcursor] at hcolon
        have hcolon := List.append_cancel_left hcolon
        rw [List.singleton_append, Cursor.entriesBy_colon, Cursor.entriesBy_colon] at hcolon
        cases hmarks : marks line <;> cases hmarker : isMarker line <;> simp_all

end Scanners

/-- The entries of a source whose markers are told by characters. -/
def entriesInCharacters (lines : List Text) : List Entry :=
  opening.entriesBy isMarkerInCharacters lines

/-- A source has the same entries in bytes and in characters if every line due as a marker has a
plain column. This is so exactly if no beginning of the source, with one more line of any kind,
has other entries in characters. -/
theorem entries_eq_inCharacters_iff (lines : List Text) :
    ((∀ line, DueAsMarker lines line → PlainColumn line) →
        entries lines = entriesInCharacters lines) ∧
      ((∀ line, DueAsMarker lines line → PlainColumn line) ↔
        ∀ before next, before <+: lines →
          entries (before ++ [next]) = entriesInCharacters (before ++ [next])) := by
  simp only [← markers_agree_iff]
  refine ⟨fun h => ?_, marks_eq_iff⟩
  have hstep := entriesBy_append h []
  rw [List.append_nil] at hstep
  rw [entriesInCharacters, hstep]
  exact (List.append_nil _).symm

/-- A block whose marker stands behind a bullet of three bytes. -/
def bulletBlock : List Text :=
  ["//", "// EV_ActionDoor", "//", "// Implements Door(tag)", "// • ExtraData: 300",
    "// • Hexen:     10"]

/-- In characters the marker is in its column, and the block is not read. -/
theorem bulletBlock_not_read :
    isMarkerInCharacters "// • ExtraData: 300" = true ∧
      entriesInCharacters bulletBlock = [⟨⟨"10"⟩, "Door", 1⟩] ∧ entries bulletBlock = [] := by
  decide +kernel

end LineSpecials.Block
