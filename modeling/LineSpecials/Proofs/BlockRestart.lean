import LineSpecials.Proofs.BlockGrammar
import Mathlib.Data.List.DropRight
import Mathlib.Data.List.Induction

namespace LineSpecials.Block

namespace Cursor

/-- The cursor behind lines. -/
def after (cur : Cursor) (lines : List Text) : Cursor :=
  lines.foldl (fun c line => (c.step line).1) cur

/-- How many lines the block under way has behind its latest divider. -/
def sinceDivider : Cursor → Nat
  | opening => 0
  | action => 0
  | closing _ => 1
  | signature _ => 0
  | marker _ _ => 1
  | code _ _ => 2

theorem sinceDivider_lt (cur : Cursor) : cur.sinceDivider < 3 := by
  cases cur <;> simp [sinceDivider]

theorem entries_append (cur : Cursor) (lines rest : List Text) :
    cur.entries (lines ++ rest) = cur.entries lines ++ (cur.after lines).entries rest := by
  induction lines generalizing cur with
  | nil => rfl
  | cons line lines ih =>
    rw [List.cons_append, entries, entries, ih, List.append_assoc]
    rfl

theorem after_concat (cur : Cursor) (lines : List Text) (line : Text) :
    cur.after (lines ++ [line]) = ((cur.after lines).step line).1 := by
  simp [after]

/-- A line ends the block under way, or is a divider of it, or is one more line behind its latest
divider. -/
theorem sinceDivider_step (cur : Cursor) (line : Text) :
    (cur.step line).1 = opening ∨
      (isDivider line ∧ (cur.step line).1.sinceDivider = 0) ∨
      (cur ≠ opening ∧ (cur.step line).1.sinceDivider = cur.sinceDivider + 1) := by
  cases cur with
  | opening => cases hd : isDivider line <;> simp [step, hd, sinceDivider]
  | action => cases ha : action? line <;> simp [step, ha, sinceDivider]
  | closing handler => cases hd : isDivider line <;> simp [step, hd, sinceDivider]
  | signature handler => cases hs : signature? line <;> simp [step, hs, sinceDivider]
  | marker name arity => cases hm : isMarker line <;> simp [step, hm, sinceDivider]
  | code name arity => exact Or.inl rfl

/-- The latest divider of the block under way stands where the cursor says. -/
theorem exists_divider_of_after {lines : List Text} (h : opening.after lines ≠ opening) :
    ∃ line, lines.reverse[(opening.after lines).sinceDivider]? = some line ∧ isDivider line := by
  induction lines using List.reverseRecOn with
  | nil => exact absurd rfl h
  | append_singleton lines last ih =>
    rw [after_concat] at h ⊢
    rw [List.reverse_concat]
    rcases sinceDivider_step (opening.after lines) last with ho | ⟨hd, hs⟩ | ⟨hne, hs⟩
    · exact absurd ho h
    · exact ⟨last, by rw [hs]; rfl, hd⟩
    · obtain ⟨line, hl, hd⟩ := ih hne
      exact ⟨line, by rw [hs, List.getElem?_cons_succ, hl], hd⟩

/-- Lines leave no block under way if none of the last three is a divider. -/
theorem after_eq_opening {lines : List Text} (h : ∀ line ∈ lines.rtake 3, isDivider line = false) :
    opening.after lines = opening := by
  by_contra hne
  obtain ⟨line, hl, hd⟩ := exists_divider_of_after hne
  have hlast : line ∈ lines.rtake 3 := by
    rw [List.rtake_eq_reverse_take_reverse, List.mem_reverse]
    refine List.mem_iff_getElem?.mpr ⟨(opening.after lines).sinceDivider, ?_⟩
    rw [List.getElem?_take_of_lt (sinceDivider_lt _), hl]
  simp [h line hlast] at hd

-- Two lines would not do.
example : opening.after ["//", "// EV_ActionDoor", "//", "// Implements Door(tag)",
    "// * ExtraData: 300"] = code "Door" 1 := by decide +kernel

end Cursor

/-- Behind lines of which none of the last five is a divider, a source is read as if it began there.
A block that stands there is found, whatever the lines before it hold. -/
theorem entries_append_of_not_divider {earlier later : List Text}
    (h : ∀ line ∈ earlier.rtake 5, line.trim ≠ "//".toList) :
    entries (earlier ++ later) = entries earlier ++ entries later ∧
      (fitting shapes later = 6 →
        entries (earlier ++ later) =
          entries earlier ++ entryAt later 0 :: entries (later.drop 6)) := by
  have hlast : earlier.rtake 3 ⊆ earlier.rtake 5 :=
    (List.drop_sublist_drop_left earlier (by omega)).subset
  have hopening : Cursor.opening.after earlier = .opening := by
    refine Cursor.after_eq_opening fun line hl => ?_
    exact beq_eq_false_iff_ne.mpr (h line (hlast hl))
  have hsplit : entries (earlier ++ later) = entries earlier ++ entries later := by
    have happend := Cursor.opening.entries_append earlier later
    rwa [hopening] at happend
  refine ⟨hsplit, fun hblock => ?_⟩
  have hlater : entries later = entryAt later 0 :: entries (later.drop 6) :=
    (Cursor.entries_eq .opening later).trans (if_pos hblock)
  rw [hsplit, hlater]

/-- A block that breaks off, and other lines. -/
def brokenOff : List Text :=
  ["//", "// EV_ActionOpen", "//", "// Implements Open(tag)", "int x;", "", "// Open", "", "int y;"]

/-- A whole block. -/
def doorBlock : List Text :=
  ["//", "// EV_ActionDoor", "//", "// Implements Door(tag, speed)", "// * ExtraData: 300",
    "// * Hexen:     10"]

theorem entries_brokenOff_append_doorBlock :
    (∀ line ∈ brokenOff.rtake 5, line.trim ≠ "//".toList) ∧
      entries (brokenOff ++ doorBlock) = [⟨⟨"10"⟩, "Door", 2⟩] := by
  have h : ∀ line ∈ brokenOff.rtake 5, line.trim ≠ "//".toList := by decide +kernel
  refine ⟨h, ?_⟩
  rw [(entries_append_of_not_divider h).2 (by decide +kernel)]
  decide +kernel

end LineSpecials.Block
