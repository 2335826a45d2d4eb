import LineSpecials.Proofs.Text.Trimming
import Mathlib.Data.List.Forall2

namespace LineSpecials.Text

/-- Lines trimmed, without the blank ones at the end. -/
def trimmed (ls : List Text) : List Text := (ls.map trim).rdropWhile (·.isEmpty)

/-- The lines of a text trimmed, without the blank ones at the end. -/
def trimmedLines (t : Text) : List Text := trimmed t.lines

/-- A line with blanks added at its ends. -/
def Widens (l l' : Text) : Prop := ∃ a b, a.isAllBlank ∧ b.isAllBlank ∧ l' = a ++ l ++ b

/-- The text with a carriage return before every line feed. -/
def withReturns (t : Text) : Text := t.flatMap fun c => if c = '\n' then ['\r', '\n'] else [c]

theorem exists_map_trim_eq (ls : List Text) :
    ∃ k, ls.map trim = trimmed ls ++ List.replicate k [] := by
  refine ⟨((ls.map trim).rtakeWhile (·.isEmpty)).length, ?_⟩
  have hblank : (ls.map trim).rtakeWhile (·.isEmpty) =
      List.replicate ((ls.map trim).rtakeWhile (·.isEmpty)).length [] := by
    apply List.eq_replicate_of_mem
    intro l hl
    exact List.isEmpty_iff.mp (List.mem_rtakeWhile_imp hl)
  rw [← hblank]
  exact List.rdropWhile_append_rtakeWhile.symm

theorem trimmed_congr {ls ls' : List Text} (h : ls.map trim = ls'.map trim) :
    trimmed ls = trimmed ls' := by
  unfold trimmed
  rw [h]

theorem trimmed_append_nil (ls : List Text) : trimmed (ls ++ [[]]) = trimmed ls := by
  unfold trimmed
  rw [List.map_append]
  exact List.rdropWhile_concat_pos _ _ _ rfl

@[simp] theorem trim_dropReturn (l : Text) : (dropReturn l).trim = l.trim := by
  unfold dropReturn
  split
  next h =>
    have hreturn : ∀ c ∈ ['\r'], isBlank c := by
      rw [List.forall_mem_singleton]
      decide
    obtain ⟨s, rfl⟩ := List.getLast?_eq_some_iff.mp h
    rw [List.dropLast_concat, trim_append_blank s hreturn]
  next => rfl

/-- The stretches between line feeds have the trimmed lines of the text. -/
theorem trimmed_closeLines (ls : List Text) : trimmed (closeLines ls) = trimmed ls := by
  have hlast : ∀ ls : List Text, ls.map trim = (closeLines ls).map trim ∨
      ls.map trim = (closeLines ls).map trim ++ [[]] := by
    intro ls
    induction ls with
    | nil => exact Or.inl rfl
    | cons l ls ih =>
      cases ls with
      | nil =>
        unfold closeLines
        split
        next h => exact Or.inr (by rw [List.isEmpty_iff.mp h]; rfl)
        next => exact Or.inl rfl
      | cons l' ls =>
        rw [closeLines, List.map_cons (l := closeLines (l' :: ls)), trim_dropReturn, List.map_cons]
        rcases ih with h | h
        · exact Or.inl (by rw [h])
        · exact Or.inr (by rw [h]; rfl)
  rcases hlast ls with h | h
  · exact (trimmed_congr h).symm
  · unfold trimmed
    rw [h]
    exact (List.rdropWhile_concat_pos _ _ _ rfl).symm

theorem trimmedLines_eq (t : Text) : trimmedLines t = trimmed (t.splitWhen (· == '\n')) :=
  trimmed_closeLines _

theorem Widens.trim_eq {l l' : Text} (h : Widens l l') : l'.trim = l.trim := by
  obtain ⟨a, b, ha, hb, rfl⟩ := h
  rw [trim_append_blank _ (List.all_eq_true.mp hb), trim_blank_append (List.all_eq_true.mp ha)]

/-- Blanks at the ends of lines do not count. -/
theorem trimmedLines_of_widens {t t' : Text}
    (h : List.Forall₂ Widens (t.splitWhen (· == '\n')) (t'.splitWhen (· == '\n'))) :
    trimmedLines t' = trimmedLines t := by
  have hmap : ∀ {ls ls' : List Text}, List.Forall₂ Widens ls ls' → ls'.map trim = ls.map trim := by
    intro ls ls' h
    induction h with
    | nil => rfl
    | cons hl _ ih => rw [List.map_cons, List.map_cons, hl.trim_eq, ih]
  rw [trimmedLines_eq, trimmedLines_eq, trimmed_congr (hmap h)]

theorem withReturns_newline (r : Text) : withReturns ('\n' :: r) = '\r' :: '\n' :: withReturns r :=
  rfl

theorem withReturns_cons {c : Char} (h : c ≠ '\n') (r : Text) :
    withReturns (c :: r) = c :: withReturns r := by
  simp [withReturns, h]

/-- Lines with or without a carriage return at the end. -/
def Returns (l l' : Text) : Prop := l' = l ∨ l' = l ++ ['\r']

theorem Returns.cons {l l' : Text} (h : Returns l l') (c : Char) : Returns (c :: l) (c :: l') := by
  rcases h with rfl | rfl
  · exact Or.inl rfl
  · exact Or.inr rfl

theorem Returns.widens {l l' : Text} (h : Returns l l') : Widens l l' := by
  rcases h with rfl | rfl
  · exact ⟨[], [], rfl, rfl, (List.append_nil _).symm⟩
  · exact ⟨[], ['\r'], rfl, by decide, rfl⟩

theorem forall₂_returns (t : Text) : List.Forall₂ Returns (t.splitWhen (· == '\n'))
    ((withReturns t).splitWhen (· == '\n')) := by
  induction t with
  | nil => exact .cons (Or.inl rfl) .nil
  | cons c r ih =>
    by_cases hc : c = '\n'
    · rw [hc, withReturns_newline, splitWhen_cons_of_pos (by decide),
        splitWhen_cons_of_neg (by decide), splitWhen_cons_of_pos (by decide), List.modifyHead_cons]
      exact .cons (Or.inr rfl) ih
    · have hhead : ∀ {ls ls' : List Text}, List.Forall₂ Returns ls ls' →
          List.Forall₂ Returns (ls.modifyHead (c :: ·)) (ls'.modifyHead (c :: ·)) := by
        intro ls ls' h
        cases h with
        | nil => exact .nil
        | cons hl hls => exact .cons (hl.cons c) hls
      rw [withReturns_cons hc, splitWhen_cons_of_neg (by simpa using hc),
        splitWhen_cons_of_neg (by simpa using hc)]
      exact hhead ih

theorem trimmedLines_withReturns (t : Text) : trimmedLines (withReturns t) = trimmedLines t :=
  trimmedLines_of_widens ((forall₂_returns t).imp fun _ _ h => h.widens)

theorem trimmedLines_append_newline (t : Text) : trimmedLines (t ++ ['\n']) = trimmedLines t := by
  rw [trimmedLines_eq, trimmedLines_eq, splitWhen_append_cons (by decide) t []]
  exact trimmed_append_nil _

/-- A reader of lines that sees no blanks around them and no blank lines at the end. -/
structure ReadsTrimmed {α : Type} (read : List Text → α) : Prop where
  map_trim : ∀ ls, read (ls.map trim) = read ls
  append_blank : ∀ ls, read (ls ++ [[]]) = read ls

namespace ReadsTrimmed

variable {α : Type} {read : List Text → α}

theorem append_replicate (h : ReadsTrimmed read) (ls : List Text) (k : Nat) :
    read (ls ++ List.replicate k []) = read ls := by
  induction k with
  | zero => rw [List.replicate_zero, List.append_nil]
  | succ k ih => rw [List.replicate_succ', ← List.append_assoc, h.append_blank, ih]

theorem read_trimmed (h : ReadsTrimmed read) (ls : List Text) : read (trimmed ls) = read ls := by
  obtain ⟨k, hk⟩ := exists_map_trim_eq ls
  rw [← h.map_trim ls, hk, h.append_replicate]

theorem read_lines_eq (h : ReadsTrimmed read) {t t' : Text}
    (ht : trimmedLines t = trimmedLines t') : read t.lines = read t'.lines := by
  rw [← h.read_trimmed t.lines, ← h.read_trimmed t'.lines]
  exact congrArg read ht

end ReadsTrimmed

end LineSpecials.Text
