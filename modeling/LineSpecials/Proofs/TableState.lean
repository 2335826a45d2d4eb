import LineSpecials.Proofs.BindingRows
import Mathlib.Algebra.Ring.Parity
import Mathlib.Data.List.DropRight

namespace LineSpecials

namespace TableEvent

/-- Neither a brace line nor one that begins as rows do. -/
def isForeign (line : Text) : Bool :=
  line.trim != tableOpening && ! rowWord.isPrefixOf line.trim

/-- Whether a line declares the table. -/
def declares (line : Text) : Bool := isTableDeclaration line.trim

/-- Whether the table is open behind a line. -/
def opensAt (inTable : Bool) (line : Text) : Bool :=
  if inTable then ! isForeign line else declares line

/-- Whether the table is open behind lines. -/
def isOpenAfter (inTable : Bool) (lines : List Text) : Bool := lines.foldl opensAt inTable

/-- The length of the run of declarations that the foreign lines end with. -/
def declarationRun (lines : List Text) : Nat :=
  ((lines.filter isForeign).rtakeWhile declares).length

theorem isForeign_eq_false_iff {line : Text} :
    isForeign line = false ↔ line.trim = tableOpening ∨ rowWord.isPrefixOf line.trim = true := by
  rw [isForeign, Bool.and_eq_false_iff, bne_eq_false_iff_eq, Bool.not_eq_false']

theorem not_declares_of_brace {line : Text} (h : line.trim = tableOpening) :
    declares line = false := by
  unfold declares
  rw [h]
  decide +kernel

/-- A line leaves the table open if it finds it open and is not foreign, or finds it closed and
declares it. -/
theorem leavesOpen_ofLine (inTable : Bool) (n : Nat) (line : Text) :
    leavesOpen inTable (ofLine inTable n line) = opensAt inTable line := by
  unfold ofLine opensAt
  cases inTable with
  | false => cases hd : isTableDeclaration line.trim <;> simp [declares, hd, leavesOpen]
  | true =>
    rw [if_pos rfl, if_pos rfl]
    split
    next hb =>
      rw [isForeign_eq_false_iff.mpr (Or.inl hb)]
      rfl
    next hb =>
      split
      next hr =>
        rw [isForeign_eq_false_iff.mpr (Or.inr hr)]
        cases Binding.ofLine line.trim n <;> rfl
      next hr =>
        have hf : isForeign line = true := by
          rw [← Bool.not_eq_false, isForeign_eq_false_iff]
          exact not_or.mpr ⟨hb, hr⟩
        rw [hf]
        rfl

/-- Rows are read off open tables only. -/
theorem ofLine_eq_row_iff {inTable : Bool} {n : Nat} {line : Text} {b : Binding} :
    ofLine inTable n line = some (row b) ↔
      inTable = true ∧ rowWord.isPrefixOf line.trim ∧ Binding.ofLine line.trim n = some b := by
  have hbrace : rowWord.isPrefixOf tableOpening = false := by decide
  unfold ofLine
  cases inTable with
  | false => cases isTableDeclaration line.trim <;> simp
  | true =>
    simp only [if_true, true_and]
    split
    next hb => simp [hb, hbrace]
    next =>
      split
      next hr => cases Binding.ofLine line.trim n <;> simp [hr]
      next hr => simp [hr]

/-- Tables are opened at declarations that find them closed. -/
theorem ofLine_eq_opened_iff {inTable : Bool} {n k : Nat} {line : Text} :
    ofLine inTable n line = some (opened k) ↔ inTable = false ∧ k = n ∧ declares line = true := by
  unfold ofLine declares
  cases inTable with
  | false => cases isTableDeclaration line.trim <;> simp [eq_comm]
  | true =>
    rw [if_pos rfl]
    split
    next => simp
    next =>
      split
      next => cases Binding.ofLine line.trim n <;> simp
      next => simp

/-- The events of lines are those of each line as it finds the table. -/
theorem mem_ofLines_iff {inTable : Bool} {n : Nat} {lines : List Text} {e : TableEvent} :
    e ∈ ofLines inTable n lines ↔
      ∃ i line, lines[i]? = some line ∧
        ofLine (isOpenAfter inTable (lines.take i)) (n + i) line = some e := by
  induction lines generalizing inTable n with
  | nil => simp [ofLines]
  | cons first lines ih =>
    unfold ofLines
    dsimp only
    rw [List.mem_append, Option.mem_toList, leavesOpen_ofLine, ih]
    constructor
    · rintro (he | ⟨i, line, hi, he⟩)
      · exact ⟨0, first, rfl, he⟩
      · exact ⟨i + 1, line, hi, by rwa [Nat.add_right_comm] at he⟩
    · rintro ⟨i, line, hi, he⟩
      cases i with
      | zero =>
        cases Option.some.inj hi
        exact Or.inl he
      | succ i => exact Or.inr ⟨i, line, hi, by rwa [Nat.add_right_comm]⟩

/-- The rows of lines are those of the lines that find the table open. -/
theorem row_mem_ofLines_iff {inTable : Bool} {n : Nat} {lines : List Text} {b : Binding} :
    row b ∈ ofLines inTable n lines ↔
      ∃ i line, lines[i]? = some line ∧ isOpenAfter inTable (lines.take i) = true ∧
        rowWord.isPrefixOf line.trim ∧ Binding.ofLine line.trim (n + i) = some b := by
  simp only [mem_ofLines_iff, ofLine_eq_row_iff]

theorem row?_eq_some_iff {e : TableEvent} {b : Binding} : e.row? = some b ↔ e = row b := by
  cases e <;> simp [row?]

theorem le_line_of_mem_ofLines {inTable : Bool} {n : Nat} {lines : List Text} {b : Binding}
    (h : row b ∈ ofLines inTable n lines) : n ≤ b.line := by
  obtain ⟨i, line, -, -, -, hb⟩ := row_mem_ofLines_iff.mp h
  rw [Binding.line_of_ofLine hb]
  omega

theorem pairwise_line_ofLines (inTable : Bool) (n : Nat) (lines : List Text) :
    ((ofLines inTable n lines).filterMap (·.row?)).Pairwise (·.line < ·.line) := by
  induction lines generalizing inTable n with
  | nil => exact List.Pairwise.nil
  | cons first lines ih =>
    unfold ofLines
    dsimp only
    rw [List.filterMap_append, List.pairwise_append]
    refine ⟨?_, ih _ _, ?_⟩
    · cases ofLine inTable n first with
      | none => exact List.Pairwise.nil
      | some e => cases e <;> simp [row?]
    · intro a ha b hb
      obtain ⟨e, he, hea⟩ := List.mem_filterMap.mp ha
      obtain ⟨e', he', heb⟩ := List.mem_filterMap.mp hb
      rw [row?_eq_some_iff] at hea heb
      subst hea heb
      obtain ⟨-, -, hfirst⟩ := ofLine_eq_row_iff.mp (Option.mem_toList.mp he)
      have hlater := le_line_of_mem_ofLines he'
      rw [Binding.line_of_ofLine hfirst]
      omega

theorem isOpenAfter_concat (inTable : Bool) (lines : List Text) (line : Text) :
    isOpenAfter inTable (lines ++ [line]) = opensAt (isOpenAfter inTable lines) line := by
  simp [isOpenAfter]

/-- The events of lines and of those that follow, which find the table as the first ones leave it. -/
theorem ofLines_append (inTable : Bool) (n : Nat) (lines lines' : List Text) :
    ofLines inTable n (lines ++ lines') = ofLines inTable n lines ++
      ofLines (isOpenAfter inTable lines) (n + lines.length) lines' := by
  induction lines generalizing inTable n with
  | nil => rfl
  | cons line lines ih =>
    have hnumber : n + (line :: lines).length = n + 1 + lines.length := by
      rw [List.length_cons]
      omega
    rw [List.cons_append, ofLines, ofLines, ih, leavesOpen_ofLine, List.append_assoc, hnumber]
    rfl

theorem opensAt_of_declaration {line : Text} (hf : isForeign line) (hd : declares line)
    (inTable : Bool) : opensAt inTable line = ! inTable := by
  cases inTable <;> simp [opensAt, hf, hd]

/-- If no row declares the table, then it is open behind lines whose foreign ones end with an odd
number of declarations. -/
theorem isOpenAfter_iff_odd {lines : List Text}
    (h : ∀ line ∈ lines, rowWord.isPrefixOf line.trim → declares line = false) :
    isOpenAfter false lines = true ↔ Odd (declarationRun lines) := by
  induction lines using List.reverseRecOn with
  | nil => simp [isOpenAfter, declarationRun]
  | append_singleton lines line ih =>
    have ih := ih fun l hl => h l (List.mem_append_left _ hl)
    have hline := h line (by simp)
    rw [isOpenAfter_concat]
    unfold declarationRun at ih ⊢
    rw [List.filter_append]
    cases hf : isForeign line with
    | false =>
      have hd : declares line = false := by
        rcases isForeign_eq_false_iff.mp hf with hb | hr
        · exact not_declares_of_brace hb
        · exact hline hr
      have hsame : opensAt (isOpenAfter false lines) line = isOpenAfter false lines := by
        cases ho : isOpenAfter false lines <;> simp [opensAt, hf, hd]
      rw [hsame, List.filter_singleton, hf, cond_false, List.append_nil, ih]
    | true =>
      rw [List.filter_singleton, hf, cond_true]
      cases hd : declares line with
      | false =>
        rw [List.rtakeWhile_concat_neg _ _ _ (by simp [hd])]
        cases ho : isOpenAfter false lines <;> simp [opensAt, hf, hd]
      | true =>
        have hflip : opensAt (isOpenAfter false lines) line = ! isOpenAfter false lines :=
          opensAt_of_declaration hf hd _
        rw [List.rtakeWhile_concat_pos _ _ _ hd, List.length_append, List.length_singleton,
          Nat.odd_add_one, ← ih, hflip, Bool.not_eq_true', Bool.not_eq_true]

/-- Lines that are not foreign leave an open table open; a row among them may declare a closed
one. -/
theorem isOpenAfter_of_not_foreign {inTable : Bool} {lines : List Text}
    (h : ∀ line ∈ lines, isForeign line = false) :
    isOpenAfter inTable lines = true ↔ inTable = true ∨ ∃ line ∈ lines, declares line = true := by
  induction lines generalizing inTable with
  | nil => simp [isOpenAfter]
  | cons first lines ih =>
    have hrest : isOpenAfter inTable (first :: lines) =
        isOpenAfter (opensAt inTable first) lines := rfl
    rw [hrest, ih fun line hl => h line (List.mem_cons_of_mem first hl), List.exists_mem_cons_iff]
    have hfirst := h first (by simp)
    cases inTable <;> simp [opensAt, hfirst]

end TableEvent

namespace BindingMap

open TableEvent

theorem rows_ofLines (lines : List Text) :
    (ofLines lines).rows = (tableEvents lines).filterMap (·.row?) := rows_ofRows _

theorem mem_rows_iff {lines : List Text} {b : Binding} :
    b ∈ (ofLines lines).rows ↔
      ∃ i line, lines[i]? = some line ∧ isOpenAfter false (lines.take i) = true ∧
        rowWord.isPrefixOf line.trim ∧ Binding.ofLine line.trim (i + 1) = some b := by
  rw [rows_ofLines, List.mem_filterMap]
  simp only [row?_eq_some_iff, exists_eq_right]
  unfold tableEvents
  rw [row_mem_ofLines_iff]
  simp only [Nat.add_comm 1]

theorem wellFormed_of_mem_rows {lines : List Text} {b : Binding} (h : b ∈ (ofLines lines).rows) :
    b.WellFormed := by
  obtain ⟨i, line, -, -, -, hb⟩ := mem_rows_iff.mp h
  exact Binding.wellFormed_of_ofLine hb

theorem line_bounds_of_mem_rows {lines : List Text} {b : Binding} (h : b ∈ (ofLines lines).rows) :
    1 ≤ b.line ∧ b.line ≤ lines.length := by
  obtain ⟨i, line, hi, -, -, hb⟩ := mem_rows_iff.mp h
  have hlt := (List.getElem?_eq_some_iff.mp hi).1
  rw [Binding.line_of_ofLine hb]
  omega

/-- Rows come in the order of their lines, no two of them from one line. -/
theorem pairwise_line_rows (lines : List Text) :
    (ofLines lines).rows.Pairwise (·.line < ·.line) := by
  rw [rows_ofLines]
  exact pairwise_line_ofLines false 1 lines

/-- The rows of a source are those of its row lines before which the foreign lines end with an odd
number of declarations. They come in the order of their lines, each with the number of its own. -/
theorem mem_rows_iff_odd_declarationRun {lines : List Text}
    (h : ∀ line ∈ lines, rowWord.isPrefixOf line.trim → declares line = false) :
    (∀ i b, (b ∈ (ofLines lines).rows ∧ b.line = i + 1) ↔
      ∃ line, lines[i]? = some line ∧ rowWord.isPrefixOf line.trim ∧
        Binding.ofLine line.trim (i + 1) = some b ∧ Odd (declarationRun (lines.take i))) ∧
      (∀ b ∈ (ofLines lines).rows, 1 ≤ b.line ∧ b.line ≤ lines.length) ∧
      (ofLines lines).rows.Pairwise (·.line < ·.line) := by
  have hopen : ∀ i, isOpenAfter false (lines.take i) = true ↔
      Odd (declarationRun (lines.take i)) := fun i =>
    isOpenAfter_iff_odd fun line hl => h line (List.mem_of_mem_take hl)
  refine ⟨fun i b => ⟨?_, ?_⟩, fun b hb => line_bounds_of_mem_rows hb, pairwise_line_rows lines⟩
  · rintro ⟨hb, hi⟩
    obtain ⟨j, line, hj, ho, hr, hb⟩ := mem_rows_iff.mp hb
    have hij : j = i := by
      have := Binding.line_of_ofLine hb
      omega
    subst hij
    exact ⟨line, hj, hr, hb, (hopen j).mp ho⟩
  · rintro ⟨line, hi, hr, hb, ho⟩
    exact ⟨mem_rows_iff.mpr ⟨i, line, hi, (hopen i).mpr ho, hr, hb⟩, Binding.line_of_ofLine hb⟩

/-- A table that is declared again after it ended, with a malformed row and a brace inside. -/
def reopened : List Text :=
  ["static ev_binding_t HexenBindings[] =", "\x7b", "LINESPECNAMED(1, A, \"First\")", "\x7d;",
    "LINESPECNAMED(2, B, \"Second\")", "ev_binding_t HexenBindings[] =", "LINESPECNAMED(3, C)",
    "  LINESPECNAMED(4, D, \"Fourth\")  "]

theorem fourth_mem_rows_reopened :
    (∀ line ∈ reopened, rowWord.isPrefixOf line.trim → declares line = false) ∧
      (⟨⟨"4"⟩, "D", "Fourth", 8⟩ : Binding) ∈ (ofLines reopened).rows := by
  have h : ∀ line ∈ reopened, rowWord.isPrefixOf line.trim → declares line = false := by
    decide +kernel
  refine ⟨h, (((mem_rows_iff_odd_declarationRun h).1 7 _).mpr ?_).1⟩
  exact ⟨"  LINESPECNAMED(4, D, \"Fourth\")  ", by decide +kernel⟩

/-- A row line is read if and only if the table is open behind the lines before it. -/
theorem mem_rows_append_iff {earlier after : List Text} {line : Text} {b : Binding}
    (hrow : rowWord.isPrefixOf line.trim)
    (hb : Binding.ofLine line.trim (earlier.length + 1) = some b) :
    b ∈ (ofLines (earlier ++ line :: after)).rows ↔ isOpenAfter false earlier = true := by
  have htake : (earlier ++ line :: after).take earlier.length = earlier := List.take_left
  rw [mem_rows_iff]
  constructor
  · rintro ⟨i, line', -, ho, -, hb'⟩
    have hi : i = earlier.length := by
      have := Binding.line_of_ofLine hb
      have := Binding.line_of_ofLine hb'
      omega
    rwa [hi, htake] at ho
  · intro ho
    exact ⟨earlier.length, line, by simp, by rwa [htake], hrow, hb⟩

/-- The row of a declared table is read if and only if the table is not open already where it is
declared, or a row in between declares it once more. If no row before does so, it is open there
behind an odd number of declarations. -/
theorem declared_row_mem_rows_iff {before between after : List Text} {declaration line : Text}
    {b : Binding} (hforeign : isForeign declaration) (hdeclares : declares declaration)
    (hbetween : ∀ l ∈ between, isForeign l = false) (hrow : rowWord.isPrefixOf line.trim)
    (hb : Binding.ofLine line.trim (before.length + between.length + 2) = some b) :
    (b ∈ (ofLines (before ++ declaration :: between ++ line :: after)).rows ↔
        isOpenAfter false before = false ∨ ∃ l ∈ between, declares l = true) ∧
      ((∀ l ∈ before, rowWord.isPrefixOf l.trim → declares l = false) →
        (isOpenAfter false before = false ↔ Even (declarationRun before))) := by
  have hlength : (before ++ declaration :: between).length + 1 =
      before.length + between.length + 2 := by
    simp only [List.length_append, List.length_cons]
    omega
  have hsplit : isOpenAfter false (before ++ declaration :: between) =
      isOpenAfter (opensAt (isOpenAfter false before) declaration) between := by
    simp [isOpenAfter]
  constructor
  · rw [mem_rows_append_iff hrow (hlength ▸ hb), hsplit, isOpenAfter_of_not_foreign hbetween,
      opensAt_of_declaration hforeign hdeclares, Bool.not_eq_true']
  · intro h
    rw [← Bool.not_eq_true, isOpenAfter_iff_odd h, Nat.not_odd_iff_even]

/-- Declares the table of another source. -/
def forwardDeclaration : Text := "extern ev_binding_t HexenBindings[];"

/-- Declares the table that follows. -/
def tableDeclaration : Text := "ev_binding_t HexenBindings[] ="

/-- The one row of that table. -/
def doorRow : Text := "LINESPECNAMED(1, A, \"Door\")"

/-- A comment between the declarations ends what the first one opened. -/
theorem door_mem_rows_behind_comment :
    isForeign tableDeclaration ∧ declares tableDeclaration ∧
      (⟨⟨"1"⟩, "A", "Door", 5⟩ : Binding) ∈ (ofLines
        ([forwardDeclaration, "// see below"] ++ tableDeclaration :: [tableOpening] ++
          doorRow :: [])).rows := by
  refine ⟨by decide +kernel, by decide +kernel, ?_⟩
  exact (declared_row_mem_rows_iff (by decide +kernel) (by decide +kernel) (by decide +kernel)
    (by decide +kernel) (by decide +kernel)).1.mpr (Or.inl (by decide +kernel))

/-- Without the comment the table is declared all the same, and its row is not read. -/
theorem door_not_mem_rows_behind_declaration :
    isForeign tableDeclaration ∧ declares tableDeclaration ∧ isForeign tableOpening = false ∧
      rowWord.isPrefixOf doorRow.trim ∧
      Binding.ofLine doorRow.trim 4 = some ⟨⟨"1"⟩, "A", "Door", 4⟩ ∧
      (⟨⟨"1"⟩, "A", "Door", 4⟩ : Binding) ∉ (ofLines
        ([forwardDeclaration] ++ tableDeclaration :: [tableOpening] ++ doorRow :: [])).rows := by
  decide +kernel

end BindingMap

end LineSpecials
