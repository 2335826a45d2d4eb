import LineSpecials.Proofs.TableState
import LineSpecials.Proofs.Text.Trimming

namespace LineSpecials

/-- Blanks and a comma do not go on with a run of a class that has neither. -/
theorem not_of_head?_append {p : Char → Bool} (hblank : ∀ c, isBlank c → p c = false)
    (hcomma : p ',' = false) {b : Text} (hb : b.isAllBlank) (t : Text) :
    ∀ c, (b ++ ',' :: t).head? = some c → p c = false := by
  intro c hc
  cases b with
  | nil =>
    cases Option.some.inj hc
    exact hcomma
  | cons d s =>
    cases Option.some.inj hc
    exact hblank c (List.all_eq_true.mp hb c (by simp))

namespace Binding

theorem firstNumber_append {a w q : Text} (ha : ∀ c ∈ a, isDecimalDigit c = false) (hne : w ≠ [])
    (hw : ∀ c ∈ w, isDecimalDigit c) (hq : ∀ c, q.head? = some c → isDecimalDigit c = false) :
    firstNumber (a ++ (w ++ q)) = some w := by
  obtain ⟨c, r, hdrop, htake⟩ := Text.first_run_append ha hne hw hq
  unfold firstNumber
  rw [hdrop]
  exact congrArg some htake

theorem closedName_append {w : Text} (hne : w ≠ []) (hw : ∀ c ∈ w, isNameChar c) (q : Text) :
    closedName (w ++ '"' :: q) = some w := by
  obtain ⟨c, r, rfl⟩ := List.exists_cons_of_ne_nil hne
  have hquote : ¬ isNameChar '"' := by decide
  unfold closedName
  rw [List.takeWhile_append_of_pos hw, List.dropWhile_append_of_pos hw,
    List.takeWhile_cons_of_neg hquote, List.dropWhile_cons_of_neg hquote, List.append_nil]
  rfl

/-- A name between quotes is found if no quote stands before it. -/
theorem quotedName_append {a w : Text} (ha : '"' ∉ a) (hne : w ≠ []) (hw : ∀ c ∈ w, isNameChar c)
    (q : Text) : quotedName (a ++ '"' :: (w ++ '"' :: q)) = some w := by
  induction a with
  | nil =>
    rw [List.nil_append, quotedName, if_pos rfl, closedName_append hne hw]
    rfl
  | cons c r ih =>
    have hc : c ≠ '"' := fun hc => ha (by simp [hc])
    rw [List.cons_append, quotedName, if_neg hc, ih fun hr => ha (List.mem_cons_of_mem c hr)]

end Binding

/-- The parts of a row of the written form: an indentation, the word for rows with a parenthesis,
a code, an identifier and a quoted name with commas and blanks between them, and what follows. -/
structure WrittenRow where
  indent : Text
  beforeCode : Text
  code : Text
  afterCode : Text
  beforeIdentifier : Text
  identifier : Text
  afterIdentifier : Text
  beforeName : Text
  name : Text
  rest : Text
  indent_blank : indent.isAllBlank := by decide
  beforeCode_blank : beforeCode.isAllBlank := by decide
  code_ne_nil : code ≠ [] := by decide
  code_digits : code.all isDecimalDigit := by decide
  afterCode_blank : afterCode.isAllBlank := by decide
  beforeIdentifier_blank : beforeIdentifier.isAllBlank := by decide
  identifier_ne_nil : identifier ≠ [] := by decide
  identifier_chars : identifier.all isNameChar := by decide
  afterIdentifier_blank : afterIdentifier.isAllBlank := by decide
  beforeName_blank : beforeName.isAllBlank := by decide
  name_ne_nil : name ≠ [] := by decide
  name_chars : name.all isNameChar := by decide

namespace WrittenRow

/-- What the row says, on a line of the given number. -/
def binding (r : WrittenRow) (number : Nat) : Binding :=
  ⟨⟨r.code⟩, r.identifier, r.name, number⟩

/-- The row up to its code and the blanks behind that. -/
def codePart (r : WrittenRow) : Text :=
  rowWord ++ '(' :: (r.beforeCode ++ (r.code ++ r.afterCode))

/-- The identifier of the row with the blanks around it. -/
def identifierPart (r : WrittenRow) : Text :=
  r.beforeIdentifier ++ (r.identifier ++ r.afterIdentifier)

/-- The row up to the quote that closes its name, without the indentation. -/
def fields (r : WrittenRow) : Text :=
  r.codePart ++ ',' :: (r.identifierPart ++ ',' :: (r.beforeName ++ '"' :: (r.name ++ ['"'])))

/-- The line that the parts make up. -/
def text (r : WrittenRow) : Text := r.indent ++ (r.fields ++ r.rest)

variable (r : WrittenRow)

theorem not_digit_before_code :
    ∀ c ∈ rowWord ++ '(' :: r.beforeCode, isDecimalDigit c = false := by
  have hword : rowWord.all fun c => !isDecimalDigit c := by decide
  intro c hc
  rcases List.mem_append.mp hc with hc | hc
  · simpa using List.all_eq_true.mp hword c hc
  · rcases List.mem_cons.mp hc with rfl | hc
    · decide
    · exact not_digit_of_blank (List.all_eq_true.mp r.beforeCode_blank c hc)

theorem notin_codePart {c : Char} (hword : c ∉ rowWord) (hparen : c ≠ '(')
    (hblank : isBlank c = false) (hdigit : isDecimalDigit c = false) : c ∉ r.codePart := by
  simp only [codePart, List.mem_append, List.mem_cons, not_or]
  refine ⟨hword, hparen, fun hc => ?_, fun hc => ?_, fun hc => ?_⟩
  · simp [List.all_eq_true.mp r.beforeCode_blank c hc] at hblank
  · simp [List.all_eq_true.mp r.code_digits c hc] at hdigit
  · simp [List.all_eq_true.mp r.afterCode_blank c hc] at hblank

theorem quote_notin_identifierPart : '"' ∉ r.identifierPart := by
  simp only [identifierPart, List.mem_append, not_or]
  refine ⟨fun hc => ?_, fun hc => ?_, fun hc => ?_⟩
  · exact absurd (List.all_eq_true.mp r.beforeIdentifier_blank _ hc) (by decide)
  · exact absurd (List.all_eq_true.mp r.identifier_chars _ hc) (by decide)
  · exact absurd (List.all_eq_true.mp r.afterIdentifier_blank _ hc) (by decide)

theorem firstNumber_fields (q : Text) : Binding.firstNumber (r.fields ++ q) = some r.code := by
  have hsplit : r.fields ++ q = (rowWord ++ '(' :: r.beforeCode) ++ (r.code ++
      (r.afterCode ++ ',' :: (r.identifierPart ++ ',' :: (r.beforeName ++
        '"' :: (r.name ++ '"' :: q))))) := by
    simp [fields, codePart]
  rw [hsplit]
  exact Binding.firstNumber_append r.not_digit_before_code r.code_ne_nil
    (List.all_eq_true.mp r.code_digits)
    (not_of_head?_append (fun _ => not_digit_of_blank) (by decide) r.afterCode_blank _)

theorem splitOnce_fields (q : Text) : Text.splitOnce ',' (r.fields ++ q) =
    some (r.codePart, r.identifierPart ++ ',' :: (r.beforeName ++ '"' :: (r.name ++ '"' :: q))) := by
  have hcomma : ',' ∉ r.codePart := r.notin_codePart (by decide) (by decide) (by decide) (by decide)
  rw [← Text.splitOnce_append hcomma]
  simp [fields]

theorem leadingWord_identifierPart (t : Text) :
    Text.leadingWord (r.identifierPart ++ ',' :: t) = some r.identifier := by
  unfold identifierPart
  rw [List.append_assoc, List.append_assoc]
  exact Text.leadingWord_append
    (fun c hc => not_nameChar_of_blank (List.all_eq_true.mp r.beforeIdentifier_blank c hc))
    r.identifier_ne_nil (List.all_eq_true.mp r.identifier_chars)
    (not_of_head?_append (fun _ => not_nameChar_of_blank) (by decide) r.afterIdentifier_blank t)

theorem quotedName_fields (q : Text) : Binding.quotedName (r.fields ++ q) = some r.name := by
  have hquote : '"' ∉ r.codePart ++ ',' :: (r.identifierPart ++ ',' :: r.beforeName) := by
    simp only [List.mem_append, List.mem_cons, not_or]
    refine ⟨r.notin_codePart (by decide) (by decide) (by decide) (by decide), by decide,
      r.quote_notin_identifierPart, by decide, fun hc => ?_⟩
    exact absurd (List.all_eq_true.mp r.beforeName_blank _ hc) (by decide)
  rw [← Binding.quotedName_append hquote r.name_ne_nil (List.all_eq_true.mp r.name_chars) q]
  simp [fields]

/-- Whatever follows its fields, a row is read as what it says. -/
theorem ofLine_fields (q : Text) (number : Nat) :
    Binding.ofLine (r.fields ++ q) number = some (r.binding number) :=
  Binding.ofLine_eq_some_iff.mpr ⟨r.firstNumber_fields q,
    ⟨_, _, r.splitOnce_fields q, r.leadingWord_identifierPart _⟩, r.quotedName_fields q, rfl⟩

theorem trim_text : r.text.trim = r.fields ++ r.rest.trimEnd := by
  have hfirst : r.fields.head? = some 'L' := rfl
  have hlast : r.fields.getLast? = some '"' := by
    have hend : r.fields = (r.codePart ++ ',' :: (r.identifierPart ++ ',' ::
        (r.beforeName ++ '"' :: r.name))) ++ ['"'] := by
      simp [fields]
    rw [hend, List.getLast?_concat]
  unfold text
  rw [Text.trim_blank_append (List.all_eq_true.mp r.indent_blank)]
  apply Text.trim_append_of_ends
  · exact List.ne_nil_of_mem (List.mem_of_mem_head? hfirst)
  · intro c hc
    rw [hfirst] at hc
    cases Option.some.inj hc
    decide
  · intro c hc
    rw [hlast] at hc
    cases Option.some.inj hc
    decide

theorem ofLine_text (number : Nat) :
    Binding.ofLine r.text.trim number = some (r.binding number) := by
  rw [trim_text, ofLine_fields]

theorem rowWord_prefix_text : rowWord.isPrefixOf r.text.trim := by
  rw [trim_text, List.isPrefixOf_iff_prefix]
  unfold fields codePart
  simp only [List.append_assoc, List.prefix_append]

end WrittenRow

/-- A line of a source with written tables: a row of one of them, or any other line. -/
inductive WrittenLine
  | row (r : WrittenRow)
  | other (line : Text)

namespace WrittenLine

def text : WrittenLine → Text
  | row r => r.text
  | other line => line

def row? : WrittenLine → Option WrittenRow
  | row r => some r
  | other _ => none

/-- What the rows among lines say, each with the number of its line; the first line has number
`n`. -/
def bindings (n : Nat) (ls : List WrittenLine) : List Binding :=
  (ls.zipIdx n).filterMap fun p => p.1.row?.map (·.binding p.2)

theorem bindings_append (n : Nat) (ls ls' : List WrittenLine) :
    bindings n (ls ++ ls') = bindings n ls ++ bindings (n + ls.length) ls' := by
  unfold bindings
  rw [List.zipIdx_append, List.filterMap_append]

end WrittenLine

open TableEvent in
/-- A table as it is written. -/
structure WrittenTable where
  declaration : Text
  braces : List Text
  rows : List WrittenRow
  closing : Text
  declaration_declares : declares declaration
  brace_trim : ∀ line ∈ braces, line.trim = tableOpening
  closing_foreign : isForeign closing
  closing_not_declares : declares closing = false

def WrittenTable.lines (t : WrittenTable) : List WrittenLine :=
  .other t.declaration :: (t.braces.map .other ++ (t.rows.map .row ++ [.other t.closing]))

/-- A part of a source: lines that declare no table, or a table. -/
inductive WrittenPart
  | stretch (lines : List Text) (h : ∀ line ∈ lines, TableEvent.declares line = false)
  | table (t : WrittenTable)

def WrittenPart.lines : WrittenPart → List WrittenLine
  | stretch lines _ => lines.map .other
  | table t => t.lines

namespace WrittenLine

open TableEvent

/-- Lines are read back: they lead from a table that is open or not to one that is open or not, and
the rows read are those among the lines, wherever these stand. -/
structure Reads (inTable : Bool) (ls : List WrittenLine) (leavesOpen : Bool) : Prop where
  isOpenAfter_eq : isOpenAfter inTable (ls.map text) = leavesOpen
  rows_eq : ∀ n, (ofLines inTable n (ls.map text)).filterMap (·.row?) = bindings n ls

theorem Reads.nil (inTable : Bool) : Reads inTable [] inTable := ⟨rfl, fun _ => rfl⟩

theorem Reads.append {a b c : Bool} {ls ls' : List WrittenLine} (h : Reads a ls b)
    (h' : Reads b ls' c) : Reads a (ls ++ ls') c := by
  constructor
  · have h1 := h.isOpenAfter_eq
    have h2 := h'.isOpenAfter_eq
    unfold isOpenAfter at *
    rw [List.map_append, List.foldl_append, h1, h2]
  · intro n
    rw [List.map_append, ofLines_append, List.filterMap_append, h.rows_eq, h.isOpenAfter_eq,
      h'.rows_eq, List.length_map, bindings_append]

theorem Reads.flatMap {α : Type} {inTable : Bool} {f : α → List WrittenLine} {xs : List α}
    (h : ∀ x ∈ xs, Reads inTable (f x) inTable) : Reads inTable (xs.flatMap f) inTable := by
  induction xs with
  | nil => exact Reads.nil inTable
  | cons x xs ih =>
    rw [List.flatMap_cons]
    exact (h x (by simp)).append (ih fun y hy => h y (List.mem_cons_of_mem x hy))

theorem Reads.map {α : Type} {inTable : Bool} {f : α → WrittenLine} {xs : List α}
    (h : ∀ x ∈ xs, Reads inTable [f x] inTable) : Reads inTable (xs.map f) inTable := by
  rw [List.map_eq_flatMap]
  exact Reads.flatMap h

theorem reads_row (r : WrittenRow) : Reads true [row r] true := by
  have hevent : ∀ n, ofLine true n r.text = some (TableEvent.row (r.binding n)) := fun n =>
    ofLine_eq_row_iff.mpr ⟨rfl, r.rowWord_prefix_text, r.ofLine_text n⟩
  constructor
  · have hf : isForeign r.text = false :=
      isForeign_eq_false_iff.mpr (Or.inr r.rowWord_prefix_text)
    simp [isOpenAfter, opensAt, text, hf]
  · intro n
    simp [ofLines, text, hevent, bindings, row?, TableEvent.row?]

theorem reads_other {inTable : Bool} {line : Text}
    (h : inTable = false ∨ rowWord.isPrefixOf line.trim = false) :
    Reads inTable [other line] (opensAt inTable line) := by
  constructor
  · rfl
  · intro n
    have hnone : (ofLine inTable n line).toList.filterMap TableEvent.row? = [] := by
      rw [List.filterMap_eq_nil_iff]
      intro e he
      by_contra hrow
      obtain ⟨b, hb⟩ := Option.ne_none_iff_exists'.mp hrow
      rw [row?_eq_some_iff.mp hb, Option.mem_toList, ofLine_eq_row_iff] at he
      rcases h with h | h
      · simp [he.1] at h
      · simp [he.2.1] at h
    change ((ofLine inTable n line).toList ++ []).filterMap TableEvent.row? = []
    rw [List.append_nil, hnone]

theorem reads_closed {line : Text} (h : declares line = false) :
    Reads false [other line] false := by
  have hread : Reads false [other line] (opensAt false line) := reads_other (Or.inl rfl)
  rwa [opensAt, if_neg (by simp), h] at hread

theorem reads_declaration {line : Text} (h : declares line) : Reads false [other line] true := by
  have hread : Reads false [other line] (opensAt false line) := reads_other (Or.inl rfl)
  rwa [opensAt, if_neg (by simp), h] at hread

theorem reads_brace {line : Text} (h : line.trim = tableOpening) :
    Reads true [other line] true := by
  have hbrace : rowWord.isPrefixOf line.trim = false := by
    rw [h]
    decide
  have hread : Reads true [other line] (opensAt true line) := reads_other (Or.inr hbrace)
  rwa [opensAt, if_pos rfl, isForeign_eq_false_iff.mpr (Or.inl h)] at hread

theorem reads_closing {line : Text} (h : isForeign line) : Reads true [other line] false := by
  have hrow : rowWord.isPrefixOf line.trim = false := by
    have hforeign := h
    rw [isForeign, Bool.and_eq_true, Bool.not_eq_true'] at hforeign
    exact hforeign.2
  have hread : Reads true [other line] (opensAt true line) := reads_other (Or.inr hrow)
  rwa [opensAt, if_pos rfl, h] at hread

theorem reads_table (t : WrittenTable) : Reads false t.lines false :=
  (reads_declaration t.declaration_declares).append <|
    (Reads.map fun line hl => reads_brace (t.brace_trim line hl)).append <|
      (Reads.map fun r _ => reads_row r).append (reads_closing t.closing_foreign)

theorem reads_part (p : WrittenPart) : Reads false p.lines false := by
  cases p with
  | stretch lines h => exact Reads.map fun line hl => reads_closed (h line hl)
  | table t => exact reads_table t

end WrittenLine

/-- A source of written tables, and of other lines that declare none, is read back completely. Its
rows are those of the tables in their order, with their codes, identifiers and names, each with
the number of its line; what looks like a row outside the tables is not among them. -/
theorem BindingMap.rows_of_written (parts : List WrittenPart) :
    (ofLines ((parts.flatMap WrittenPart.lines).map WrittenLine.text)).rows =
      WrittenLine.bindings 1 (parts.flatMap WrittenPart.lines) := by
  have hreads : WrittenLine.Reads false (parts.flatMap WrittenPart.lines) false :=
    WrittenLine.Reads.flatMap fun p _ => WrittenLine.reads_part p
  rw [rows_ofLines]
  exact hreads.rows_eq 1

/-- A row with numbers, commas and quotes behind its name. -/
def doorCloseRow : WrittenRow where
  indent := "   "
  beforeCode := "\t"
  code := "10"
  afterCode := []
  beforeIdentifier := "\t"
  identifier := "EV_ActionCloseDoor"
  afterIdentifier := []
  beforeName := "\t"
  name := "Door_Close"
  rest := "), // 11, \"Door\" "

/-- A table with that row. -/
def doorTable : WrittenTable where
  declaration := "ev_binding_t HexenBindings[] ="
  braces := ["\x7b"]
  rows := [doorCloseRow]
  closing := "\x7d;"
  declaration_declares := by decide +kernel
  brace_trim := by decide +kernel
  closing_foreign := by decide +kernel
  closing_not_declares := by decide +kernel

/-- A row outside of any table, and two tables. -/
def doorParts : List WrittenPart :=
  [.stretch ["LINESPECNAMED(9, Z, \"Lost\")"] (by decide +kernel), .table doorTable,
    .table doorTable]

theorem rows_of_doorParts :
    (doorParts.flatMap WrittenPart.lines).map WrittenLine.text =
        ["LINESPECNAMED(9, Z, \"Lost\")",
          "ev_binding_t HexenBindings[] =", "\x7b",
          "   LINESPECNAMED(\t10,\tEV_ActionCloseDoor,\t\"Door_Close\"), // 11, \"Door\" ", "\x7d;",
          "ev_binding_t HexenBindings[] =", "\x7b",
          "   LINESPECNAMED(\t10,\tEV_ActionCloseDoor,\t\"Door_Close\"), // 11, \"Door\" ", "\x7d;"] ∧
      (BindingMap.ofLines ((doorParts.flatMap WrittenPart.lines).map WrittenLine.text)).rows =
        [⟨⟨"10"⟩, "EV_ActionCloseDoor", "Door_Close", 4⟩,
          ⟨⟨"10"⟩, "EV_ActionCloseDoor", "Door_Close", 8⟩] :=
  ⟨by decide +kernel, (BindingMap.rows_of_written doorParts).trans (by decide +kernel)⟩

end LineSpecials
