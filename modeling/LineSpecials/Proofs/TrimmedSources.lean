import LineSpecials.Proofs.ReportAgreement
import LineSpecials.Proofs.TableState
import LineSpecials.Proofs.Text.TrimmedLines

namespace LineSpecials

open Text (ReadsTrimmed)

namespace Block

theorem step_trim (cur : Cursor) (line : Text) : cur.step line.trim = cur.step line := by
  have hdivider : isDivider line.trim = isDivider line := by
    unfold isDivider
    rw [Text.trim_trim]
  have haction : action? line.trim = action? line := by
    unfold action?
    rw [Text.trim_trim]
  have hsignature : signature? line.trim = signature? line := by
    unfold signature?
    rw [Text.trim_trim]
  have hmarker : isMarker line.trim = isMarker line := by
    unfold isMarker
    rw [Text.trim_trim]
  have hcode : code? line.trim = code? line := by
    unfold code?
    rw [Text.trim_trim]
  cases cur with
  | opening => rw [Cursor.step, Cursor.step, hdivider]
  | action => rw [Cursor.step, Cursor.step, haction]
  | closing handler => rw [Cursor.step, Cursor.step, hdivider]
  | signature handler => rw [Cursor.step, Cursor.step, hsignature]
  | marker name arity => rw [Cursor.step, Cursor.step, hmarker]
  | code name arity => rw [Cursor.step, Cursor.step, hcode]

/-- A blank line ends the block under way. -/
theorem step_nil (cur : Cursor) : cur.step [] = (.opening, none) := by
  cases cur <;> rfl

theorem readsTrimmed_entries (cur : Cursor) : ReadsTrimmed cur.entries where
  map_trim ls := by
    induction ls generalizing cur with
    | nil => rfl
    | cons line ls ih => rw [List.map_cons, Cursor.entries, Cursor.entries, step_trim, ih]
  append_blank ls := by
    induction ls generalizing cur with
    | nil =>
      change (cur.step []).2.toList ++ (cur.step []).1.entries [] = []
      rw [step_nil]
      rfl
    | cons line ls ih => rw [List.cons_append, Cursor.entries, Cursor.entries, ih]

end Block

namespace ScanResult

theorem ofLine_trim (line : Text) : Reference.ofLine line.trim = Reference.ofLine line := by
  unfold Reference.ofLine
  rw [Text.trim_trim]

theorem readsTrimmed_references (n : Nat) : ReadsTrimmed (references n) where
  map_trim ls := by
    induction ls generalizing n with
    | nil => rfl
    | cons line ls ih => rw [List.map_cons, references, references, ofLine_trim, ih]
  append_blank ls := by
    induction ls generalizing n with
    | nil => rfl
    | cons line ls ih => rw [List.cons_append, references, references, ih]

end ScanResult

namespace BindingMap

theorem tableEvents_map_trim (inTable : Bool) (n : Nat) (ls : List Text) :
    TableEvent.ofLines inTable n (ls.map Text.trim) = TableEvent.ofLines inTable n ls := by
  have hline : ∀ inTable n line,
      TableEvent.ofLine inTable n (Text.trim line) = TableEvent.ofLine inTable n line := by
    intro inTable n line
    unfold TableEvent.ofLine
    rw [Text.trim_trim]
  induction ls generalizing inTable n with
  | nil => rfl
  | cons line ls ih => rw [List.map_cons, TableEvent.ofLines, TableEvent.ofLines, hline, ih]

/-- A blank line may end the table, but it is no row. -/
theorem readsTrimmed_ofLines : ReadsTrimmed ofLines where
  map_trim ls := by
    unfold ofLines tableEvents
    rw [tableEvents_map_trim]
  append_blank ls := by
    have hblank : ∀ inTable n, (TableEvent.ofLines inTable n [[]]).filterMap (·.row?) = [] := by
      intro inTable n
      cases inTable <;> rfl
    unfold ofLines tableEvents
    rw [TableEvent.ofLines_append, List.filterMap_append, hblank, List.append_nil]

end BindingMap

/-- Sources with one path whose lines agree up to blanks around them and blank lines at the end. -/
structure Source.Agrees (a b : Source) : Prop where
  path_eq : a.path = b.path
  lines_eq : a.content.trimmedLines = b.content.trimmedLines

/-- Requests that differ in blanks around the lines of their sources at most. -/
structure Request.Agrees (r r' : Request) : Prop where
  actions : r.actions.Agrees r'.actions
  bindings : Option.Rel Source.Agrees r.bindings r'.bindings
  denyEmpty_eq : r.denyEmpty = r'.denyEmpty

theorem ScanResult.ofSource_eq_of_agrees {a b : Source} (h : a.Agrees b)
    (bindings : Option BindingMap) : ofSource bindings a = ofSource bindings b := by
  cases bindings with
  | none =>
    have hentries : Block.entries a.lines = Block.entries b.lines :=
      (Block.readsTrimmed_entries .opening).read_lines_eq h.lines_eq
    change ofBlocks a.lines = ofBlocks b.lines
    unfold ofBlocks
    rw [hentries]
  | some m =>
    have hreferences : references 1 a.lines = references 1 b.lines :=
      (readsTrimmed_references 1).read_lines_eq h.lines_eq
    change ofReferences m a.lines = ofReferences m b.lines
    unfold ofReferences
    rw [hreferences]

namespace Request

variable {r r' : Request}

theorem map_eq_of_agrees {α : Type} {f : Source → α} (hf : ∀ {a b}, Source.Agrees a b → f a = f b)
    {o o' : Option Source} (h : Option.Rel Source.Agrees o o') : o.map f = o'.map f := by
  cases h with
  | none => rfl
  | some hsource => exact congrArg some (hf hsource)

namespace Agrees

theorem path_eq (h : r.Agrees r') : r.bindings.map (·.path) = r'.bindings.map (·.path) :=
  map_eq_of_agrees (fun hsource => hsource.path_eq) h.bindings

theorem bindingMap?_eq (h : r.Agrees r') : Phase.bindingMap? r = Phase.bindingMap? r' :=
  map_eq_of_agrees
    (fun hsource => BindingMap.readsTrimmed_ofLines.read_lines_eq hsource.lines_eq) h.bindings

theorem found_eq (h : r.Agrees r') : r.found = r'.found := by
  unfold found
  rw [h.bindingMap?_eq, ScanResult.ofSource_eq_of_agrees h.actions]

theorem style_eq (h : r.Agrees r') : r.style = r'.style := by
  have hstyle : ∀ q : Request, q.style =
      match q.bindings.map (·.path) with
      | none => .sorted
      | some _ => .streamed := by
    intro q
    unfold style
    cases q.bindings <;> rfl
  rw [hstyle, hstyle, h.path_eq]

theorem entries_eq (h : r.Agrees r') : r.finished.entries = r'.finished.entries := by
  unfold finished
  rw [h.style_eq, h.found_eq]

theorem diagnostics_eq (h : r.Agrees r') : r.finished.diagnostics = r'.finished.diagnostics := by
  have hempty : Phase.emptyTable r = Phase.emptyTable r' := by
    unfold Phase.emptyTable
    rw [h.denyEmpty_eq, h.actions.path_eq]
  rw [diagnostics_finished, diagnostics_finished, h.path_eq, h.bindingMap?_eq, h.found_eq,
    h.actions.path_eq, hempty]

theorem emission_eq (h : r.Agrees r') (echo : Bool) :
    Emission.ofState r.finished echo = Emission.ofState r'.finished echo := by
  have hbindings : r.finished.bindings = r'.finished.bindings := h.bindingMap?_eq
  have htable : r.finished.table = r'.finished.table := by
    unfold RunState.table
    rw [h.entries_eq]
    exact congrArg (Table.mk · _) h.style_eq
  have hpath : r.finished.request.actions.path = r'.finished.request.actions.path :=
    h.actions.path_eq
  unfold Emission.ofState RunState.diagnosticsOf
  rw [hbindings, htable, hpath, h.entries_eq, h.diagnostics_eq]

theorem check_eq (h : r.Agrees r') :
    CheckReport.ofState r.finished = CheckReport.ofState r'.finished := by
  have hbindings : r.finished.bindings = r'.finished.bindings := h.bindingMap?_eq
  have hstyle : r.finished.request.style = r'.finished.request.style := h.style_eq
  have hpath : r.finished.request.actions.path = r'.finished.request.actions.path :=
    h.actions.path_eq
  have hpaths : r.finished.request.bindings.map (·.path) =
      r'.finished.request.bindings.map (·.path) := h.path_eq
  unfold CheckReport.ofState
  rw [hbindings, hstyle, hpath, hpaths, h.entries_eq, h.diagnostics_eq]

end Agrees

/-- Sources whose lines agree up to blanks around them and blank lines at the end have the same
entries, diagnostics and reports. Such are a text and the same with other line endings, with or
without the last line feed, and with more or fewer blanks at the ends of its lines. -/
theorem reports_eq_up_to_blanks :
    (∀ r r' : Request, r.Agrees r' → ∀ echo, ∃ s s' emission check,
      r.run = .ok s ∧ r'.run = .ok s' ∧ s.entries = s'.entries ∧ s.diagnostics = s'.diagnostics ∧
      Emission.ofRequest r echo = .ok emission ∧ Emission.ofRequest r' echo = .ok emission ∧
      CheckReport.ofRequest r = .ok check ∧ CheckReport.ofRequest r' = .ok check) ∧
    (∀ t : Text, t.withReturns.trimmedLines = t.trimmedLines) ∧
    (∀ t : Text, Text.trimmedLines (t ++ ['\n']) = t.trimmedLines) ∧
    ∀ t t' : Text, List.Forall₂ Text.Widens (t.splitWhen (· == '\n')) (t'.splitWhen (· == '\n')) →
      t'.trimmedLines = t.trimmedLines := by
  refine ⟨?_, Text.trimmedLines_withReturns, Text.trimmedLines_append_newline,
    fun t t' => Text.trimmedLines_of_widens⟩
  intro r r' h echo
  refine ⟨r.finished, r'.finished, Emission.ofState r.finished echo,
    CheckReport.ofState r.finished, r.run_eq, r'.run_eq, h.entries_eq, h.diagnostics_eq,
    r.emission_eq echo, ?_, r.check_eq, ?_⟩
  · rw [r'.emission_eq, h.emission_eq]
  · rw [r'.check_eq, h.check_eq]

/-- Two references, of which one has no binding. -/
def plainDoors : Request where
  actions := ⟨"a.c", "// Implements Door(tag)\n// Implements Gate()"⟩
  bindings := some ⟨"b.c", "ev_binding_t HexenBindings[] =\nLINESPECNAMED(1, A, \"Door\")\n"⟩
  denyEmpty := true

/-- The same with other line endings, indented and with lines at the end. -/
def indentedDoors : Request where
  actions := ⟨"a.c", "\t// Implements Door(tag)\r\n  // Implements Gate() \r\n\r\n \n"⟩
  bindings := some ⟨"b.c",
    "ev_binding_t HexenBindings[] =\r\n  LINESPECNAMED(1, A, \"Door\")\u00a0\r\n\n"⟩
  denyEmpty := true

theorem indentedDoors_reports :
    plainDoors.Agrees indentedDoors ∧
      (∃ s s' emission check, plainDoors.run = .ok s ∧ indentedDoors.run = .ok s' ∧
        s.entries = s'.entries ∧ s.diagnostics = s'.diagnostics ∧
        Emission.ofRequest plainDoors true = .ok emission ∧
        Emission.ofRequest indentedDoors true = .ok emission ∧
        CheckReport.ofRequest plainDoors = .ok check ∧
        CheckReport.ofRequest indentedDoors = .ok check) ∧
      Text.trimmedLines "\ta\u3000\n b" = Text.trimmedLines "a\nb" := by
  have hagrees : plainDoors.Agrees indentedDoors :=
    ⟨⟨rfl, by decide +kernel⟩, .some ⟨rfl, by decide +kernel⟩, rfl⟩
  have hwidens : List.Forall₂ Text.Widens (Text.splitWhen (· == '\n') "a\nb")
      (Text.splitWhen (· == '\n') "\ta\u3000\n b") :=
    .cons ⟨"\t", "\u3000", rfl, rfl, rfl⟩ (.cons ⟨" ", "", rfl, rfl, rfl⟩ .nil)
  exact ⟨hagrees, reports_eq_up_to_blanks.1 _ _ hagrees true,
    reports_eq_up_to_blanks.2.2.2 _ _ hwidens⟩

end Request

end LineSpecials
