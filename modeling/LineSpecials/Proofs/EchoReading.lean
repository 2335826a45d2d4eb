import LineSpecials.Proofs.ReportAgreement
import LineSpecials.Proofs.TableReading

namespace LineSpecials

namespace Binding

/-- What an echo tells of a row. -/
def words (b : Binding) : List Text := [b.code.text, b.identifier, b.name]

/-- Rows with the same words have the same fields, up to the lines they are on. -/
theorem map_fields_eq_of_map_words_eq {as bs : List Binding} (h : as.map words = bs.map words) :
    as.map (fun b => (b.code, b.identifier, b.name)) =
      bs.map fun b => (b.code, b.identifier, b.name) := by
  have hinj : Function.Injective fun f : Code × Text × Text => [f.1.text, f.2.1, f.2.2] := by
    rintro ⟨⟨code⟩, identifier, name⟩ ⟨⟨code'⟩, identifier', name'⟩ heq
    simpa using heq
  have hwords : ∀ rows : List Binding, rows.map words =
      (rows.map fun b => (b.code, b.identifier, b.name)).map fun f => [f.1.text, f.2.1, f.2.2] := by
    intro rows
    rw [List.map_map]
    rfl
  rw [hwords, hwords] at h
  exact List.map_injective_iff.mpr hinj h

variable {b : Binding}

theorem WellFormed.not_blank_of_mem_words (hb : b.WellFormed) {w : Text} (hw : w ∈ b.words) :
    ∀ c ∈ w, isBlank c = false := by
  intro c hc
  rcases (by simpa [words] using hw : w = b.code.text ∨ w = b.identifier ∨ w = b.name) with
    rfl | rfl | rfl
  · exact not_blank_of_digit (hb.code_digits c hc)
  · exact not_blank_of_nameChar (hb.identifier_chars c hc)
  · exact not_blank_of_nameChar (hb.name_chars c hc)

/-- The words of an echoed row are its tokens. -/
theorem WellFormed.tokens_echo (hb : b.WellFormed) : b.echo.tokens = b.words := by
  have hspace : isBlank ' ' = true := by decide
  have hcode : b.code.text.tokens = [b.code.text] :=
    Text.tokens_of_not_blank hb.code_ne_nil (hb.not_blank_of_mem_words (by simp [words]))
  have hidentifier : b.identifier.tokens = [b.identifier] :=
    Text.tokens_of_not_blank hb.identifier_ne_nil (hb.not_blank_of_mem_words (by simp [words]))
  have hname : b.name.tokens = [b.name] :=
    Text.tokens_of_not_blank hb.name_ne_nil (hb.not_blank_of_mem_words (by simp [words]))
  unfold echo
  rw [Text.tokens_append_cons hspace, Text.tokens_append_cons hspace, hcode, hidentifier, hname]
  rfl

theorem WellFormed.newline_notin_echo (hb : b.WellFormed) : '\n' ∉ b.echo := by
  have hword : ∀ w ∈ b.words, '\n' ∉ w := by
    intro w hw hn
    exact absurd (hb.not_blank_of_mem_words hw '\n' hn) (by decide)
  have hcode := hword b.code.text (by simp [words])
  have hidentifier := hword b.identifier (by simp [words])
  have hname := hword b.name (by simp [words])
  simp [echo, hcode, hidentifier, hname]

theorem echo_ne_header (b : Binding) (style : TableStyle) : b.echo ≠ style.header := by
  intro h
  have hspace : ' ' ∈ style.header := by
    rw [← h]
    simp [echo]
  cases style <;> exact absurd hspace (by decide)

end Binding

theorem Request.clean_of_mem_table (r : Request) : ∀ e ∈ r.finished.table.entries, e.Clean :=
  fun _ he => clean_of_mem_entries he

namespace Chunk

theorem stdout_append (as bs : List Chunk) : stdout (as ++ bs) = stdout as ++ stdout bs :=
  List.flatMap_append

theorem stdout_map_out {α : Type} (f : α → Text) (l : List α) :
    stdout (l.map fun a => .out (f a)) = l.flatMap f :=
  List.flatMap_map _ _ l

theorem stdout_map_err {α : Type} (f : α → Text) (l : List α) :
    stdout (l.map fun a => .err (f a)) = [] := by
  induction l with
  | nil => rfl
  | cons a l ih => exact ih

end Chunk

namespace Emission

/-- What printing a report puts on standard output. -/
def stdout (e : Emission) : Text := Chunk.stdout (e.output.map Output.chunk)

/-- The tokens of the lines before the first header line. -/
def tokensBeforeHeader (t : Text) : List (List Text) :=
  ((t.splitWhen (· == '\n')).takeWhile (· != TableStyle.streamed.header)).map Text.tokens

/-- What begins at the first header line. -/
def fromHeader (t : Text) : Text :=
  ['\n'].intercalate ((t.splitWhen (· == '\n')).dropWhile (· != TableStyle.streamed.header))

theorem stdout_eq (e : Emission) : e.stdout = Text.ofLines e.echo ++ e.table := by
  have hwarnings : ∀ ws : List Text,
      Chunk.stdout ((ws.map fun w => Output.warning ("warning: ".toList ++ w)).map Output.chunk) =
        [] := by
    intro ws
    rw [List.map_map]
    exact Chunk.stdout_map_err _ ws
  have hecho : ∀ ls : List Text,
      Chunk.stdout ((ls.map Output.preformatted).map Output.chunk) = Text.ofLines ls := by
    intro ls
    rw [List.map_map]
    exact Chunk.stdout_map_out _ ls
  have htable : Chunk.stdout ([Output.raw e.table].map Output.chunk) = e.table := List.append_nil _
  unfold stdout output
  rw [List.map_append, List.map_append, Chunk.stdout_append, Chunk.stdout_append, hwarnings, hecho,
    List.nil_append, htable]

theorem intercalate_splitWhen (t : Text) : ['\n'].intercalate (t.splitWhen (· == '\n')) = t := by
  rw [Text.splitWhen_eq_splitOnP]
  exact List.intercalate_splitOn '\n'

section Echoed

variable {rows : List Binding} {t : Table}

/-- Neither part breaks a line of the other: the table begins with a header of its own. -/
theorem splitWhen_echoed (hrows : ∀ b ∈ rows, b.WellFormed) (hstyle : t.style = .streamed)
    (hentries : ∀ e ∈ t.entries, e.Clean) :
    (Text.ofLines (rows.map Binding.echo) ++ t.render).splitWhen (· == '\n') =
      rows.map Binding.echo ++
        TableStyle.streamed.header :: (t.entryLines.map ('\t' :: ·) ++ [[]]) := by
  have htable := Table.newline_notin_lines hentries
  have hrender := t.render_eq_ofLines
  rw [hstyle] at htable hrender
  have hlines : ∀ l ∈ rows.map Binding.echo ++
      TableStyle.streamed.header :: t.entryLines.map ('\t' :: ·), '\n' ∉ l := by
    intro l hl
    rcases List.mem_append.mp hl with hl | hl
    · obtain ⟨b, hb, rfl⟩ := List.mem_map.mp hl
      exact (hrows b hb).newline_notin_echo
    · exact htable l hl
  have hjoin : Text.ofLines (rows.map Binding.echo) ++ t.render = Text.ofLines
      (rows.map Binding.echo ++ TableStyle.streamed.header :: t.entryLines.map ('\t' :: ·)) := by
    rw [hrender]
    exact List.flatMap_append.symm
  rw [hjoin, Text.splitWhen_ofLines hlines, List.append_assoc, List.cons_append]

theorem echo_bne_header :
    ∀ l ∈ rows.map Binding.echo, (l != TableStyle.streamed.header) = true := by
  intro l hl
  obtain ⟨b, -, rfl⟩ := List.mem_map.mp hl
  exact bne_iff_ne.mpr (b.echo_ne_header .streamed)

theorem tokensBeforeHeader_echoed (hrows : ∀ b ∈ rows, b.WellFormed)
    (hstyle : t.style = .streamed) (hentries : ∀ e ∈ t.entries, e.Clean) :
    tokensBeforeHeader (Text.ofLines (rows.map Binding.echo) ++ t.render) =
      rows.map Binding.words := by
  unfold tokensBeforeHeader
  rw [splitWhen_echoed hrows hstyle hentries, List.takeWhile_append_of_pos echo_bne_header,
    List.takeWhile_cons_of_neg (by simp), List.append_nil, List.map_map]
  exact List.map_congr_left fun b hb => (hrows b hb).tokens_echo

theorem fromHeader_echoed (hrows : ∀ b ∈ rows, b.WellFormed)
    (hstyle : t.style = .streamed) (hentries : ∀ e ∈ t.entries, e.Clean) :
    fromHeader (Text.ofLines (rows.map Binding.echo) ++ t.render) = t.render := by
  have hnone : ∀ b ∈ ([] : List Binding), b.WellFormed := by simp
  have htable : t.render.splitWhen (· == '\n') =
      TableStyle.streamed.header :: (t.entryLines.map ('\t' :: ·) ++ [[]]) :=
    splitWhen_echoed hnone hstyle hentries
  unfold fromHeader
  rw [splitWhen_echoed hrows hstyle hentries, List.dropWhile_append_of_pos echo_bne_header,
    List.dropWhile_cons_of_neg (by simp), ← htable, intercalate_splitWhen]

end Echoed

section ByReferences

variable {r : Request} {source : Source}

theorem stdout_finished (hr : r.bindings = some source) :
    (ofState r.finished true).stdout =
      Text.ofLines ((BindingMap.ofLines source.lines).rows.map Binding.echo) ++
        r.finished.table.render := by
  have hmap : r.finished.bindings = some (BindingMap.ofLines source.lines) :=
    congrArg (Option.map fun s : Source => BindingMap.ofLines s.lines) hr
  rw [stdout_eq]
  unfold ofState
  rw [hmap]
  rfl

theorem style_finished (hr : r.bindings = some source) :
    r.finished.table.style = .streamed := by
  change r.style = .streamed
  unfold Request.style
  rw [hr]

theorem tokensBeforeHeader_finished (hr : r.bindings = some source) :
    tokensBeforeHeader (ofState r.finished true).stdout =
      (BindingMap.ofLines source.lines).rows.map Binding.words := by
  rw [stdout_finished hr]
  exact tokensBeforeHeader_echoed (fun b => BindingMap.wellFormed_of_mem_rows) (style_finished hr)
    r.clean_of_mem_table

theorem fromHeader_finished (hr : r.bindings = some source) :
    fromHeader (ofState r.finished true).stdout = r.finished.table.render := by
  rw [stdout_finished hr]
  exact fromHeader_echoed (fun b => BindingMap.wellFormed_of_mem_rows) (style_finished hr)
    r.clean_of_mem_table

end ByReferences

/-- The output of a run by references that echoes its rows can be read back. The lines before the
first header line have the words of the rows as their tokens, and what begins there is the output
of the same run without the echo, which is its table. So of two such runs with the same output the
rows have the same codes, identifiers and names, and the entries are the same. -/
theorem stdout_reads_back (actions source : Source) (denyEmpty : Bool) :
    ∃ s loud quiet,
      Request.run ⟨actions, some source, denyEmpty⟩ = .ok s ∧
      s.bindings = some (BindingMap.ofLines source.lines) ∧
      ofRequest ⟨actions, some source, denyEmpty⟩ true = .ok loud ∧
      ofRequest ⟨actions, some source, denyEmpty⟩ false = .ok quiet ∧
      tokensBeforeHeader loud.stdout =
        (BindingMap.ofLines source.lines).rows.map Binding.words ∧
      fromHeader loud.stdout = quiet.stdout ∧
      quiet.stdout = s.table.render ∧
      ∀ (actions' source' : Source) (denyEmpty' : Bool) (s' : RunState) (loud' : Emission),
        Request.run ⟨actions', some source', denyEmpty'⟩ = .ok s' →
        ofRequest ⟨actions', some source', denyEmpty'⟩ true = .ok loud' →
        loud'.stdout = loud.stdout →
        (BindingMap.ofLines source'.lines).rows.map (fun b => (b.code, b.identifier, b.name)) =
            (BindingMap.ofLines source.lines).rows.map (fun b => (b.code, b.identifier, b.name)) ∧
          s'.entries = s.entries := by
  have hquiet : (ofState (Request.finished ⟨actions, some source, denyEmpty⟩) false).stdout =
      (Request.finished ⟨actions, some source, denyEmpty⟩).table.render := stdout_eq _
  refine ⟨_, _, _, Request.run_eq _, rfl, Request.emission_eq _ true, Request.emission_eq _ false,
    tokensBeforeHeader_finished rfl, ?_, hquiet, ?_⟩
  · rw [hquiet, fromHeader_finished rfl]
  · intro actions' source' denyEmpty' s' loud' hrun hloud hsame
    rw [Request.run_eq] at hrun
    rw [Request.emission_eq] at hloud
    cases Except.ok.inj hrun
    cases Except.ok.inj hloud
    constructor
    · have hwords := congrArg tokensBeforeHeader hsame
      rw [tokensBeforeHeader_finished rfl, tokensBeforeHeader_finished rfl] at hwords
      exact Binding.map_fields_eq_of_map_words_eq hwords
    · have htable := congrArg fromHeader hsame
      rw [fromHeader_finished rfl, fromHeader_finished rfl] at htable
      have hclean := Request.clean_of_mem_table ⟨actions, some source, denyEmpty⟩
      have hclean' := Request.clean_of_mem_table ⟨actions', some source', denyEmpty'⟩
      exact Table.entries_eq_of_render_eq hclean hclean' rfl htable

/-- A reference to a row. -/
def doorActions : Source := ⟨"a.c", "// Implements Door(tag)"⟩

/-- A table with one row. -/
def doorRow : Source :=
  ⟨"b.c", "ev_binding_t HexenBindings[] =\nLINESPECNAMED(1, A, \"Door\")"⟩

/-- The same row on another line, laid out differently. -/
def relaidDoorRow : Source :=
  ⟨"b.c", "ev_binding_t\tHexenBindings[] =\n\x7b\n  LINESPECNAMED( 1 , A , \"Door\" ),\n"⟩

theorem relaidDoorRow_stdout :
    ∃ s s' loud loud', Request.run ⟨doorActions, some doorRow, true⟩ = .ok s ∧
      Request.run ⟨doorActions, some relaidDoorRow, false⟩ = .ok s' ∧
      ofRequest ⟨doorActions, some doorRow, true⟩ true = .ok loud ∧
      ofRequest ⟨doorActions, some relaidDoorRow, false⟩ true = .ok loud' ∧
      loud.stdout = "1 A Door\nspecial\n\t1:Door(1)\n".toList ∧ loud'.stdout = loud.stdout ∧
      (BindingMap.ofLines relaidDoorRow.lines).rows.map (fun b => (b.code, b.identifier, b.name)) =
        (BindingMap.ofLines doorRow.lines).rows.map (fun b => (b.code, b.identifier, b.name)) ∧
      s'.entries = s.entries := by
  obtain ⟨s, loud, quiet, hrun, -, hloud, -, -, -, -, hothers⟩ :=
    stdout_reads_back doorActions doorRow true
  have hrun' := Request.run_eq ⟨doorActions, some relaidDoorRow, false⟩
  have hloud' := Request.emission_eq ⟨doorActions, some relaidDoorRow, false⟩ true
  have hemission := Request.emission_eq ⟨doorActions, some doorRow, true⟩ true
  rw [hloud] at hemission
  cases Except.ok.inj hemission
  have hsame : (ofState (Request.finished ⟨doorActions, some relaidDoorRow, false⟩) true).stdout =
      (ofState (Request.finished ⟨doorActions, some doorRow, true⟩) true).stdout := by
    decide +kernel
  exact ⟨s, _, _, _, hrun, hrun', hloud, hloud', by decide +kernel, hsame,
    hothers doorActions relaidDoorRow false _ _ hrun' hloud' hsame⟩

end Emission

end LineSpecials
