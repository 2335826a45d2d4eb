import LineSpecials.Proofs.EntryFields

namespace LineSpecials.Table

/-- The entry of its written form, with or without blanks before the code. -/
def readEntry (t : Text) : Option Entry := do
  let (code, rest) ← t.splitOnce ':'
  let (name, rest) ← rest.splitOnce '('
  let (digits, _) ← rest.splitOnce ')'
  let arity ← digits.toNat?
  return ⟨⟨code.dropWhile (· == ' ')⟩, name, arity⟩

/-- A line without its tab and, in a sorted table, without the character it ends with. -/
def bareLine : TableStyle → Text → Text
  | .sorted, line => line.tail.dropLast
  | .streamed, line => line.tail

/-- The lines of a table below its header. What stands behind the last line break is no line. -/
def body (t : Text) : List Text := (t.splitWhen (· == '\n')).tail.dropLast

/-- The entries of a table's lines, if all of them can be read. -/
def read? (style : TableStyle) (t : Text) : Option (List Entry) :=
  ((body t).map (bareLine style)).mapM readEntry

theorem readEntry_written {code name : Text} (hcode : ':' ∉ code) (hname : '(' ∉ name)
    (arity : Nat) :
    readEntry (code ++ ':' :: name ++ '(' :: Text.ofNat arity ++ [')']) =
      some ⟨⟨code.dropWhile (· == ' ')⟩, name, arity⟩ := by
  have hdigits : ')' ∉ Text.ofNat arity := fun h => absurd (Text.isDigit_of_mem_ofNat h) (by decide)
  unfold readEntry
  simp only [List.append_assoc, List.cons_append]
  rw [Text.splitOnce_append hcode]
  dsimp only [Option.bind_eq_bind, Option.bind_some]
  rw [Text.splitOnce_append hname]
  dsimp only [Option.bind_some]
  rw [Text.splitOnce_append hdigits]
  dsimp only [Option.bind_some]
  rw [Text.toNat?_ofNat]
  rfl

theorem readEntry_display {e : Entry} (h : e.Clean) : readEntry e.display = some e := by
  have := readEntry_written h.colon_notin_code h.paren_notin_name e.arity
  rw [h.dropWhile_space_code] at this
  simpa [Entry.display, Entry.signature] using this

theorem readEntry_padded {e : Entry} (h : e.Clean) : readEntry e.padded = some e := by
  have hcolon : ':' ∉ e.code.padded := by
    simpa [Code.padded, Text.padLeft] using h.colon_notin_code
  have := readEntry_written hcolon h.paren_notin_name e.arity
  rw [h.dropWhile_space_padded] at this
  simpa [Entry.padded, Entry.signature] using this

theorem length_terminatedLines (es : List Entry) : (terminatedLines es).length = es.length := by
  fun_induction terminatedLines es with
  | case1 => rfl
  | case2 => rfl
  | case3 e e' es ih => rw [List.length_cons, ih]; rfl

theorem terminatedLines_getElem? (es : List Entry) (i : Nat) :
    (terminatedLines es)[i]? =
      es[i]?.map fun e => e.padded ++ [if i + 1 = es.length then ';' else ','] := by
  fun_induction terminatedLines es generalizing i with
  | case1 => simp
  | case2 e => cases i <;> simp
  | case3 e e' es ih =>
    cases i with
    | zero => simp
    | succ i => simpa using ih i

theorem dropLast_terminatedLines (es : List Entry) :
    (terminatedLines es).map List.dropLast = es.map Entry.padded := by
  fun_induction terminatedLines es with
  | case1 => rfl
  | case2 e => simp
  | case3 e e' es ih => rw [List.map_cons, ih, List.dropLast_concat]; rfl

theorem length_entryLines (t : Table) : t.entryLines.length = t.entries.length := by
  unfold entryLines
  split
  next => exact length_terminatedLines t.entries
  next => exact List.length_map _

theorem render_eq_ofLines (t : Table) :
    t.render = Text.ofLines (t.style.header :: t.entryLines.map ('\t' :: ·)) := by
  unfold render
  rw [Layout.each_line_text]
  simp [Layout.empty, Layout.line, Layout.indent, Text.ofLines, List.flatMap_map]

theorem newline_notin_signature {e : Entry} (h : e.Clean) : '\n' ∉ e.signature := by
  have hdigits : '\n' ∉ Text.ofNat e.arity := fun hm =>
    absurd (Text.isDigit_of_mem_ofNat hm) (by decide)
  have hname : '\n' ∉ e.name := fun hm => absurd (h.not_blank_of_mem_name '\n' hm) (by decide)
  simp [Entry.signature, hdigits, hname]

theorem newline_notin_display {e : Entry} (h : e.Clean) : '\n' ∉ e.display := by
  unfold Entry.display
  rw [List.mem_append]
  exact not_or.mpr ⟨h.newline_notin_code, newline_notin_signature h⟩

theorem newline_notin_padded {e : Entry} (h : e.Clean) : '\n' ∉ e.padded := by
  have hcode : '\n' ∉ e.code.padded := by
    simpa [Code.padded, Text.padLeft] using h.newline_notin_code
  unfold Entry.padded
  rw [List.mem_append]
  exact not_or.mpr ⟨hcode, newline_notin_signature h⟩

theorem newline_notin_entryLines {t : Table} (h : ∀ e ∈ t.entries, e.Clean) :
    ∀ l ∈ t.entryLines, '\n' ∉ l := by
  intro l hl
  unfold entryLines at hl
  split at hl
  next =>
    obtain ⟨i, hi⟩ := List.mem_iff_getElem?.mp hl
    rw [terminatedLines_getElem?] at hi
    obtain ⟨e, he, rfl⟩ := Option.map_eq_some_iff.mp hi
    have hpadded := newline_notin_padded (h e (List.mem_of_getElem? he))
    split <;> simp [hpadded]
  next =>
    obtain ⟨e, he, rfl⟩ := List.mem_map.mp hl
    exact newline_notin_display (h e he)

theorem mapM_readEntry {es : List Entry} {write : Entry → Text}
    (h : ∀ e ∈ es, readEntry (write e) = some e) : (es.map write).mapM readEntry = some es := by
  induction es with
  | nil => rfl
  | cons e es ih =>
    rw [List.map_cons, List.mapM_cons, h e (by simp),
      ih fun e' he => h e' (List.mem_cons_of_mem e he)]
    rfl

theorem newline_notin_lines {t : Table} (h : ∀ e ∈ t.entries, e.Clean) :
    ∀ l ∈ t.style.header :: t.entryLines.map ('\t' :: ·), '\n' ∉ l := by
  intro l hl
  rcases List.mem_cons.mp hl with rfl | hl
  · cases t.style <;> decide
  · obtain ⟨l', hl', rfl⟩ := List.mem_map.mp hl
    simpa using newline_notin_entryLines h l' hl'

theorem getLast?_of_sorted {t : Table} (hs : t.style = .sorted) {i : Nat} {l : Text}
    (h : (t.entryLines.map ('\t' :: ·))[i]? = some l) :
    l.getLast? = some (if i + 1 = t.entries.length then ';' else ',') := by
  rw [List.getElem?_map] at h
  obtain ⟨l', hl', rfl⟩ := Option.map_eq_some_iff.mp h
  unfold entryLines at hl'
  rw [hs] at hl'
  dsimp only at hl'
  rw [terminatedLines_getElem?] at hl'
  obtain ⟨e, -, rfl⟩ := Option.map_eq_some_iff.mp hl'
  rw [← List.cons_append, List.getLast?_concat]

theorem read?_render {t : Table} (h : ∀ e ∈ t.entries, e.Clean) :
    read? t.style t.render = some t.entries := by
  have hbody : body t.render = t.entryLines.map ('\t' :: ·) := by
    unfold body
    rw [render_eq_ofLines, Text.splitWhen_ofLines (newline_notin_lines h)]
    simp
  unfold read?
  rw [hbody, List.map_map]
  unfold entryLines
  cases t.style with
  | sorted =>
    change ((terminatedLines t.entries).map List.dropLast).mapM readEntry = _
    rw [dropLast_terminatedLines]
    exact mapM_readEntry fun e he => readEntry_padded (h e he)
  | streamed =>
    change ((t.entries.map Entry.display).map fun l => l).mapM readEntry = _
    rw [List.map_id']
    exact mapM_readEntry fun e he => readEntry_display (h e he)

theorem entries_eq_of_render_eq {t t' : Table} (h : ∀ e ∈ t.entries, e.Clean)
    (h' : ∀ e ∈ t'.entries, e.Clean) (hstyle : t'.style = t.style) (hr : t'.render = t.render) :
    t'.entries = t.entries := by
  have hread := read?_render h'
  rw [hstyle, hr, read?_render h] at hread
  exact (Option.some.inj hread).symm

/-- Every run ends well, and its table is a header and a line for each entry, which begins with a
tab and, in a sorted table, ends with a semicolon if it is the last and else with a comma. The
reader of tables gives back the entries, so two runs by blocks, or two by references, whose tables
are the same text have the same entries. -/
theorem run_table_reads_back (r : Request) :
    ∃ s, r.run = .ok s ∧
      (∃ lines, s.table.render = Text.ofLines (s.table.style.header :: lines) ∧
        lines.length = s.entries.length ∧
        (∀ l ∈ s.table.style.header :: lines, '\n' ∉ l) ∧
        (∀ l ∈ lines, l.head? = some '\t') ∧
        (s.table.style = .sorted → ∀ i l, lines[i]? = some l →
          l.getLast? = some (if i + 1 = s.entries.length then ';' else ','))) ∧
      read? s.table.style s.table.render = some s.entries ∧
      ∀ (r' : Request) (s' : RunState), r'.run = .ok s' →
        r'.bindings.isSome = r.bindings.isSome → s'.table.render = s.table.render →
        s'.entries = s.entries := by
  have hclean : ∀ q : Request, ∀ e ∈ q.finished.table.entries, e.Clean := fun q e he =>
    Request.clean_of_mem_entries he
  refine ⟨r.finished, r.run_eq, ?_, read?_render (hclean r), ?_⟩
  · refine ⟨_, render_eq_ofLines _, ?_, newline_notin_lines (hclean r), ?_, ?_⟩
    · rw [List.length_map, length_entryLines]
      rfl
    · intro l hl
      obtain ⟨l', -, rfl⟩ := List.mem_map.mp hl
      rfl
    · exact fun hs i l hl => getLast?_of_sorted hs hl
  · intro r' s' hrun hmode hrender
    rw [r'.run_eq] at hrun
    cases Except.ok.inj hrun
    have hstyle : r'.finished.table.style = r.finished.table.style := by
      change r'.style = r.style
      unfold Request.style
      cases hb : r.bindings <;> cases hb' : r'.bindings <;> simp_all
    exact entries_eq_of_render_eq (hclean r) (hclean r') hstyle hrender

end LineSpecials.Table
