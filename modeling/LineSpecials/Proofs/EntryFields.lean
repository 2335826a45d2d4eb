import LineSpecials.Proofs.BlockGrammar
import LineSpecials.Proofs.RunOutcome
import LineSpecials.Proofs.TableState

namespace LineSpecials

/-- An entry whose code is trimmed and has neither a colon nor a line break, and whose name has
neither a parenthesis nor a blank. -/
structure Entry.Clean (e : Entry) : Prop where
  code_trimmed : e.code.text.trim = e.code.text
  colon_notin_code : ':' ∉ e.code.text
  newline_notin_code : '\n' ∉ e.code.text
  paren_notin_name : '(' ∉ e.name
  not_blank_of_mem_name : ∀ c ∈ e.name, isBlank c = false

namespace Entry.Clean

variable {e : Entry}

theorem dropWhile_space_code (h : e.Clean) : e.code.text.dropWhile (· == ' ') = e.code.text := by
  cases hc : e.code.text with
  | nil => rfl
  | cons c r =>
    have hb : isBlank c = false := by
      apply Text.not_blank_of_head?_trim (t := e.code.text)
      rw [h.code_trimmed, hc]
      rfl
    apply List.dropWhile_cons_of_neg
    simp only [beq_iff_eq]
    rintro rfl
    exact absurd hb (by decide)

theorem dropWhile_space_padded (h : e.Clean) :
    e.code.padded.dropWhile (· == ' ') = e.code.text := by
  unfold Code.padded Text.padLeft
  rw [List.dropWhile_append_of_pos (by simp), h.dropWhile_space_code]

end Entry.Clean

namespace Block

theorem colon_notin_codeOn {line : Text} (h : fitsCode line) : ':' ∉ (codeOn line).text := by
  have hcut := Text.splitWhen_of_count_one (by simpa [fitsCode] using h : line.count ':' = 1)
  have htail : (line.dropWhile (· != ':')).tail ∈ line.splitWhen (· == ':') := by simp [hcut]
  intro hm
  simpa using Text.not_of_mem_splitWhen htail ':' (Text.mem_of_mem_trim hm)

theorem subset_of_codeOn (line : Text) : (codeOn line).text ⊆ line := by
  intro c hc
  exact (List.dropWhile_sublist _).subset (List.mem_of_mem_tail (Text.mem_of_mem_trim hc))

theorem not_blank_of_mem_nameOn {line : Text} {c : Char} (h : c ∈ nameOn line) :
    isBlank c = false := by
  have hc : c ∈ line.tokens.getD 2 [] := List.takeWhile_subset _ h
  rw [List.getD_eq_getElem?_getD] at hc
  cases ht : line.tokens[2]? with
  | none => simp [ht] at hc
  | some token =>
    rw [ht] at hc
    exact Text.not_blank_of_mem_tokens (List.mem_of_getElem? ht) c hc

theorem paren_notin_nameOn (line : Text) : '(' ∉ nameOn line := by
  intro h
  simpa using List.mem_takeWhile_imp h

theorem clean_of_mem_entries {lines : List Text} (hlines : ∀ l ∈ lines, '\n' ∉ l) {e : Entry}
    (h : e ∈ entries lines) : e.Clean := by
  rw [entries_eq_map] at h
  obtain ⟨i, hi, rfl⟩ := List.mem_map.mp h
  obtain ⟨codeLine, hc, hfits⟩ := fits_of_mem_starts hi (j := 5) rfl
  have hcode : (entryAt lines i).code = codeOn codeLine := by
    simp [entryAt, List.getD_eq_getElem?_getD, hc]
  constructor
  · rw [hcode]
    exact Text.trim_trim _
  · rw [hcode]
    exact colon_notin_codeOn hfits
  · rw [hcode]
    exact fun hn => hlines codeLine (List.mem_of_getElem? hc) (subset_of_codeOn codeLine hn)
  · exact paren_notin_nameOn _
  · exact fun c hc => not_blank_of_mem_nameOn hc

end Block

namespace ScanResult

theorem exists_ofLine_of_mem_references {n k : Nat} {lines : List Text} {ref : Reference}
    (h : (k, ref) ∈ references n lines) : ∃ line ∈ lines, Reference.ofLine line = some ref := by
  induction lines generalizing n with
  | nil => simp [references] at h
  | cons line lines ih =>
    rcases List.mem_append.mp h with h | h
    · obtain ⟨ref', hr, he⟩ := Option.map_eq_some_iff.mp (Option.mem_toList.mp h)
      cases he
      exact ⟨line, by simp, hr⟩
    · obtain ⟨line', hm, hr⟩ := ih h
      exact ⟨line', List.mem_cons_of_mem line hm, hr⟩

theorem nameChars_of_ofLine {line : Text} {ref : Reference} (h : Reference.ofLine line = some ref) :
    ∀ c ∈ ref.name, isNameChar c := by
  unfold Reference.ofLine at h
  dsimp only at h
  split at h
  next =>
    obtain ⟨rest, -, h⟩ := Option.bind_eq_some_iff.mp h
    obtain ⟨name, hname, h⟩ := Option.bind_eq_some_iff.mp h
    obtain ⟨args, -, h⟩ := Option.bind_eq_some_iff.mp h
    cases Option.some.inj h
    exact (Text.leadingWord_eq_some hname).2
  next => simp at h

theorem clean_of_mem_ofReferences {source lines : List Text} {e : Entry}
    (h : e ∈ (ofReferences (BindingMap.ofLines source) lines).entries) : e.Clean := by
  obtain ⟨⟨k, ref⟩, hr, he⟩ := List.mem_filterMap.mp h
  obtain ⟨code, hcode, rfl⟩ := Option.map_eq_some_iff.mp he
  obtain ⟨b, hb, -, rfl⟩ := BindingMap.code?_ofRows_eq_some hcode
  have hmem : b ∈ (BindingMap.ofLines source).rows := by
    unfold BindingMap.ofLines
    rwa [BindingMap.rows_ofRows]
  have hrow := BindingMap.wellFormed_of_mem_rows hmem
  obtain ⟨line, -, hline⟩ := exists_ofLine_of_mem_references hr
  have hname := nameChars_of_ofLine hline
  have hdigit := hrow.code_digits
  have hblank : ∀ c ∈ b.code.text, isBlank c = false := fun c hc => not_blank_of_digit (hdigit c hc)
  constructor
  · apply Text.trim_eq_self
    · exact fun c hc => hblank c (List.mem_of_head? hc)
    · exact fun c hc => hblank c (List.mem_of_getLast? hc)
  · exact fun hc => absurd (hdigit ':' hc) (by decide)
  · exact fun hc => absurd (hdigit '\n' hc) (by decide)
  · exact fun hc => absurd (hname '(' hc) (by decide)
  · exact fun c hc => not_blank_of_nameChar (hname c hc)

/-- Whatever a scan finds is clean. -/
theorem clean_of_mem_ofSource {bindings : Option (List Text)} {s : Source} {e : Entry}
    (h : e ∈ (ofSource (bindings.map BindingMap.ofLines) s).entries) : e.Clean := by
  cases bindings with
  | none => exact Block.clean_of_mem_entries (fun l hl => Text.newline_notin_of_mem_lines hl) h
  | some source => exact clean_of_mem_ofReferences h

end ScanResult

theorem Request.clean_of_mem_entries {r : Request} {e : Entry} (h : e ∈ r.finished.entries) :
    e.Clean := by
  have hfound : r.found =
      ScanResult.ofSource ((r.bindings.map Source.lines).map BindingMap.ofLines) r.actions := by
    rw [Option.map_map]
    rfl
  rw [mem_entries_finished, hfound] at h
  exact ScanResult.clean_of_mem_ofSource h

end LineSpecials
