import LineSpecials.Proofs.BlockGrammar
import LineSpecials.Proofs.Text.Words
import LineSpecials.Scan
import Mathlib.Data.List.Sort

namespace LineSpecials

/-- The parts of a signature line of the documented form, from the comment sign on: the word
`Implements` between blanks, a name, arguments in parentheses, and what follows them. -/
structure Signature where
  lead : Text
  gap : Text
  name : Text
  args : Text
  rest : Text
  lead_ne_nil : lead ≠ [] := by decide
  lead_blank : lead.isAllBlank := by decide
  gap_ne_nil : gap ≠ [] := by decide
  gap_blank : gap.isAllBlank := by decide
  name_ne_nil : name ≠ [] := by decide
  name_chars : name.all isNameChar := by decide
  close_notin_args : ')' ∉ args := by decide
  comma_notin_rest : ',' ∉ rest := by decide

/-- The line that the parts make up. -/
def Signature.text (s : Signature) : Text :=
  "//".toList ++ (s.lead ++ ("Implements".toList ++ (s.gap ++ (s.name ++
    '(' :: (s.args ++ ')' :: s.rest)))))

namespace Reference

theorem fold_ne_of_blank {c : Char} (h : isBlank c) : fold c ≠ 'i' := by
  have hname := not_nameChar_of_blank h
  intro hi
  unfold fold at hi
  split at hi
  next => simp at hi
  next =>
    unfold Char.toLower at hi
    split at hi
    next hu =>
      have hupper : c.isUpper := decide_eq_true hu
      change (((c.isUpper || c.isLower) || c.isDigit) || c == '_') = false at hname
      simp [hupper] at hname
    next => simp [hi, isNameChar] at hname

/-- Characters that do not begin the keyword are passed over. -/
theorem afterKeyword_append {p : Text} (hp : ∀ c ∈ p, fold c ≠ 'i') (t : Text) :
    afterKeyword (p ++ t) = afterKeyword t := by
  induction p with
  | nil => rfl
  | cons c r ih =>
    -- The first letter of the keyword is enough to tell that it does not stand here.
    have hk : keyword = 'i' :: "mplements".toList := rfl
    have hc : ('i' == fold c) = false := by simpa using Ne.symm (hp c (by simp))
    rw [List.cons_append, afterKeyword, hk, List.map_cons, List.isPrefixOf_cons_cons, hc,
      Bool.false_and, if_neg (by decide), ih fun d hd => hp d (List.mem_cons_of_mem c hd)]

theorem afterKeyword_keyword (t : Text) : afterKeyword ("Implements".toList ++ t) = some t := by
  have hword : keyword = "Implements".toList.map fold := rfl
  have hpre : keyword.isPrefixOf (("Implements".toList ++ t).map fold) := by
    rw [List.map_append, hword]
    exact List.isPrefixOf_iff_prefix.mpr (List.prefix_append _ _)
  change (if keyword.isPrefixOf (("Implements".toList ++ t).map fold) then _ else _) = _
  rw [if_pos hpre]
  rfl

theorem argumentText_append {a args : Text} (ha : '(' ∉ a) (hargs : ')' ∉ args) (t : Text) :
    argumentText (a ++ '(' :: (args ++ ')' :: t)) = some args := by
  unfold argumentText
  rw [Text.splitOnce_append ha]
  dsimp only
  rw [Text.splitOnce_append hargs]
  rfl

end Reference

namespace Signature

variable {line : Text} (s : Signature)

theorem blank_of_mem_lead {c : Char} (h : c ∈ s.lead) : isBlank c :=
  List.all_eq_true.mp s.lead_blank c h

theorem blank_of_mem_gap {c : Char} (h : c ∈ s.gap) : isBlank c :=
  List.all_eq_true.mp s.gap_blank c h

theorem nameChar_of_mem_name {c : Char} (h : c ∈ s.name) : isNameChar c :=
  List.all_eq_true.mp s.name_chars c h

theorem not_blank_of_mem_head {c : Char} (h : c ∈ s.name ++ ['(']) : isBlank c = false := by
  rcases List.mem_append.mp h with h | h
  · exact not_blank_of_nameChar (s.nameChar_of_mem_name h)
  · rw [List.mem_singleton.mp h]
    decide

theorem paren_notin_name : '(' ∉ s.name :=
  fun h => absurd (s.nameChar_of_mem_name h) (by decide)

/-- The third token of a signature line begins with the name and the parenthesis. -/
theorem exists_tokens_eq : ∃ v ts,
    s.text.tokens = "//".toList :: "Implements".toList :: ((s.name ++ ['(']) ++ v) :: ts := by
  obtain ⟨v, ts, h⟩ := Text.exists_tokens_eq_cons (w := s.name ++ ['(']) (by simp)
    (fun c hc => s.not_blank_of_mem_head hc) (s.args ++ ')' :: s.rest)
  have hsign : ∀ c ∈ "//".toList, isBlank c = false := by simp [isBlank]
  have hword : ∀ c ∈ "Implements".toList, isBlank c = false := by simp [isBlank]
  refine ⟨v, ts, ?_⟩
  rw [List.append_assoc] at h
  unfold text
  rw [Text.tokens_word_append (by decide) hsign s.lead_ne_nil fun c hc => s.blank_of_mem_lead hc,
    Text.tokens_word_append (by decide) hword s.gap_ne_nil fun c hc => s.blank_of_mem_gap hc]
  exact congrArg _ (congrArg _ h)

theorem nameOn_eq (h : line.trim = s.text) : Block.nameOn line = s.name := by
  obtain ⟨v, ts, ht⟩ := s.exists_tokens_eq
  have hname : ∀ c ∈ s.name, (c != '(') = true := by
    intro c hc
    simpa using ne_of_mem_of_not_mem hc s.paren_notin_name
  unfold Block.nameOn
  rw [← Text.tokens_trim, h, ht]
  change List.takeWhile _ ((s.name ++ ['(']) ++ v) = s.name
  rw [List.append_assoc, List.takeWhile_append_of_pos hname]
  simp

/-- Only the arguments have commas. -/
theorem arityOn_eq (h : line.trim = s.text) : Block.arityOn line = s.args.segmentCount := by
  have hlead : s.lead.count ',' = 0 :=
    List.count_eq_zero.mpr fun hc => absurd (s.blank_of_mem_lead hc) (by decide)
  have hgap : s.gap.count ',' = 0 :=
    List.count_eq_zero.mpr fun hc => absurd (s.blank_of_mem_gap hc) (by decide)
  have hname : s.name.count ',' = 0 :=
    List.count_eq_zero.mpr fun hc => absurd (s.nameChar_of_mem_name hc) (by decide)
  have hrest : s.rest.count ',' = 0 := List.count_eq_zero.mpr s.comma_notin_rest
  unfold Block.arityOn Text.segmentCount
  rw [h]
  simp [text, hlead, hgap, hname, hrest]

theorem arityOn_of_blank (h : line.trim = s.text) (hargs : s.args.isAllBlank) :
    Block.arityOn line = 1 := by
  have hc : ',' ∉ s.args := fun hc => absurd (List.all_eq_true.mp hargs ',' hc) (by decide)
  rw [s.arityOn_eq h, Text.segmentCount, List.count_eq_zero.mpr hc]

theorem afterKeyword_text : Reference.afterKeyword s.text =
    some (s.gap ++ (s.name ++ '(' :: (s.args ++ ')' :: s.rest))) := by
  have hsign : ∀ c ∈ "//".toList, Reference.fold c ≠ 'i' := by simp [Reference.fold]
  have hlead : ∀ c ∈ s.lead, Reference.fold c ≠ 'i' := fun c hc =>
    Reference.fold_ne_of_blank (s.blank_of_mem_lead hc)
  unfold text
  rw [Reference.afterKeyword_append hsign, Reference.afterKeyword_append hlead,
    Reference.afterKeyword_keyword]

theorem leadingWord_after_keyword :
    Text.leadingWord (s.gap ++ (s.name ++ '(' :: (s.args ++ ')' :: s.rest))) = some s.name := by
  apply Text.leadingWord_append _ s.name_ne_nil fun c hc => s.nameChar_of_mem_name hc
  · intro c hc
    cases Option.some.inj hc
    decide
  · exact fun c hc => not_nameChar_of_blank (s.blank_of_mem_gap hc)

theorem argumentText_text : Reference.argumentText s.text = some s.args := by
  have hparen : '(' ∉ "//".toList ++ (s.lead ++ ("Implements".toList ++ (s.gap ++ s.name))) := by
    simp only [List.mem_append, not_or]
    refine ⟨by decide, fun hc => ?_, by decide, fun hc => ?_, s.paren_notin_name⟩
    · exact absurd (s.blank_of_mem_lead hc) (by decide)
    · exact absurd (s.blank_of_mem_gap hc) (by decide)
  rw [← Reference.argumentText_append hparen s.close_notin_args s.rest]
  simp [text]

/-- The reference on a signature line. -/
theorem ofLine_eq (h : line.trim = s.text) :
    Reference.ofLine line = some ⟨s.name, Reference.arityOf s.args⟩ := by
  have hpre : Reference.commentSign.isPrefixOf s.text := by
    rw [List.isPrefixOf_iff_prefix]
    exact List.prefix_append _ _
  unfold Reference.ofLine
  dsimp only
  rw [h, if_pos hpre, s.afterKeyword_text, Option.bind_eq_bind, Option.bind_some,
    s.leadingWord_after_keyword, Option.bind_some, s.argumentText_text]
  rfl

end Signature

/-- What is kept of the numbers below a bound, if only those of an increasing list are kept. -/
theorem filterMap_range_eq {α : Type} {f : Nat → Option α} {ps : List Nat} {n : Nat}
    (hps : ps.Pairwise (· < ·)) (hlt : ∀ j ∈ ps, j < n)
    (honly : ∀ j < n, (f j).isSome → j ∈ ps) : (List.range n).filterMap f = ps.filterMap f := by
  have hfilter : (List.range n).filter (· ∈ ps) = ps := by
    apply (List.pairwise_lt_range.filter _).eq_of_mem_iff hps
    intro j
    simp only [List.mem_filter, List.mem_range, decide_eq_true_eq, and_iff_right_iff_imp]
    exact hlt j
  conv_rhs => rw [← hfilter, List.filterMap_filter]
  apply List.filterMap_congr
  intro j hj
  split
  next => rfl
  next hn =>
    apply Option.not_isSome_iff_eq_none.mp
    exact fun hs => hn (by simpa using honly j (List.mem_range.mp hj) hs)

namespace ScanResult

theorem references_eq (n : Nat) (lines : List Text) :
    references n lines = (List.range lines.length).filterMap fun j =>
      (Reference.ofLine (lines.getD j [])).map fun r => (n + j, r) := by
  induction lines generalizing n with
  | nil => rfl
  | cons line lines ih =>
    rw [references, ih, List.length_cons, List.range_succ_eq_map, List.filterMap_cons,
      List.filterMap_map]
    have hrest : ∀ j, n + 1 + j = n + (j + 1) := by omega
    cases h : Reference.ofLine line with
    | none => simp [h, hrest]
    | some r => simp [h, hrest]

/-- A source whose blocks all have a signature line of the documented form with a name that is
bound to the code of the block, and that has no references but on these lines. -/
structure Documented (lines : List Text) (m : BindingMap) (sign : Nat → Signature) : Prop where
  trim_eq_text : ∀ i ∈ Block.starts lines, (lines.getD (i + 3) []).trim = (sign i).text
  reference_in_block : ∀ j < lines.length, (Reference.ofLine (lines.getD j [])).isSome →
    ∃ i ∈ Block.starts lines, j = i + 3
  code?_eq : ∀ i ∈ Block.starts lines,
    m.code? (sign i).name = some (Block.codeOn (lines.getD (i + 5) []))

variable {lines : List Text} {m : BindingMap} {sign : Nat → Signature}

/-- The references are those of the signature lines, block by block. -/
theorem references_of_documented (h : Documented lines m sign) : references 1 lines =
    (Block.starts lines).map fun i =>
      (i + 4, ⟨(sign i).name, Reference.arityOf (sign i).args⟩) := by
  -- Blocks share no line, so their fourth lines come in the order of the blocks.
  have hincreasing : ((Block.starts lines).map (· + 3)).Pairwise (· < ·) := by
    rw [List.pairwise_map]
    exact (Block.starts_pairwise lines).imp fun hij => by omega
  rw [references_eq, filterMap_range_eq hincreasing, List.filterMap_map,
    List.filterMap_eq_map_iff_forall_eq_some]
  · intro i hi
    rw [Function.comp_apply, (sign i).ofLine_eq (h.trim_eq_text i hi), Option.map_some]
    have hnumber : 1 + (i + 3) = i + 4 := by omega
    rw [hnumber]
  · intro j hj
    obtain ⟨i, hi, rfl⟩ := List.mem_map.mp hj
    have := Block.add_le_length_of_mem_starts hi
    omega
  · intro j hj hs
    rw [Option.isSome_map] at hs
    obtain ⟨i, hi, rfl⟩ := h.reference_in_block j hj hs
    exact List.mem_map_of_mem hi

theorem entries_of_documented (h : Documented lines m sign) : (ofReferences m lines).entries =
    (Block.starts lines).map fun i => ⟨Block.codeOn (lines.getD (i + 5) []), (sign i).name,
      Reference.arityOf (sign i).args⟩ := by
  unfold ofReferences
  dsimp only
  rw [references_of_documented h, List.filterMap_map, List.filterMap_eq_map_iff_forall_eq_some]
  intro i hi
  rw [Function.comp_apply, entry?, h.code?_eq i hi]
  rfl

theorem unresolved_of_documented (h : Documented lines m sign) :
    (ofReferences m lines).unresolved = [] := by
  unfold ofReferences
  dsimp only
  rw [references_of_documented h, List.filterMap_map, List.filterMap_eq_nil_iff]
  intro i hi
  rw [Function.comp_apply, h.code?_eq i hi]
  rfl

/-- What a block says is what its reference says, except that blank arguments count as one in the
block and as none in the reference. -/
theorem entry_of_documented (h : Documented lines m sign) {i : Nat} (hi : i ∈ Block.starts lines) :
    (⟨Block.codeOn (lines.getD (i + 5) []), (sign i).name,
        Reference.arityOf (sign i).args⟩ : Entry) =
      if (sign i).args.isAllBlank then { Block.entryAt lines i with arity := 0 }
      else Block.entryAt lines i := by
  have hname := (sign i).nameOn_eq (h.trim_eq_text i hi)
  have harity := (sign i).arityOn_eq (h.trim_eq_text i hi)
  unfold Reference.arityOf Block.entryAt
  rw [hname, harity]
  split
  next => rfl
  next => rfl

/-- On a documented source the two ways to scan find the same entries in the same order and leave
nothing unresolved, except that an entry with blank arguments has arity 0 by its reference and
arity 1 by its block. -/
theorem ofSource_eq_of_documented {s : Source} (h : Documented s.lines m sign) :
    ofSource none s = ⟨(Block.starts s.lines).map (Block.entryAt s.lines), []⟩ ∧
      ofSource (some m) s = ⟨(Block.starts s.lines).map fun i =>
        if (sign i).args.isAllBlank then { Block.entryAt s.lines i with arity := 0 }
        else Block.entryAt s.lines i, []⟩ ∧
      (∀ i ∈ Block.starts s.lines, (sign i).args.isAllBlank →
        (Block.entryAt s.lines i).arity = 1) ∧
      ((∀ i ∈ Block.starts s.lines, (sign i).args.isAllBlank = false) →
        ofSource (some m) s = ofSource none s) := by
  have hblocks : ofSource none s = ⟨(Block.starts s.lines).map (Block.entryAt s.lines), []⟩ := by
    change (⟨Block.entries s.lines, []⟩ : ScanResult) = _
    rw [Block.entries_eq_map]
  have hreferences : ofSource (some m) s = ⟨(Block.starts s.lines).map fun i =>
      if (sign i).args.isAllBlank then { Block.entryAt s.lines i with arity := 0 }
      else Block.entryAt s.lines i, []⟩ := by
    change (⟨(ofReferences m s.lines).entries, (ofReferences m s.lines).unresolved⟩ :
      ScanResult) = _
    rw [unresolved_of_documented h, entries_of_documented h,
      List.map_congr_left fun i hi => entry_of_documented h hi]
  refine ⟨hblocks, hreferences, ?_, ?_⟩
  · intro i hi hargs
    exact (sign i).arityOn_of_blank (h.trim_eq_text i hi) hargs
  · intro hargs
    rw [hblocks, hreferences]
    congr 1
    apply List.map_congr_left
    intro i hi
    rw [hargs i hi]
    rfl

/-- Two blocks, the second with blank arguments, and a line between them. -/
def doorSource : Source where
  path := "doors.c"
  content := Text.ofLines ["//", "// T_VerticalDoor", "//",
    "//  Implements Door_Raise(tag, speed) in part", "//   ExtraData:", "// Code: 12",
    "void T_VerticalDoor(void);", "//", "// G_Exit", "//", "// Implements Exit_Normal( )",
    "//   ExtraData:", "// Code: 243"]

/-- The parts of the signature lines of the two blocks, by where the blocks begin. -/
def doorSign (i : Nat) : Signature :=
  if i = 0 then
    { lead := "  ", gap := " ", name := "Door_Raise", args := "tag, speed", rest := " in part" }
  else { lead := " ", gap := " ", name := "Exit_Normal", args := " ", rest := "" }

/-- The two names with the codes of their blocks. -/
def doorBindings : BindingMap :=
  BindingMap.ofRows [⟨⟨"243"⟩, "EV_Exit", "Exit_Normal", 3⟩, ⟨⟨"12"⟩, "EV_Door", "Door_Raise", 4⟩]

/-- The entry with blank arguments is the only one in which the two scans of the doors differ. -/
theorem doorSource_scans :
    Documented doorSource.lines doorBindings doorSign ∧
      ofSource none doorSource =
        ⟨[⟨⟨"12"⟩, "Door_Raise", 2⟩, ⟨⟨"243"⟩, "Exit_Normal", 1⟩], []⟩ ∧
      ofSource (some doorBindings) doorSource =
        ⟨[⟨⟨"12"⟩, "Door_Raise", 2⟩, ⟨⟨"243"⟩, "Exit_Normal", 0⟩], []⟩ := by
  have hdocumented : Documented doorSource.lines doorBindings doorSign := by
    constructor
    · decide +kernel
    · decide +kernel
    · decide +kernel
  obtain ⟨hblocks, hreferences, -, -⟩ := ofSource_eq_of_documented hdocumented
  refine ⟨hdocumented, ?_, ?_⟩
  · rw [hblocks]
    decide +kernel
  · rw [hreferences]
    decide +kernel

end ScanResult

end LineSpecials
