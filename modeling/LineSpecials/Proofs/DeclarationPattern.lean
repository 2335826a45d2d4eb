import LineSpecials.Pattern.Meaning
import LineSpecials.Proofs.Pattern.Stretches
import LineSpecials.Proofs.Pattern.Walk
import LineSpecials.Proofs.TableDeclaration

namespace LineSpecials

open Pattern Declaration

/-- The pattern of a declaration, as it is written. -/
def declarationPattern : Text := "^\\s*[A-Za-z_]\\w*(?:\\s+[A-Za-z_]\\w*)*\\s+HexenBindings\\b"

namespace DeclarationPattern

/-- The blanks. -/
def blanks : CharSet := Unicode.listed "WSpace"

/-- The characters that identifiers begin with. -/
def firstChars : CharSet := .unions [.range 'A' 'Z', .range 'a' 'z', .singleton '_']

/-- The word characters. -/
def wordChars : CharSet := .ofRanges wordRanges

/-- An identifier. -/
def identifier : List Pattern := [char firstChars, run wordChars 0]

/-- Blanks and an identifier behind them. -/
def laterIdentifier : Pattern := row (run blanks 1 :: identifier)

/-- Blanks and the table's name behind them. -/
def nameBehind : List Pattern := [run blanks 1, literal tableName, anchor (.word .edge false)]

/-- What the pattern of a declaration means. -/
def meaning : Pattern :=
  row (anchor .textStart :: run blanks 0 ::
    (identifier ++ repeated laterIdentifier 0 none false :: nameBehind))

theorem written_eq : ofText.written declarationPattern = .ok meaning := by
  have hsame : (match ofText.written declarationPattern with
      | .ok p => p.same meaning
      | .error _ => false) = true := by decide +kernel
  split at hsame
  next p hp => rw [hp, eq_of_same hsame]
  next => cases hsame

theorem inRanges_cons_iff {a b n : Nat} {rs : List (Nat × Nat)} :
    inRanges ((a, b) :: rs) n = true ↔ a ≤ n ∧ (n ≤ b ∨ inRanges rs n = true) := by
  rw [inRanges]
  split
  next h => exact iff_of_false (by decide) fun hab => absurd hab.1 (Nat.not_le_of_lt h)
  next h =>
    rw [and_iff_right (Nat.le_of_not_lt h)]
    split
    next hb => simp [hb]
    next hb => simp [hb]

theorem inRanges_nil {n : Nat} : inRanges [] n = false := rfl

/-- A set whose changes are the ends of ranges has the characters in the ranges. -/
theorem has_eq_inRanges {s : CharSet} {rs : List (Nat × Nat)}
    (h : s.changes = rs.flatMap fun r => [r.1, r.2 + 1]) (c : Char) :
    s.has c = inRanges rs c.toNat := by
  rw [CharSet.has, h]
  generalize c.toNat = n
  clear h
  induction rs with
  | nil => rfl
  | cons r rs ih =>
    obtain ⟨a, b⟩ := r
    simp only [List.flatMap_cons, List.cons_append, List.nil_append, CharSet.holds, inRanges,
      Bool.not_false, Bool.not_true, Nat.lt_succ_iff, ih]

theorem has_wordChars (c : Char) : wordChars.has c = isWordChar c :=
  has_eq_inRanges (by decide +kernel) c

theorem has_blanks (c : Char) : blanks.has c = isBlank c := by
  have hranges : blanks.changes = [(0x9, 0xD), (0x20, 0x20), (0x85, 0x85), (0xA0, 0xA0),
      (0x1680, 0x1680), (0x2000, 0x200A), (0x2028, 0x2029), (0x202F, 0x202F), (0x205F, 0x205F),
      (0x3000, 0x3000)].flatMap fun r => [r.1, r.2 + 1] := by decide +kernel
  rw [has_eq_inRanges hranges, Bool.eq_iff_iff]
  simp only [inRanges_cons_iff, inRanges_nil, Bool.false_eq_true, or_false, isBlank,
    Bool.or_eq_true, Bool.and_eq_true, decide_eq_true_eq, beq_iff_eq]
  omega

theorem has_firstChars (c : Char) : firstChars.has c = (c.isAlpha || c == '_') := by
  have hranges : firstChars.changes = [(65, 90), (95, 95), (97, 122)].flatMap
      fun r => [r.1, r.2 + 1] := by decide +kernel
  have hletter : (c.isAlpha || c == '_') = true ↔
      ((65 ≤ c.toNat ∧ c.toNat ≤ 90) ∨ 97 ≤ c.toNat ∧ c.toNat ≤ 122) ∨ c.toNat = 95 := by
    change ((decide ('A'.val ≤ c.val ∧ c.val ≤ 'Z'.val) ||
      (decide ('a'.val ≤ c.val) && decide (c.val ≤ 'z'.val))) || c == '_') = true ↔ _
    simp only [Bool.or_eq_true, Bool.and_eq_true, decide_eq_true_eq, beq_iff_eq,
      UInt32.le_iff_toNat_le, Char.ext_iff, ← UInt32.toNat_inj]
    rfl
  rw [has_eq_inRanges hranges, Bool.eq_iff_iff, hletter]
  simp only [inRanges_cons_iff, inRanges_nil, Bool.false_eq_true, or_false]
  omega

section Places

variable {t w : Text} {i j k : Nat}

theorem leadsRow_identifier_iff {ps : List Pattern} : LeadsRow t (identifier ++ ps) i j ↔
    ∃ w k, IsIdentifier w ∧ Reads t i w k ∧ LeadsRow t ps k j := by
  have hfirst : ∀ c, firstChars.has c ↔ c.isAlpha ∨ c = '_' := fun c => by
    rw [has_firstChars, Bool.or_eq_true, beq_iff_eq]
  constructor
  · rintro ⟨l, hil, k, hlk, hkj⟩
    obtain ⟨c, hc, hil⟩ := leads_char_iff.mp hil
    obtain ⟨w, -, hw, hlk⟩ := leads_run_iff.mp hlk
    refine ⟨c :: w, k, ⟨c, w, rfl, (hfirst c).mp hc, fun d hd => ?_⟩,
      reads_append_iff.mpr ⟨l, hil, hlk⟩, hkj⟩
    rw [← has_wordChars]
    exact hw d hd
  · rintro ⟨_, k, ⟨c, w, rfl, hc, hw⟩, hik, hkj⟩
    obtain ⟨l, hil, hlk⟩ := reads_append_iff (w := [c]).mp hik
    refine ⟨l, leads_char_iff.mpr ⟨c, (hfirst c).mpr hc, hil⟩, k,
      leads_run_iff.mpr ⟨w, Nat.zero_le _, fun d hd => ?_, hlk⟩, hkj⟩
    rw [has_wordChars]
    exact hw d hd

theorem leads_blanks_iff {least : Nat} : Leads t (run blanks least) i j ↔
    ∃ b : Text, least ≤ b.length ∧ (∀ c ∈ b, isBlank c) ∧ Reads t i b j := by
  simp only [leads_run_iff, has_blanks]

theorem leads_laterIdentifier_iff : Leads t laterIdentifier i j ↔
    ∃ b w, b ≠ [] ∧ (∀ c ∈ b, isBlank c) ∧ IsIdentifier w ∧ Reads t i (b ++ w) j := by
  constructor
  · rintro ⟨k, hik, hkj⟩
    obtain ⟨b, hlength, hb, hik⟩ := leads_blanks_iff.mp hik
    rw [← List.append_nil identifier] at hkj
    obtain ⟨w, l, hw, hkl, rfl⟩ := leadsRow_identifier_iff.mp hkj
    exact ⟨b, w, List.ne_nil_of_length_pos hlength, hb, hw, reads_append_iff.mpr ⟨k, hik, hkl⟩⟩
  · rintro ⟨b, w, hne, hb, hw, hij⟩
    obtain ⟨k, hik, hkj⟩ := reads_append_iff.mp hij
    refine ⟨k, leads_blanks_iff.mpr ⟨b, List.length_pos_iff.mpr hne, hb, hik⟩, ?_⟩
    rw [← List.append_nil identifier]
    exact leadsRow_identifier_iff.mpr ⟨w, j, hw, hkj, rfl⟩

/-- The name ends in a word character, so a word ends behind it if no such character follows. -/
theorem edge_holds_iff (h : Reads t i tableName j) :
    Anchor.holds (.word .edge false) (t.take j).getLast? t[j]? = true ↔
      ∀ c, (t.drop j).head? = some c → isWordChar c = false := by
  have hlast : (t.take j).getLast?.any isWordChar = true := by
    rw [h.take_eq, List.getLast?_append_of_ne_nil _ (by decide)]
    decide
  rw [Anchor.holds, if_neg (by decide), hlast, List.head?_drop]
  cases t[j]? with
  | none => simp [WordPlace.holds]
  | some c => simp [WordPlace.holds]

/-- What the pattern asks for behind the last identifier. -/
theorem leadsRow_nameBehind_iff : (∃ j, LeadsRow t nameBehind i j) ↔
    ∃ b u, b ≠ [] ∧ (∀ c ∈ b, isBlank c) ∧ NamesTable u ∧ t.drop i = b ++ u := by
  constructor
  · rintro ⟨j, k, hik, l, hkl, l', ⟨hedge, rfl⟩, rfl⟩
    obtain ⟨b, hlength, hb, hik⟩ := leads_blanks_iff.mp hik
    have hname : Reads t k tableName l' := hkl
    exact ⟨b, t.drop k, List.ne_nil_of_length_pos hlength, hb,
      ⟨t.drop l', hname.drop_eq, (edge_holds_iff hname).mp hedge⟩, hik.drop_eq⟩
  · rintro ⟨b, u, hne, hb, ⟨r, rfl, hr⟩, hdrop⟩
    obtain ⟨hik, hk⟩ := reads_of_drop_eq hdrop
    obtain ⟨hname, hl⟩ := reads_of_drop_eq hk
    exact ⟨_, _, leads_blanks_iff.mpr ⟨b, List.length_pos_iff.mpr hne, hb, hik⟩, _, hname, _,
      ⟨(edge_holds_iff hname).mpr (by rw [hl]; exact hr), rfl⟩, rfl⟩

end Places

/-- Blanks and identifiers in turn, and then the table's name. -/
def GoesOn (t : Text) (i : Nat) : Prop :=
  ∃ n k j, Iterated (Leads t laterIdentifier) n i k ∧ LeadsRow t nameBehind k j

theorem nameFollows_of_namesTable {u : Text} (h : NamesTable u) : NameFollows u.tokens := by
  have hhead : u.head? = some 'H' := by
    obtain ⟨r, rfl, -⟩ := h
    rfl
  have hne : u ≠ [] := by
    rintro rfl
    cases hhead
  obtain ⟨w, v, hcut⟩ := exists_cut hne fun c hc => by
    rw [hhead] at hc
    cases hc
    decide
  rw [hcut.tokens_eq]
  exact nameFollows_cons.mpr (.inl (hcut.namesTable_iff.mp h))

theorem cut_of_identifier {w v : Text} (hw : IsIdentifier w)
    (hv : ∀ c, v.head? = some c → isBlank c) : Cut (w ++ v) w v := by
  obtain ⟨c, r, rfl, hc, hr⟩ := hw
  refine ⟨rfl, List.cons_ne_nil c r, List.forall_mem_cons.mpr ⟨?_, fun d hd => ?_⟩, hv⟩
  · refine not_blank_of_nameChar ?_
    rcases hc with hc | rfl
    · simp [isNameChar, Char.isAlphanum, hc]
    · decide
  · by_contra hd'
    have := not_wordChar_of_blank (by simpa using hd')
    rw [hr d hd] at this
    cases this

theorem nameFollows_of_iterated {t : Text} {n i k j : Nat}
    (h : Iterated (Leads t laterIdentifier) n i k) (hname : LeadsRow t nameBehind k j) :
    (∃ c r, t.drop i = c :: r ∧ isBlank c) ∧ NameFollows (Text.tokens (t.drop i)) := by
  induction n generalizing i with
  | zero =>
    obtain rfl : i = k := h
    obtain ⟨b, u, hne, hb, hu, hdrop⟩ := leadsRow_nameBehind_iff.mp ⟨j, hname⟩
    obtain ⟨c, b, rfl⟩ := List.exists_cons_of_ne_nil hne
    rw [hdrop, Text.tokens_blank_append hb]
    exact ⟨⟨c, b ++ u, rfl, hb c List.mem_cons_self⟩, nameFollows_of_namesTable hu⟩
  | succ n ih =>
    obtain ⟨l, hil, hlk⟩ := h
    obtain ⟨b, w, hne, hb, hw, hil⟩ := leads_laterIdentifier_iff.mp hil
    obtain ⟨⟨d, r, hd, hdblank⟩, hfollows⟩ := ih hlk
    obtain ⟨c, b, rfl⟩ := List.exists_cons_of_ne_nil hne
    have hcut : Cut (w ++ t.drop l) w (t.drop l) := cut_of_identifier hw fun e he => by
      rw [hd] at he
      cases he
      exact hdblank
    rw [hil.drop_eq, List.append_assoc, Text.tokens_blank_append hb, hcut.tokens_eq]
    exact ⟨⟨c, _, rfl, hb c List.mem_cons_self⟩, nameFollows_cons.mpr (.inr ⟨hw, hfollows⟩)⟩

/-- A text with tokens begins with blanks, if any, and its first token. -/
theorem exists_blanks_cut {v first : Text} {rest : List Text} (h : v.tokens = first :: rest) :
    ∃ b r, v = b ++ (first ++ r) ∧ (∀ c ∈ b, isBlank c) ∧ Cut (first ++ r) first r ∧
      r.tokens = rest := by
  rw [← Text.tokens_trimStart] at h
  have hne : v.trimStart ≠ [] := by
    intro hnil
    rw [hnil] at h
    cases h
  obtain ⟨w, r, hcut⟩ := exists_cut hne fun c => Text.not_blank_of_head?_trimStart
  rw [hcut.tokens_eq] at h
  obtain ⟨rfl, rfl⟩ := List.cons.inj h
  refine ⟨v.takeWhile isBlank, r, ?_, fun c => List.mem_takeWhile_imp, hcut.eq ▸ hcut, rfl⟩
  rw [← hcut.eq]
  exact List.takeWhile_append_dropWhile.symm

theorem ne_nil_of_cut {b w r : Text} (hblank : ∀ c, (b ++ (w ++ r)).head? = some c → isBlank c)
    (hcut : Cut (w ++ r) w r) : b ≠ [] := by
  rintro rfl
  obtain ⟨c, w, rfl⟩ := List.exists_cons_of_ne_nil hcut.ne_nil
  have hc := hblank c rfl
  rw [hcut.not_blank c List.mem_cons_self] at hc
  cases hc

theorem goesOn_of_nameFollows {t : Text} {i : Nat}
    (hblank : ∀ c, (t.drop i).head? = some c → isBlank c)
    (h : NameFollows (Text.tokens (t.drop i))) : GoesOn t i := by
  obtain ⟨types, name, rest, htokens, htypes, hname⟩ := h
  induction types generalizing i with
  | nil =>
    obtain ⟨b, r, hdrop, hb, hcut, -⟩ := exists_blanks_cut htokens
    have hne := ne_nil_of_cut (hdrop ▸ hblank) hcut
    obtain ⟨j, hj⟩ := leadsRow_nameBehind_iff.mpr
      ⟨b, name ++ r, hne, hb, hcut.namesTable_iff.mpr hname, hdrop⟩
    exact ⟨0, i, j, rfl, hj⟩
  | cons type types ih =>
    obtain ⟨htype, htypes⟩ := List.forall_mem_cons.mp htypes
    obtain ⟨b, r, hdrop, hb, hcut, hr⟩ := exists_blanks_cut htokens
    have hne := ne_nil_of_cut (hdrop ▸ hblank) hcut
    rw [← List.append_assoc] at hdrop
    obtain ⟨hreads, hrest⟩ := reads_of_drop_eq hdrop
    obtain ⟨n, k, j, hlater, hj⟩ := ih (hrest ▸ hcut.blank) (hrest ▸ hr) htypes
    have hfirst := leads_laterIdentifier_iff.mpr ⟨b, type, hne, hb, htype, hreads⟩
    exact ⟨n + 1, k, j, ⟨_, hfirst, hlater⟩, hj⟩

theorem exists_leads_meaning_iff (line : Text) :
    (∃ i j, i ≤ line.length ∧ Leads line meaning i j) ↔ DeclareTable line.tokens := by
  rw [declareTable_iff]
  constructor
  · rintro ⟨_, j, -, i, ⟨hstart, rfl⟩, k, hik, hkj⟩
    have hdrop : line.drop i = line := by
      have hnil : line.take i = [] := by simpa [Anchor.holds] using hstart
      simpa [hnil] using List.take_append_drop i line
    obtain ⟨b, -, hb, hik⟩ := leads_blanks_iff.mp hik
    obtain ⟨w, l, hw, hkl, x, ⟨n, -, hlater⟩, hname⟩ := leadsRow_identifier_iff.mp hkj
    obtain ⟨⟨c, r, hc, hblank⟩, hfollows⟩ := nameFollows_of_iterated hlater hname
    have hcut : Cut (w ++ line.drop l) w (line.drop l) := cut_of_identifier hw fun e he => by
      rw [hc] at he
      cases he
      exact hblank
    have htokens := calc
      line.tokens = Text.tokens (b ++ (w ++ line.drop l)) := by
        rw [← hkl.drop_eq, ← hik.drop_eq, hdrop]
      _ = w :: Text.tokens (line.drop l) := by rw [Text.tokens_blank_append hb, hcut.tokens_eq]
    exact ⟨w, _, htokens, hw, hfollows⟩
  · rintro ⟨first, rest, htokens, hfirst, hfollows⟩
    obtain ⟨b, r, hline, hb, hcut, rfl⟩ := exists_blanks_cut htokens
    obtain ⟨hb', hk⟩ := reads_of_drop_eq (t := line) (i := 0) hline
    obtain ⟨hw, hl⟩ := reads_of_drop_eq hk
    obtain ⟨n, x, j, hlater, hname⟩ := goesOn_of_nameFollows (hl ▸ hcut.blank) (hl ▸ hfollows)
    refine ⟨0, j, Nat.zero_le _, 0, ⟨by rfl, rfl⟩, _,
      leads_blanks_iff.mpr ⟨b, Nat.zero_le _, hb, hb'⟩, ?_⟩
    exact leadsRow_identifier_iff.mpr
      ⟨first, _, hfirst, hw, x, ⟨n, by simp, by rwa [Nat.zero_add]⟩, hname⟩

end DeclarationPattern

open DeclarationPattern

/-- Reading a declaration finds what searching the line for its pattern finds. How much memory the
pattern takes is left aside. -/
theorem occursIn_declarationPattern :
    ∃ p, ofText.written declarationPattern = .ok p ∧
      ∀ line : Text, p.occursIn line = isTableDeclaration line := by
  refine ⟨meaning, written_eq, fun line => ?_⟩
  rw [Bool.eq_iff_iff, occursIn_iff, exists_leads_meaning_iff, isTableDeclaration_iff]

end LineSpecials
