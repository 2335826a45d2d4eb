import LineSpecials.BindingMap
import LineSpecials.Proofs.Text.Words
import Mathlib.Data.List.Induction

namespace LineSpecials

namespace BindingMap

theorem lookup_cons_eq_if (n m : Text) (j : Nat) (index : List (Text × Nat)) :
    ((m, j) :: index).lookup n = if n = m then some j else index.lookup n := by
  rw [List.lookup_cons]
  by_cases h : n = m
  · simp [h]
  · rw [beq_false_of_ne h, if_neg h]

theorem lookup_setPosition (name : Text) (i : Nat) (index : List (Text × Nat)) (n : Text) :
    (setPosition name i index).lookup n = if n = name then some i else index.lookup n := by
  induction index with
  | nil => exact lookup_cons_eq_if n name i []
  | cons p rest ih =>
    obtain ⟨m, j⟩ := p
    unfold setPosition
    by_cases hm : m = name
    · rw [if_pos hm, lookup_cons_eq_if, lookup_cons_eq_if, hm]
      split <;> rfl
    · rw [if_neg hm, lookup_cons_eq_if, lookup_cons_eq_if, ih]
      by_cases h : n = m
      · rw [if_pos h, if_pos h, if_neg (h ▸ hm)]
      · rw [if_neg h, if_neg h]

theorem position?_insert (m : BindingMap) (b : Binding) (name : Text) :
    (m.insert b).position? name =
      if name = b.name then some m.rows.length else m.position? name :=
  lookup_setPosition b.name m.rows.length m.latest name

theorem ofRows_concat (rows : List Binding) (b : Binding) :
    ofRows (rows ++ [b]) = (ofRows rows).insert b := by
  simp [ofRows]

@[simp] theorem rows_ofRows (rows : List Binding) : (ofRows rows).rows = rows := by
  induction rows using List.reverseRecOn with
  | nil => rfl
  | append_singleton rows b ih =>
    rw [ofRows_concat]
    exact congrArg (· ++ [b]) ih

/-- The positions in the index are positions of rows. -/
theorem position?_lt {rows : List Binding} {name : Text} {i : Nat}
    (h : (ofRows rows).position? name = some i) : i < rows.length := by
  induction rows using List.reverseRecOn with
  | nil => simp [ofRows, empty, position?] at h
  | append_singleton rows b ih =>
    rw [ofRows_concat, position?_insert, rows_ofRows] at h
    rw [List.length_append, List.length_singleton]
    split at h
    next => cases Option.some.inj h; omega
    next => have := ih h; omega

/-- The row found by a name is the latest with that name. -/
theorem get?_ofRows (rows : List Binding) (name : Text) :
    (ofRows rows).get? name = rows.reverse.find? (·.name == name) := by
  induction rows using List.reverseRecOn with
  | nil => rfl
  | append_singleton rows b ih =>
    rw [List.reverse_concat, List.find?_cons, ← ih, ofRows_concat]
    unfold get?
    rw [position?_insert, rows_ofRows]
    by_cases h : name = b.name
    · rw [if_pos h]
      have hrow : ((ofRows rows).insert b).rows = rows ++ [b] := by simp [insert]
      simp [h, hrow]
    · have hne : (b.name == name) = false := by simpa using Ne.symm h
      rw [if_neg h, hne]
      cases hp : (ofRows rows).position? name with
      | none => rfl
      | some i =>
        have hrow : ((ofRows rows).insert b).rows = rows ++ [b] := by simp [insert]
        dsimp only
        rw [hrow, List.getElem?_append_left (position?_lt hp)]

theorem code?_ofRows_isSome (rows : List Binding) (name : Text) :
    ((ofRows rows).code? name).isSome = rows.any (·.name == name) := by
  unfold code?
  rw [Option.isSome_map, get?_ofRows, Bool.eq_iff_iff, List.find?_isSome, List.any_eq_true]
  simp only [List.mem_reverse]

theorem position?_isSome_iff (rows : List Binding) (name : Text) :
    ((ofRows rows).position? name).isSome ↔ ∃ a ∈ rows, a.name = name := by
  induction rows using List.reverseRecOn with
  | nil => simp [ofRows, empty, position?]
  | append_singleton rows b ih =>
    rw [ofRows_concat, position?_insert]
    by_cases h : name = b.name
    · simp [h]
    · rw [if_neg h, ih]
      simp [Ne.symm h]

/-- The repeated rows are, in order, those before which a row of the same name stands. -/
theorem repeated_ofRows (rows : List Binding) :
    (ofRows rows).repeated =
      (rows.zipIdx.filter fun p => (rows.take p.2).any (·.name == p.1.name)).map (·.1) := by
  induction rows using List.reverseRecOn with
  | nil => rfl
  | append_singleton rows b ih =>
    have hearlier :
        rows.zipIdx.filter (fun p => ((rows ++ [b]).take p.2).any (·.name == p.1.name)) =
          rows.zipIdx.filter fun p => (rows.take p.2).any (·.name == p.1.name) := by
      apply List.filter_congr
      intro p hp
      have hlt : p.2 < 0 + rows.length := (List.mem_zipIdx hp).2.1
      rw [List.take_append_of_le_length (by omega)]
    have hlast : ((ofRows rows).position? b.name).isSome = rows.any (·.name == b.name) := by
      apply Bool.eq_iff_iff.mpr
      rw [position?_isSome_iff]
      simp
    rw [List.zipIdx_append, List.filter_append, hearlier, List.map_append, ← ih, ofRows_concat]
    unfold insert
    dsimp only
    rw [hlast]
    simp only [Nat.zero_add, List.zipIdx_singleton, List.filter_cons, List.filter_nil,
      List.take_left']
    split <;> simp

theorem mem_repeated_iff {rows : List Binding} {b : Binding} :
    b ∈ (ofRows rows).repeated ↔
      ∃ before after, rows = before ++ b :: after ∧ ∃ a ∈ before, a.name = b.name := by
  rw [repeated_ofRows]
  constructor
  · intro h
    obtain ⟨⟨b', i⟩, hp, rfl⟩ := List.mem_map.mp h
    obtain ⟨hp, hany⟩ := List.mem_filter.mp hp
    obtain ⟨hlt, hget⟩ := List.mem_zipIdx' hp
    refine ⟨rows.take i, rows.drop (i + 1), ?_, by simpa using hany⟩
    rw [hget, ← List.drop_eq_getElem_cons hlt, List.take_append_drop]
  · rintro ⟨before, after, rfl, a, ha, hn⟩
    refine List.mem_map.mpr ⟨(b, before.length), List.mem_filter.mpr ⟨?_, ?_⟩, rfl⟩
    · exact List.mem_zipIdx_iff_getElem?.mpr (by simp)
    · simpa using ⟨a, ha, hn⟩

theorem code?_ofRows_eq_some {rows : List Binding} {name : Text} {c : Code}
    (h : (ofRows rows).code? name = some c) : ∃ b ∈ rows, b.name = name ∧ b.code = c := by
  obtain ⟨b, hb, rfl⟩ := Option.map_eq_some_iff.mp h
  rw [get?_ofRows] at hb
  have hname := List.find?_some hb
  exact ⟨b, List.mem_reverse.mp (List.mem_of_find?_eq_some hb), by simpa using hname, rfl⟩

end BindingMap

namespace Binding

/-- A row whose fields are what its line's readers take: digits, a word and a word. -/
structure WellFormed (b : Binding) : Prop where
  code_ne_nil : b.code.text ≠ []
  code_digits : ∀ c ∈ b.code.text, isDecimalDigit c
  identifier_ne_nil : b.identifier ≠ []
  identifier_chars : ∀ c ∈ b.identifier, isNameChar c
  name_ne_nil : b.name ≠ []
  name_chars : ∀ c ∈ b.name, isNameChar c

theorem firstNumber_eq_some {t w : Text} (h : firstNumber t = some w) :
    w ≠ [] ∧ ∀ c ∈ w, isDecimalDigit c := by
  unfold firstNumber at h
  split at h
  next => simp at h
  next c r hd =>
    cases Option.some.inj h
    exact Text.first_run hd

theorem closedName_eq_some {t w : Text} (h : closedName t = some w) :
    w ≠ [] ∧ ∀ c ∈ w, isNameChar c := by
  unfold closedName at h
  split at h
  next c name rest ht _ =>
    cases Option.some.inj h
    exact ⟨by simp, fun d hd => List.mem_takeWhile_imp (ht ▸ hd)⟩
  next => simp at h

theorem quotedName_eq_some {t w : Text} (h : quotedName t = some w) :
    w ≠ [] ∧ ∀ c ∈ w, isNameChar c := by
  induction t with
  | nil => simp [quotedName] at h
  | cons c r ih =>
    unfold quotedName at h
    split at h
    next =>
      rcases Option.or_eq_some_iff.mp h with h | ⟨-, h⟩
      · exact closedName_eq_some h
      · exact ih h
    next => exact ih h

/-- A line is read as a row if all three of its readers succeed. -/
theorem ofLine_eq_some_iff {line : Text} {n : Nat} {b : Binding} :
    ofLine line n = some b ↔
      firstNumber line = some b.code.text ∧
        (∃ before rest, line.splitOnce ',' = some (before, rest) ∧
          rest.leadingWord = some b.identifier) ∧
        quotedName line = some b.name ∧ b.line = n := by
  constructor
  · intro h
    obtain ⟨code, hcode, h⟩ := Option.bind_eq_some_iff.mp h
    obtain ⟨⟨before, rest⟩, hcomma, h⟩ := Option.bind_eq_some_iff.mp h
    obtain ⟨identifier, hidentifier, h⟩ := Option.bind_eq_some_iff.mp h
    obtain ⟨name, hname, h⟩ := Option.bind_eq_some_iff.mp h
    cases Option.some.inj h
    exact ⟨hcode, ⟨before, rest, hcomma, hidentifier⟩, hname, rfl⟩
  · rintro ⟨hcode, ⟨before, rest, hcomma, hidentifier⟩, hname, rfl⟩
    simp [ofLine, hcode, hcomma, hidentifier, hname]

theorem line_of_ofLine {line : Text} {n : Nat} {b : Binding} (h : ofLine line n = some b) :
    b.line = n := (ofLine_eq_some_iff.mp h).2.2.2

theorem wellFormed_of_ofLine {line : Text} {n : Nat} {b : Binding}
    (h : ofLine line n = some b) : b.WellFormed := by
  obtain ⟨hcode, ⟨before, rest, -, hidentifier⟩, hname, -⟩ := ofLine_eq_some_iff.mp h
  obtain ⟨hc, hcs⟩ := firstNumber_eq_some hcode
  obtain ⟨hi, his⟩ := Text.leadingWord_eq_some hidentifier
  obtain ⟨hn, hns⟩ := quotedName_eq_some hname
  exact ⟨hc, hcs, hi, his, hn, hns⟩

end Binding

end LineSpecials
