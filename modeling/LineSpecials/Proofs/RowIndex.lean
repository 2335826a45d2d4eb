import LineSpecials.Proofs.TableState
import Mathlib.Data.Finset.Card

namespace LineSpecials.BindingMap

/-- The names in the index, in its order. -/
def names (m : BindingMap) : List Text := m.latest.map (·.1)

/-- What index, rows and repeated rows have to do with each other. -/
structure Coherent (m : BindingMap) : Prop where
  nodup_names : m.names.Nodup
  /-- A position in the index is that of the last row of its name. -/
  latest : ∀ name i, (name, i) ∈ m.latest → ∃ b, m.rows[i]? = some b ∧ b.name = name ∧
    ∀ j b', m.rows[j]? = some b' → b'.name = name → j ≤ i
  get?_eq : ∀ name, m.get? name = m.rows.reverse.find? (·.name == name)
  get?_eq_none_iff : ∀ name, m.get? name = none ↔ ∀ b ∈ m.rows, b.name ≠ name
  contains_eq : ∀ name, m.contains name = (m.get? name).isSome
  code?_eq : ∀ name, m.code? name = (m.get? name).map (·.code)
  size_eq : m.size = (m.rows.map (·.name)).toFinset.card
  /-- The repeated rows are those that are not the first of their name. -/
  repeated_eq : m.repeated =
    (m.rows.zipIdx.filter fun p => (m.rows.take p.2).any (·.name == p.1.name)).map (·.1)
  length_rows : m.rows.length = m.size + m.repeated.length
  isEmpty_iff : m.isEmpty = true ↔ m.rows = []

theorem map_fst_setPosition (name : Text) (i : Nat) (index : List (Text × Nat)) :
    (setPosition name i index).map (·.1) =
      if name ∈ index.map (·.1) then index.map (·.1) else index.map (·.1) ++ [name] := by
  induction index with
  | nil => rfl
  | cons p rest ih =>
    obtain ⟨n, j⟩ := p
    unfold setPosition
    by_cases hn : n = name
    · simp [hn]
    · rw [if_neg hn, List.map_cons, ih]
      by_cases hm : name ∈ rest.map (·.1)
      · rw [if_pos hm, if_pos (by simp [hm])]
        rfl
      · rw [if_neg hm, if_neg (by simp_all [Ne.symm hn])]
        rfl

theorem names_insert (m : BindingMap) (b : Binding) :
    (m.insert b).names = if b.name ∈ m.names then m.names else m.names ++ [b.name] :=
  map_fst_setPosition b.name m.rows.length m.latest

theorem position?_isSome_iff_mem_names (m : BindingMap) (name : Text) :
    (m.position? name).isSome ↔ name ∈ m.names := by
  unfold position? names
  rw [List.lookup_isSome_iff, List.mem_map]
  constructor
  · rintro ⟨p, hp, hname⟩
    exact ⟨p, hp, (beq_iff_eq.mp hname).symm⟩
  · rintro ⟨p, hp, rfl⟩
    exact ⟨p, hp, beq_self_eq_true p.1⟩

theorem position?_eq_of_mem {m : BindingMap} (h : m.names.Nodup) {name : Text} {i : Nat}
    (hi : (name, i) ∈ m.latest) : m.position? name = some i := by
  obtain ⟨before, after, hsplit⟩ := List.append_of_mem hi
  refine List.lookup_eq_some_iff.mpr ⟨before, after, hsplit, fun p hp => ?_⟩
  unfold names at h
  rw [hsplit, List.map_append, List.nodup_append] at h
  have hne := h.2.2 p.1 (List.mem_map_of_mem hp) name (by simp)
  simpa using Ne.symm hne

section

variable (rows : List Binding)

theorem mem_names_ofRows (name : Text) :
    name ∈ (ofRows rows).names ↔ name ∈ rows.map (·.name) := by
  rw [← position?_isSome_iff_mem_names, position?_isSome_iff, List.mem_map]

theorem nodup_names_ofRows : (ofRows rows).names.Nodup := by
  induction rows using List.reverseRecOn with
  | nil => exact List.nodup_nil
  | append_singleton rows b ih =>
    rw [ofRows_concat, names_insert]
    split
    next => exact ih
    next hb =>
      refine List.nodup_append.mpr ⟨ih, List.nodup_singleton _, fun a ha c hc => ?_⟩
      rw [List.mem_singleton.mp hc]
      exact ne_of_mem_of_not_mem ha hb

/-- A row is the first of its name and makes the index longer, or it is repeated. -/
theorem length_eq_size_add_repeated :
    rows.length = (ofRows rows).size + (ofRows rows).repeated.length := by
  have hsize : ∀ m : BindingMap, m.size = m.names.length := fun m => by simp [size, names]
  induction rows using List.reverseRecOn with
  | nil => rfl
  | append_singleton rows b ih =>
    have hrepeated : ((ofRows rows).insert b).repeated =
        if b.name ∈ (ofRows rows).names then (ofRows rows).repeated ++ [b]
        else (ofRows rows).repeated := by
      simp only [insert, position?_isSome_iff_mem_names]
    rw [hsize] at ih ⊢
    rw [ofRows_concat, names_insert, hrepeated, List.length_append, ih]
    split <;> simp only [List.length_append, List.length_singleton] <;> omega

variable {rows}

/-- The position found by a name is that of the last row with that name. -/
theorem latest_of_position? {name : Text} {i : Nat} (h : (ofRows rows).position? name = some i) :
    ∃ b, rows[i]? = some b ∧ b.name = name ∧
      ∀ j b', rows[j]? = some b' → b'.name = name → j ≤ i := by
  induction rows using List.reverseRecOn with
  | nil => simp [ofRows, empty, position?] at h
  | append_singleton rows b ih =>
    rw [ofRows_concat, position?_insert, rows_ofRows] at h
    by_cases hb : name = b.name
    · rw [if_pos hb] at h
      cases Option.some.inj h
      refine ⟨b, by simp, hb.symm, fun j b' hj _ => ?_⟩
      have hlt := (List.getElem?_eq_some_iff.mp hj).1
      rw [List.length_append, List.length_singleton] at hlt
      omega
    · rw [if_neg hb] at h
      obtain ⟨a, ha, hname, hlast⟩ := ih h
      have hi := (List.getElem?_eq_some_iff.mp ha).1
      refine ⟨a, by rw [List.getElem?_append_left hi, ha], hname, fun j b' hj hb' => ?_⟩
      by_cases hjlt : j < rows.length
      · rw [List.getElem?_append_left hjlt] at hj
        exact hlast j b' hj hb'
      · rw [List.getElem?_append_right (by omega)] at hj
        have hlater := List.mem_singleton.mp (List.mem_of_getElem? hj)
        exact absurd hb'.symm (hlater ▸ hb)

end

/-- A map is coherent after any rows. -/
theorem coherent_ofRows (rows : List Binding) : (ofRows rows).Coherent := by
  have hnodup := nodup_names_ofRows rows
  have hnone : ∀ name, (ofRows rows).get? name = none ↔ ∀ b ∈ rows, b.name ≠ name := by
    intro name
    rw [get?_ofRows, List.find?_eq_none]
    simp
  have hcontains : ∀ name, (ofRows rows).contains name = ((ofRows rows).get? name).isSome := by
    intro name
    apply Bool.eq_iff_iff.mpr
    rw [contains, position?_isSome_iff, Option.isSome_iff_ne_none, ne_eq, hnone]
    simp
  have hsize : (ofRows rows).size = (rows.map (·.name)).toFinset.card := by
    have hsame : (rows.map (·.name)).toFinset = (ofRows rows).names.toFinset := by
      ext name
      rw [List.mem_toFinset, List.mem_toFinset, mem_names_ofRows]
    rw [hsame, List.toFinset_card_of_nodup hnodup, names, List.length_map, size]
  have hempty : (ofRows rows).isEmpty = true ↔ rows = [] := by
    have hnames : (ofRows rows).names = [] ↔ rows.map (·.name) = [] := by
      simp only [List.eq_nil_iff_forall_not_mem, mem_names_ofRows]
    rw [names, List.map_eq_nil_iff, List.map_eq_nil_iff] at hnames
    rw [isEmpty, List.isEmpty_iff, hnames]
  constructor
  case nodup_names => exact hnodup
  case latest =>
    intro name i hi
    rw [rows_ofRows]
    exact latest_of_position? (position?_eq_of_mem hnodup hi)
  case get?_eq => intro name; rw [rows_ofRows, get?_ofRows]
  case get?_eq_none_iff => intro name; rw [rows_ofRows, hnone]
  case contains_eq => exact hcontains
  case code?_eq => exact fun name => rfl
  case size_eq => rw [rows_ofRows, hsize]
  case repeated_eq => rw [rows_ofRows, repeated_ofRows]
  case length_rows => rw [rows_ofRows]; exact length_eq_size_add_repeated rows
  case isEmpty_iff => rw [rows_ofRows, hempty]

/-- The map of a source is coherent. It has all rows that were read, each on a line of the source
behind the lines of the rows before it. -/
theorem coherent_ofLines (lines : List Text) :
    (ofLines lines).Coherent ∧
      (ofLines lines).rows = (tableEvents lines).filterMap (·.row?) ∧
      (ofLines lines).rows.Pairwise (·.line < ·.line) ∧
      ∀ b ∈ (ofLines lines).rows, 1 ≤ b.line ∧ b.line ≤ lines.length :=
  ⟨coherent_ofRows _, rows_ofLines lines, pairwise_line_rows lines,
    fun _ hb => line_bounds_of_mem_rows hb⟩

end LineSpecials.BindingMap
