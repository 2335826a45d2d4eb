import LineSpecials.Proofs.BindingRows
import LineSpecials.Proofs.ScannerAgreement
import Mathlib.Data.List.Basic
import Mathlib.Data.List.Forall2

namespace LineSpecials

/-- The references of a source in the order of its lines, each with the number of its line. -/
def Source.references (s : Source) : List (Nat × Reference) :=
  (List.range s.lines.length).filterMap fun i =>
    (Reference.ofLine (s.lines.getD i [])).map fun r => (i + 1, r)

namespace BindingMap

/-- A row that has the name, while no row behind it does. -/
def IsLatest (rows : List Binding) (name : Text) (b : Binding) : Prop :=
  ∃ before after, rows = before ++ b :: after ∧ b.name = name ∧ ∀ a ∈ after, a.name ≠ name

variable {rows : List Binding} {name : Text}

theorem get?_ofRows_eq_some_iff {b : Binding} :
    (ofRows rows).get? name = some b ↔ IsLatest rows name b := by
  rw [get?_ofRows, List.find?_eq_some_iff_append]
  constructor
  · rintro ⟨hb, as, bs, hrows, has⟩
    refine ⟨bs.reverse, as.reverse, ?_, beq_iff_eq.mp hb, fun a ha => ?_⟩
    · have hback := congrArg List.reverse hrows
      simpa using hback
    · simpa using has a (List.mem_reverse.mp ha)
  · rintro ⟨before, after, rfl, hb, hafter⟩
    refine ⟨beq_iff_eq.mpr hb, after.reverse, before.reverse, by simp, fun a ha => ?_⟩
    simpa using hafter a (List.mem_reverse.mp ha)

theorem code?_ofRows_eq_some_iff {c : Code} :
    (ofRows rows).code? name = some c ↔ ∃ b, IsLatest rows name b ∧ b.code = c := by
  unfold code?
  simp only [Option.map_eq_some_iff, get?_ofRows_eq_some_iff]

end BindingMap

open BindingMap (IsLatest ofRows)

/-- Whether some row has the name of a reference. -/
def Reference.isBound (rows : List Binding) (r : Reference) : Bool := rows.any (·.name == r.name)

/-- An entry with the name and the arity of a reference and the code of the latest row that has the
name. -/
structure Reference.Resolves (rows : List Binding) (r : Reference) (e : Entry) : Prop where
  name_eq : e.name = r.name
  arity_eq : e.arity = r.arity
  code_eq : ∃ b, IsLatest rows r.name b ∧ e.code = b.code

namespace ScanResult

variable {rows : List Binding}

theorem resolves_of_eq_some {r : Reference} {e : Entry} (h : entry? (ofRows rows) r = some e) :
    r.Resolves rows e := by
  obtain ⟨c, hc, rfl⟩ := Option.map_eq_some_iff.mp h
  obtain ⟨b, hb, rfl⟩ := BindingMap.code?_ofRows_eq_some_iff.mp hc
  exact ⟨rfl, rfl, b, hb, rfl⟩

theorem isBound_of_entry?_eq {r : Reference} {e : Option Entry} (h : entry? (ofRows rows) r = e) :
    r.isBound rows = e.isSome := by
  rw [← h]
  unfold entry? Reference.isBound
  rw [Option.isSome_map, BindingMap.code?_ofRows_isSome]

theorem references_lines_eq (s : Source) : references 1 s.lines = s.references := by
  have hnumber : ∀ i, 1 + i = i + 1 := by omega
  rw [references_eq]
  simp only [hnumber]
  rfl

variable (rows)

theorem entries_ofSource_eq (s : Source) : (ofSource (some (ofRows rows)) s).entries =
    s.references.filterMap fun p => entry? (ofRows rows) p.2 := by
  rw [← references_lines_eq]
  rfl

theorem unresolved_ofSource_eq (s : Source) : (ofSource (some (ofRows rows)) s).unresolved =
    (s.references.filter fun p => ! p.2.isBound rows).map fun p => ⟨p.2.name, p.1⟩ := by
  have heach : (ofSource (some (ofRows rows)) s).unresolved = s.references.filterMap fun p =>
      if ((ofRows rows).code? p.2.name).isSome then none else some ⟨p.2.name, p.1⟩ := by
    rw [← references_lines_eq]
    rfl
  rw [heach, ← List.filterMap_eq_map, List.filterMap_filter]
  apply List.filterMap_congr
  intro p _
  rw [BindingMap.code?_ofRows_isSome]
  unfold Reference.isBound
  cases rows.any (·.name == p.2.name) <;> rfl

/-- The entries are those of the bound references, one for one. -/
theorem forall₂_resolves (references : List (Nat × Reference)) :
    List.Forall₂ (fun p e => p.2.Resolves rows e) (references.filter (·.2.isBound rows))
      (references.filterMap fun p => entry? (ofRows rows) p.2) := by
  induction references with
  | nil => exact .nil
  | cons p ps ih =>
    cases he : entry? (ofRows rows) p.2 with
    | none =>
      have hbound : p.2.isBound rows = false := isBound_of_entry?_eq he
      rw [List.filter_cons_of_neg (by simp [hbound]), List.filterMap_cons, he]
      exact ih
    | some e =>
      have hbound : p.2.isBound rows = true := isBound_of_entry?_eq he
      rw [List.filter_cons_of_pos (by simp [hbound]), List.filterMap_cons, he]
      exact .cons (resolves_of_eq_some he) ih

/-- References come with ascending line numbers. -/
theorem pairwise_references (s : Source) : s.references.Pairwise (·.1 < ·.1) := by
  apply List.pairwise_lt_range.filterMap
  intro i j hij p hp q hq
  obtain ⟨_, _, rfl⟩ := Option.map_eq_some_iff.mp hp
  obtain ⟨_, _, rfl⟩ := Option.map_eq_some_iff.mp hq
  exact Nat.succ_lt_succ hij

variable {rows}

/-- A map that has all bindings of another binds what the other binds. -/
theorem isBound_of_code? {rows' : List Binding}
    (h : ∀ name c, (ofRows rows).code? name = some c → (ofRows rows').code? name = some c)
    {r : Reference} (hr : r.isBound rows) : r.isBound rows' := by
  unfold Reference.isBound at hr ⊢
  rw [← BindingMap.code?_ofRows_isSome] at hr ⊢
  obtain ⟨c, hc⟩ := Option.isSome_iff_exists.mp hr
  rw [h r.name c hc]
  rfl

/-- With more bindings there are more entries, and the earlier ones stay as they are. -/
theorem entries_sublist {rows' : List Binding}
    (h : ∀ name c, (ofRows rows).code? name = some c → (ofRows rows').code? name = some c)
    (s : Source) : (ofSource (some (ofRows rows)) s).entries.Sublist
      (ofSource (some (ofRows rows')) s).entries := by
  -- The entries are also what the larger map makes of the references that the smaller one binds.
  have hentries : (ofSource (some (ofRows rows)) s).entries =
      (s.references.filter (·.2.isBound rows)).filterMap fun p => entry? (ofRows rows') p.2 := by
    rw [entries_ofSource_eq, List.filterMap_filter]
    apply List.filterMap_congr
    intro p _
    cases he : entry? (ofRows rows) p.2 with
    | none =>
      rw [isBound_of_entry?_eq he]
      rfl
    | some e =>
      have hbound := isBound_of_entry?_eq he
      obtain ⟨c, hc, rfl⟩ := Option.map_eq_some_iff.mp he
      rw [hbound, entry?, h _ c hc]
      rfl
  rw [hentries, entries_ofSource_eq]
  exact List.filter_sublist.filterMap _

/-- With more bindings there are fewer unresolved references, and no other ones. -/
theorem unresolved_sublist {rows' : List Binding}
    (h : ∀ name c, (ofRows rows).code? name = some c → (ofRows rows').code? name = some c)
    (s : Source) : (ofSource (some (ofRows rows')) s).unresolved.Sublist
      (ofSource (some (ofRows rows)) s).unresolved := by
  rw [unresolved_ofSource_eq, unresolved_ofSource_eq]
  apply List.Sublist.map
  apply List.monotone_filter_right
  intro p hp
  by_contra hn
  have hbound : p.2.isBound rows := by simpa using hn
  simp [isBound_of_code? h hbound] at hp

/-- Every reference of a source is accounted for once. Those whose name a row has are the entries,
in order, each with the code of the latest such row and its own arity; the others are the
unresolved ones, in order, with ascending line numbers. Under rows that bind every bound name to the
same code the entries stay, in their order, and no reference becomes unresolved. -/
theorem references_accounted_for (rows : List Binding) (s : Source) :
    List.Forall₂ (fun p e => p.2.Resolves rows e) (s.references.filter (·.2.isBound rows))
        (ofSource (some (ofRows rows)) s).entries ∧
      (ofSource (some (ofRows rows)) s).unresolved =
        (s.references.filter fun p => ! p.2.isBound rows).map (fun p => ⟨p.2.name, p.1⟩) ∧
      (ofSource (some (ofRows rows)) s).entries.length +
        (ofSource (some (ofRows rows)) s).unresolved.length = s.references.length ∧
      (ofSource (some (ofRows rows)) s).unresolved.Pairwise (·.line < ·.line) ∧
      ∀ rows', (∀ name c, (ofRows rows).code? name = some c →
          (ofRows rows').code? name = some c) →
        (ofSource (some (ofRows rows)) s).entries.Sublist
            (ofSource (some (ofRows rows')) s).entries ∧
          (ofSource (some (ofRows rows')) s).unresolved.Sublist
            (ofSource (some (ofRows rows)) s).unresolved := by
  have hentries : List.Forall₂ (fun p e => p.2.Resolves rows e)
      (s.references.filter (·.2.isBound rows)) (ofSource (some (ofRows rows)) s).entries := by
    rw [entries_ofSource_eq]
    exact forall₂_resolves rows s.references
  have hunresolved := unresolved_ofSource_eq rows s
  refine ⟨hentries, hunresolved, ?_, ?_, fun rows' h =>
    ⟨entries_sublist h s, unresolved_sublist h s⟩⟩
  · have hsplit := s.references.length_eq_length_filter_add (·.2.isBound rows)
    rw [hunresolved, List.length_map, ← hentries.length_eq, ← hsplit]
  · rw [hunresolved, List.pairwise_map]
    exact (pairwise_references s).filter _

/-- Three references, the first and the last of one name. -/
def gateSource : Source where
  path := "gates.c"
  content := Text.ofLines ["// implements Door(tag, speed)", "int gate;", "// Implements Gate()",
    "//  IMPLEMENTS Door(tag)"]

/-- Two rows of one name. -/
def doorRows : List Binding := [⟨⟨"11"⟩, "EV_Door", "Door", 2⟩, ⟨⟨"12"⟩, "EV_Door", "Door", 3⟩]

/-- One more row, of another name. -/
def gateRows : List Binding := doorRows ++ [⟨⟨"40"⟩, "EV_Gate", "Gate", 4⟩]

/-- The row of the second name makes its reference an entry between those of the first. -/
theorem gateSource_resolved :
    (∀ name c, (ofRows doorRows).code? name = some c → (ofRows gateRows).code? name = some c) ∧
      ofSource (some (ofRows doorRows)) gateSource =
        ⟨[⟨⟨"12"⟩, "Door", 2⟩, ⟨⟨"12"⟩, "Door", 1⟩], [⟨"Gate", 3⟩]⟩ ∧
      ofSource (some (ofRows gateRows)) gateSource =
        ⟨[⟨⟨"12"⟩, "Door", 2⟩, ⟨⟨"40"⟩, "Gate", 0⟩, ⟨⟨"12"⟩, "Door", 1⟩], []⟩ ∧
      (ofSource (some (ofRows doorRows)) gateSource).entries.Sublist
        (ofSource (some (ofRows gateRows)) gateSource).entries ∧
      (ofSource (some (ofRows gateRows)) gateSource).unresolved.Sublist
        (ofSource (some (ofRows doorRows)) gateSource).unresolved := by
  have hmore : ∀ name c, (ofRows doorRows).code? name = some c →
      (ofRows gateRows).code? name = some c := by
    intro name c h
    obtain ⟨b, hb, rfl⟩ := Option.map_eq_some_iff.mp h
    rw [BindingMap.get?_ofRows] at hb
    have hall : ∀ a ∈ doorRows, a.name = "Door" := by decide
    have hname := hall b (List.mem_reverse.mp (List.mem_of_find?_eq_some hb))
    have hfound := List.find?_some hb
    have hdoor : name = "Door" := by rw [← hname]; exact (beq_iff_eq.mp hfound).symm
    subst hdoor
    cases Option.some.inj hb
    rfl
  have hscans := (references_accounted_for doorRows gateSource).2.2.2.2 gateRows hmore
  exact ⟨hmore, by decide +kernel, by decide +kernel, hscans⟩

end ScanResult

end LineSpecials
