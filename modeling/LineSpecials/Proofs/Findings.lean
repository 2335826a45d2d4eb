import LineSpecials.Proofs.RunOutcome
import LineSpecials.Proofs.ScannerAgreement
import LineSpecials.Proofs.TableState
import Mathlib.Data.List.GetD

namespace LineSpecials

namespace BindingMap

open TableEvent (isOpenAfter)

/-- The row on a line, if the line finds the table open, begins as rows do and can be read. -/
def rowAt? (lines : List Text) (i : Nat) : Option Binding :=
  if isOpenAfter false (lines.take i) && rowWord.isPrefixOf (Text.trim (lines.getD i [])) then
    Binding.ofLine (Text.trim (lines.getD i [])) (i + 1)
  else none

/-- The rows of the first `n` lines. -/
def rowsBefore (lines : List Text) (n : Nat) : List Binding :=
  (List.range n).filterMap (rowAt? lines)

theorem rowAt?_append {lines : List Text} {i : Nat} (h : i < lines.length) (more : List Text) :
    rowAt? (lines ++ more) i = rowAt? lines i := by
  unfold rowAt?
  rw [List.take_append_of_le_length (Nat.le_of_lt h), List.getD_append _ _ _ _ h]

theorem rowsBefore_append {lines : List Text} {n : Nat} (h : n ≤ lines.length)
    (more : List Text) : rowsBefore (lines ++ more) n = rowsBefore lines n := by
  apply List.filterMap_congr
  intro i hi
  have hi := List.mem_range.mp hi
  exact rowAt?_append (by omega) more

theorem line_of_rowAt? {lines : List Text} {i : Nat} {b : Binding} (h : rowAt? lines i = some b) :
    b.line = i + 1 := by
  unfold rowAt? at h
  split at h
  next => exact Binding.line_of_ofLine h
  next => simp at h

/-- One more line adds its row. -/
theorem ofLines_concat (lines : List Text) (line : Text) : ofLines (lines ++ [line]) =
    (rowAt? (lines ++ [line]) lines.length).elim (ofLines lines) (ofLines lines).insert := by
  have hrow : (TableEvent.ofLine (isOpenAfter false lines) (1 + lines.length) line).bind (·.row?) =
      rowAt? (lines ++ [line]) lines.length := by
    apply Option.ext
    intro b
    have hget : (lines ++ [line]).getD lines.length [] = line := by simp
    unfold rowAt?
    rw [hget, List.take_left, Option.bind_eq_some_iff]
    simp only [TableEvent.row?_eq_some_iff, exists_eq_right, TableEvent.ofLine_eq_row_iff,
      Nat.add_comm 1]
    split
    next h => simp_all
    next h => simp_all
  have hevents : tableEvents (lines ++ [line]) = tableEvents lines ++
      (TableEvent.ofLine (isOpenAfter false lines) (1 + lines.length) line).toList := by
    unfold tableEvents
    rw [TableEvent.ofLines_append, TableEvent.ofLines, TableEvent.ofLines, List.append_nil]
  unfold ofLines
  rw [hevents, List.filterMap_append, ← hrow]
  cases TableEvent.ofLine (isOpenAfter false lines) (1 + lines.length) line with
  | none => simp
  | some e => cases he : e.row? <;> simp [he, ofRows_concat]

theorem rowsBefore_succ (lines : List Text) (n : Nat) :
    rowsBefore lines (n + 1) = rowsBefore lines n ++ (rowAt? lines n).toList := by
  unfold rowsBefore
  rw [List.range_succ, List.filterMap_append]
  cases h : rowAt? lines n <;> simp [h]

theorem rows_eq_rowsBefore (lines : List Text) :
    (ofLines lines).rows = rowsBefore lines lines.length := by
  induction lines using List.reverseRecOn with
  | nil => rfl
  | append_singleton lines line ih =>
    rw [List.length_append, List.length_singleton, rowsBefore_succ,
      rowsBefore_append (Nat.le_refl _), ← ih, ofLines_concat]
    cases rowAt? (lines ++ [line]) lines.length with
    | none => exact (List.append_nil _).symm
    | some b => rfl

/-- A name has a position in the index if a row has it. -/
theorem position?_ofLines_isSome (lines : List Text) (name : Text) :
    ((ofLines lines).position? name).isSome =
      (rowsBefore lines lines.length).any (·.name == name) := by
  rw [← rows_eq_rowsBefore, rows_ofLines, Bool.eq_iff_iff]
  unfold ofLines
  rw [position?_isSome_iff, List.any_eq_true]
  simp only [beq_iff_eq]

/-- The repeated rows are those of the lines before which a row has their name. -/
theorem repeated_ofLines (lines : List Text) : (ofLines lines).repeated =
    (List.range lines.length).filterMap fun i =>
      (rowAt? lines i).filter fun b => (rowsBefore lines i).any (·.name == b.name) := by
  induction lines using List.reverseRecOn with
  | nil => rfl
  | append_singleton lines line ih =>
    have hearlier : (List.range lines.length).filterMap (fun i =>
        (rowAt? (lines ++ [line]) i).filter fun b =>
          (rowsBefore (lines ++ [line]) i).any (·.name == b.name)) = (ofLines lines).repeated := by
      rw [ih]
      apply List.filterMap_congr
      intro i hi
      have hi := List.mem_range.mp hi
      rw [rowAt?_append hi, rowsBefore_append (by omega)]
    rw [List.length_append, List.length_singleton, List.range_succ, List.filterMap_append, hearlier,
      ofLines_concat, List.filterMap_cons, rowsBefore_append (Nat.le_refl _)]
    cases rowAt? (lines ++ [line]) lines.length with
    | none => exact (List.append_nil _).symm
    | some b =>
      have hinsert : ((ofLines lines).insert b).repeated =
          if ((ofLines lines).position? b.name).isSome then (ofLines lines).repeated ++ [b]
          else (ofLines lines).repeated := rfl
      rw [Option.elim_some, hinsert, position?_ofLines_isSome, Option.filter_some]
      split
      next => rfl
      next => exact (List.append_nil _).symm

theorem code?_ofLines_isSome (lines : List Text) (name : Text) :
    ((ofLines lines).code? name).isSome = (rowsBefore lines lines.length).any (·.name == name) := by
  rw [← rows_eq_rowsBefore, rows_ofLines]
  exact code?_ofRows_isSome _ name

end BindingMap

namespace Source

open BindingMap (rowAt? rowsBefore)

/-- The warnings about a binding source: one for each line with a row whose name an earlier row
has. -/
def repeatedRows (s : Source) : List Diagnostic :=
  (List.range s.lines.length).filterMap fun i =>
    ((rowAt? s.lines i).filter fun b => (rowsBefore s.lines i).any (·.name == b.name)).map fun b =>
      ⟨.warning, "validate",
        "'" ++ b.name ++ "' is bound more than once, using code " ++ b.code.text,
        some (s.path ++ ':' :: Text.ofNat (i + 1))⟩

/-- The notices about an action source: one for each line with a reference whose name no row of the
binding source has. -/
def unboundReferences (bindings actions : Source) : List Diagnostic :=
  (List.range actions.lines.length).filterMap fun i =>
    ((Reference.ofLine (actions.lines.getD i [])).filter fun r =>
      ! (rowsBefore bindings.lines bindings.lines.length).any (·.name == r.name)).map fun r =>
        ⟨.info, "validate", "'" ++ r.name ++ "' has no binding",
          some (actions.path ++ ':' :: Text.ofNat (i + 1))⟩

theorem map_repeatedRow (s : Source) :
    (BindingMap.ofLines s.lines).repeated.map (Phase.repeatedRow s.path) = s.repeatedRows := by
  rw [BindingMap.repeated_ofLines, List.map_filterMap]
  apply List.filterMap_congr
  intro i _
  cases h : rowAt? s.lines i with
  | none => rfl
  | some b =>
    have hplace : Phase.place s.path b.line = s.path ++ ':' :: Text.ofNat (i + 1) := by
      rw [BindingMap.line_of_rowAt? h]
      rfl
    rw [Option.filter_some]
    split
    next =>
      rw [Option.map_some, Option.map_some]
      unfold Phase.repeatedRow
      rw [hplace]
      rfl
    next => rfl

theorem map_unboundName (bindings actions : Source) :
    (ScanResult.ofReferences (BindingMap.ofLines bindings.lines) actions.lines).unresolved.map
      (Phase.unboundName actions.path) = bindings.unboundReferences actions := by
  unfold ScanResult.ofReferences
  dsimp only
  rw [ScanResult.references_eq, List.filterMap_filterMap, List.map_filterMap]
  apply List.filterMap_congr
  intro i _
  cases h : Reference.ofLine (actions.lines.getD i []) with
  | none => rfl
  | some r =>
    rw [Option.map_some, Option.bind_some, BindingMap.code?_ofLines_isSome, Option.filter_some,
      Nat.add_comm 1 i]
    cases (rowsBefore bindings.lines bindings.lines.length).any (·.name == r.name) <;> rfl

end Source

namespace Request

open BindingMap (rowsBefore)

/-- The diagnostics of a run, told by lines. By references, where the rows are those found on the
lines one by one, there is one warning for each row whose name an earlier row has and one notice for
each reference whose name no row has, in the order of their lines and placed there; then there is
one report without a place if and only if the table has no entries, and nothing else. By comment
blocks there is this report at most. -/
theorem diagnostics_line_by_line (r : Request) :
    ∃ s, r.run = .ok s ∧
      s.bindings.map (·.rows) =
        r.bindings.map (fun source => rowsBefore source.lines source.lines.length) ∧
      s.diagnostics =
      (match r.bindings with
        | some source => source.repeatedRows ++ source.unboundReferences r.actions
        | none => []) ++
      (if s.entries = [] then
        [⟨if r.denyEmpty then .error else .warning, "validate",
          "no specials found in " ++ r.actions.path, none⟩]
      else []) := by
  have hempty : (if r.found.entries.isEmpty then [Phase.emptyTable r] else []) =
      if r.finished.entries = [] then [Phase.emptyTable r] else [] := by
    have hentries : r.found.entries.isEmpty ↔ r.finished.entries = [] := by
      rw [List.isEmpty_iff, List.eq_nil_iff_forall_not_mem, List.eq_nil_iff_forall_not_mem]
      simp only [mem_entries_finished]
    simp only [hentries]
  have hrows : r.finished.bindings.map (·.rows) =
      r.bindings.map fun source => rowsBefore source.lines source.lines.length := by
    change (r.bindings.map fun source => BindingMap.ofLines source.lines).map (·.rows) = _
    rw [Option.map_map]
    exact congrArg (r.bindings.map ·) (funext fun source =>
      BindingMap.rows_eq_rowsBefore source.lines)
  refine ⟨r.finished, r.run_eq, hrows, ?_⟩
  rw [diagnostics_finished, hempty]
  refine congrArg (· ++ _) ?_
  obtain ⟨actions, bindings, denyEmpty⟩ := r
  cases bindings with
  | none => rfl
  | some source =>
    change (BindingMap.ofLines source.lines).repeated.map (Phase.repeatedRow source.path) ++
      (ScanResult.ofReferences (BindingMap.ofLines source.lines) actions.lines).unresolved.map
        (Phase.unboundName actions.path) = _
    rw [source.map_repeatedRow, source.map_unboundName]

/-- Three rows of one name give two warnings, and a name without a row one notice. -/
example : (Request.run ⟨⟨"a.c", "// Implements Door(tag)\n\n// Implements Gate()"⟩,
    some ⟨"b.c", "ev_binding_t HexenBindings[] =\nLINESPECNAMED(1, A, \"Door\")\n" ++
      "LINESPECNAMED(2, B, \"Door\")\nLINESPECNAMED(3, C)\nLINESPECNAMED(4, D, \"Door\")"⟩,
    true⟩).map (fun s => s.diagnostics.map fun d => (d.severity, d.location)) =
      .ok [(.warning, some "b.c:3"), (.warning, some "b.c:5"), (.info, some "a.c:3")] := by
  decide +kernel

end Request

end LineSpecials
