import LineSpecials.Proofs.RunOutcome
import LineSpecials.Report.Check
import LineSpecials.Report.Emission
import Mathlib.Data.List.Induction

namespace LineSpecials

namespace Diagnostic

/-- Diagnostics told one after another in two wordings: with the place in parentheses, and with the
place on a line of its own. -/
inductive ToldAs : List Diagnostic → List Text → List Text → Prop
  | nil : ToldAs [] [] []
  | bare {d : Diagnostic} {ds : List Diagnostic} {short long : List Text}
      (hplace : d.location = none) (h : ToldAs ds short long) :
      ToldAs (d :: ds) (d.message :: short) (d.message :: long)
  | placed {d : Diagnostic} {ds : List Diagnostic} {short long : List Text} {place : Text}
      (hplace : d.location = some place) (h : ToldAs ds short long) :
      ToldAs (d :: ds) ((d.message ++ " (at ".toList ++ place ++ [')']) :: short)
        ((d.message ++ "\n  --> ".toList ++ place) :: long)

theorem ofSeverity_append (severity : Severity) (ds es : List Diagnostic) :
    ofSeverity severity (ds ++ es) = ofSeverity severity ds ++ ofSeverity severity es :=
  List.filter_append ds es

theorem toldAs_map (ds : List Diagnostic) : ToldAs ds (ds.map described) (ds.map detailed) := by
  induction ds with
  | nil => exact .nil
  | cons d ds ih =>
    rw [List.map_cons, List.map_cons]
    cases hplace : d.location with
    | none =>
      have hshort : d.described = d.message := by simp [described, hplace]
      have hlong : d.detailed = d.message := by simp [detailed, hplace]
      rw [hshort, hlong]
      exact .bare hplace ih
    | some place =>
      have hshort : d.described = d.message ++ " (at ".toList ++ place ++ [')'] := by
        simp [described, hplace]
      have hlong : d.detailed = d.message ++ "\n  --> ".toList ++ place := by
        simp [detailed, hplace]
      rw [hshort, hlong]
      exact .placed hplace ih

end Diagnostic

namespace Messages

/-- One pass over diagnostics tells of each severity what a filter for it finds. -/
theorem ofDiagnostics_eq (ds : List Diagnostic) :
    ofDiagnostics ds = ⟨(Diagnostic.ofSeverity .error ds).map Diagnostic.detailed,
      (Diagnostic.ofSeverity .warning ds).map Diagnostic.detailed,
      (Diagnostic.ofSeverity .info ds).map Diagnostic.detailed⟩ := by
  induction ds using List.reverseRecOn with
  | nil => rfl
  | append_singleton ds d ih =>
    have hlast : ofDiagnostics (ds ++ [d]) = (ofDiagnostics ds).add d := by simp [ofDiagnostics]
    rw [hlast, ih]
    simp only [Diagnostic.ofSeverity_append, List.map_append]
    unfold add
    cases hs : d.severity <;> simp [Diagnostic.ofSeverity, hs]

end Messages

/-- The errors among findings: a table without entries if it is denied, and nothing else. -/
theorem Phase.errors_findings (s : RunState) :
    Diagnostic.ofSeverity .error (findings s) =
      if s.entries = [] ∧ s.request.denyEmpty then [emptyTable s.request] else [] := by
  have hrows : ∀ (path : Text) (bs : List Binding),
      Diagnostic.ofSeverity .error (bs.map (repeatedRow path)) = [] := by
    intro path bs
    simp [Diagnostic.ofSeverity, repeatedRow]
  have hunbound : ∀ (path : Text) (us : List Unresolved),
      Diagnostic.ofSeverity .error (us.map (unboundName path)) = [] := by
    intro path us
    simp [Diagnostic.ofSeverity, unboundName]
  have hempty : Diagnostic.ofSeverity .error
      (if s.entries.isEmpty then [emptyTable s.request] else []) =
        if s.entries = [] ∧ s.request.denyEmpty then [emptyTable s.request] else [] := by
    cases he : s.entries <;> cases hd : s.request.denyEmpty <;>
      simp [Diagnostic.ofSeverity, emptyTable, hd]
  unfold findings
  dsimp only
  rw [Diagnostic.ofSeverity_append, Diagnostic.ofSeverity_append, hunbound, hempty]
  split
  next source m _ _ => rw [hrows, List.nil_append, List.nil_append]
  next => rfl

namespace Request

theorem emission_eq (r : Request) (echo : Bool) :
    Emission.ofRequest r echo = .ok (Emission.ofState r.finished echo) := by
  unfold Emission.ofRequest
  rw [r.run_eq]
  rfl

theorem check_eq (r : Request) : CheckReport.ofRequest r = .ok (CheckReport.ofState r.finished) := by
  unfold CheckReport.ofRequest
  rw [r.run_eq]
  rfl

theorem errors_finished_eq_nil_iff (r : Request) :
    r.finished.diagnosticsOf .error = [] ↔ ¬ (r.found.entries = [] ∧ r.denyEmpty) := by
  have herrors : r.finished.diagnosticsOf .error =
      if r.found.entries = [] ∧ r.denyEmpty then [Phase.emptyTable r] else [] :=
    Phase.errors_findings r.scanned
  rw [herrors]
  simp

/-- A check reports what an emission will hold. Both are made whatever the request is; the table is
that of the entries in the check; one is usable if the other is, which fails only if a table
without entries is denied and there is no entry; and both tell the same errors and warnings. -/
theorem check_agrees_with_emission (r : Request) (echo : Bool) :
    ∃ s emission check, r.run = .ok s ∧ Emission.ofRequest r echo = .ok emission ∧
      CheckReport.ofRequest r = .ok check ∧
      emission.table = Table.render ⟨check.style, check.entries⟩ ∧
      emission.entryCount = check.entries.length ∧
      emission.isOk = check.isValid ∧
      (emission.isOk = false ↔ r.denyEmpty ∧ r.found.entries = []) ∧
      Diagnostic.ToldAs (s.diagnosticsOf .error) emission.errors check.errors ∧
      Diagnostic.ToldAs (s.diagnosticsOf .warning) emission.warnings check.warnings ∧
      check.infos = (s.diagnosticsOf .info).map Diagnostic.detailed := by
  have hmessages := Messages.ofDiagnostics_eq r.finished.diagnostics
  have herrors : (CheckReport.ofState r.finished).errors =
      (r.finished.diagnosticsOf .error).map Diagnostic.detailed := congrArg (·.errors) hmessages
  have hwarnings : (CheckReport.ofState r.finished).warnings =
      (r.finished.diagnosticsOf .warning).map Diagnostic.detailed := congrArg (·.warnings) hmessages
  refine ⟨r.finished, Emission.ofState r.finished echo, CheckReport.ofState r.finished, r.run_eq,
    r.emission_eq echo, r.check_eq, rfl, rfl, ?_, ?_, ?_, ?_, congrArg (·.infos) hmessages⟩
  · unfold Emission.isOk CheckReport.isValid
    rw [herrors]
    simp [Emission.ofState]
  · have hnil := r.errors_finished_eq_nil_iff
    unfold Emission.isOk
    rw [and_comm, ← not_iff_not, ← hnil]
    simp [Emission.ofState]
  · rw [herrors]
    exact Diagnostic.toldAs_map _
  · rw [hwarnings]
    exact Diagnostic.toldAs_map _

/-- References to a name that is bound twice and to one that is not bound. -/
def twiceBoundDoor : Request where
  actions := ⟨"a.c", "// Implements Door(tag)\n// Implements Gate()\n"⟩
  bindings := some ⟨"b.c", Text.ofLines ["ev_binding_t HexenBindings[] =",
    "LINESPECNAMED(1, A, \"Door\")", "LINESPECNAMED(2, B, \"Door\")"]⟩
  denyEmpty := true

theorem twiceBoundDoor_reports :
    ∃ emission check, Emission.ofRequest twiceBoundDoor true = .ok emission ∧
      CheckReport.ofRequest twiceBoundDoor = .ok check ∧
      emission.table = Table.render ⟨check.style, check.entries⟩ ∧
      emission.isOk = check.isValid ∧
      emission = ⟨"a.c", ["1 A Door", "2 B Door"], "special\n\t2:Door(1)\n", 1, [],
        ["'Door' is bound more than once, using code 2 (at b.c:3)"]⟩ ∧
      check = ⟨.streamed, "a.c", some "b.c", some 1, [⟨⟨"2"⟩, "Door", 1⟩], [],
        ["'Door' is bound more than once, using code 2\n  --> b.c:3"],
        ["'Gate' has no binding\n  --> a.c:2"]⟩ := by
  obtain ⟨s, emission, check, -, hemission, hcheck, htable, -, hok, -⟩ :=
    check_agrees_with_emission twiceBoundDoor true
  refine ⟨emission, check, hemission, hcheck, htable, hok, ?_, ?_⟩
  · exact Except.ok.inj (hemission.symm.trans (by decide +kernel))
  · exact Except.ok.inj (hcheck.symm.trans (by decide +kernel))

end Request

end LineSpecials
