import LineSpecials.Report.Output
import LineSpecials.Run

namespace LineSpecials

/-- A table ready to be printed. -/
structure Emission where
  actionsPath : Text
  echo : List Text
  table : Text
  entryCount : Nat
  errors : List Text
  warnings : List Text
  deriving DecidableEq

namespace Emission

/-- The report on a finished run; rows of its binding table are echoed on demand. -/
def ofState (s : RunState) (echoBindings : Bool) : Emission where
  actionsPath := s.request.actions.path
  echo := match s.bindings with
    | some m => if echoBindings then m.rows.map Binding.echo else []
    | none => []
  table := s.table.render
  entryCount := s.entries.length
  errors := (s.diagnosticsOf .error).map Diagnostic.described
  warnings := (s.diagnosticsOf .warning).map Diagnostic.described

/-- The report of a request's run. -/
def ofRequest (r : Request) (echoBindings : Bool) : Except PhaseFailure Emission :=
  r.run.map fun s => ofState s echoBindings

/-- The records of making the report: those of the run, then its notices. -/
def notes (r : Request) : List Log.Record :=
  r.notes ++
    match r.run with
    | .ok s => (s.diagnosticsOf .info).map fun d => ⟨.info, .generate, d.display⟩
    | .error _ => []

/-- Whether the table may be printed. -/
def isOk (e : Emission) : Bool := e.errors.isEmpty

/-- The calls that print the report: warnings, echoed rows, the table. -/
def output (e : Emission) : List Output :=
  e.warnings.map (fun w => .warning ("warning: " ++ w)) ++ e.echo.map .preformatted ++
    [.raw e.table]

end Emission

end LineSpecials
