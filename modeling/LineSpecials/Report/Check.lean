import LineSpecials.Report.Json
import LineSpecials.Report.Output
import LineSpecials.Run

namespace LineSpecials

/-- Messages kept apart by severity. -/
structure Messages where
  errors : List Text
  warnings : List Text
  infos : List Text
  deriving DecidableEq

namespace Messages

/-- No messages. -/
def empty : Messages := ⟨[], [], []⟩

/-- The messages with that of one more diagnostic, behind those of its severity. -/
def add (m : Messages) (d : Diagnostic) : Messages :=
  match d.severity with
  | .error => { m with errors := m.errors ++ [d.detailed] }
  | .warning => { m with warnings := m.warnings ++ [d.detailed] }
  | .info => { m with infos := m.infos ++ [d.detailed] }

/-- The messages of diagnostics in turn. -/
def ofDiagnostics (ds : List Diagnostic) : Messages := ds.foldl add empty

end Messages

/-- What a check found. -/
structure CheckReport where
  style : TableStyle
  actionsPath : Text
  bindingsPath : Option Text
  bindingCount : Option Nat
  entries : List Entry
  errors : List Text
  warnings : List Text
  infos : List Text
  deriving DecidableEq

namespace CheckReport

/-- The report on a finished run. -/
def ofState (s : RunState) : CheckReport :=
  let messages := Messages.ofDiagnostics s.diagnostics
  { style := s.request.style
    actionsPath := s.request.actions.path
    bindingsPath := s.request.bindings.map (·.path)
    bindingCount := s.bindings.map (·.size)
    entries := s.entries
    errors := messages.errors
    warnings := messages.warnings
    infos := messages.infos }

/-- The report of a request's run. -/
def ofRequest (r : Request) : Except PhaseFailure CheckReport := r.run.map ofState

/-- Whether the sources are usable. -/
def isValid (r : CheckReport) : Bool := r.errors.isEmpty

/-- A number with its noun, which takes an `s` unless the number is one. -/
def counted (n : Nat) (noun : Text) : Text :=
  Text.ofNat n ++ ' ' :: noun ++ (if n = 1 then [] else ['s'])

/-- The calls that print the report. -/
def output (r : CheckReport) : List Output :=
  r.errors.map (fun e => .warning ("error: " ++ e)) ++
  r.warnings.map (fun w => .warning ("warning: " ++ w)) ++
  r.infos.map (fun i => .preformatted ("info: " ++ i)) ++
  (if r.infos.isEmpty then [] else [.newline]) ++
  (match r.bindingsPath, r.bindingCount with
    | some path, some n => [.keyValue path (counted n "binding")]
    | _, _ => []) ++
  .keyValue r.actionsPath (counted r.entries.length "special") ::
  r.entries.map (fun e => .listItem e.display) ++
  (if r.isValid then [.newline, .preformatted ("✓ " ++ r.actionsPath ++ " is usable")] else [])

/-- The entry as a JSON record. -/
def entryJson (e : Entry) : Json :=
  .fields [("code", .text e.code.text), ("name", .text e.name), ("arity", .number e.arity)]

/-- The report as a JSON document; the members about bindings stand there only if they are
known. -/
def json (r : CheckReport) : Json :=
  .fields <|
    [("style".toList, .text r.style.name), ("actions_path".toList, .text r.actionsPath)] ++
    (r.bindingsPath.map fun p => ("bindings_path".toList, Json.text p)).toList ++
    (r.bindingCount.map fun n => ("binding_count".toList, Json.number n)).toList ++
    [("entries".toList, .list (r.entries.map entryJson)),
      ("errors".toList, .list (r.errors.map .text)),
      ("warnings".toList, .list (r.warnings.map .text)),
      ("infos".toList, .list (r.infos.map .text))]

end CheckReport

end LineSpecials
