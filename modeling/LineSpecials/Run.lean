import LineSpecials.Diagnostic
import LineSpecials.Scan
import LineSpecials.Table

namespace LineSpecials

/-- What a run is asked to do. With a binding source it goes by references, without one by
comment blocks. -/
structure Request where
  actions : Source
  bindings : Option Source
  denyEmpty : Bool
  deriving DecidableEq

/-- Tables from comment blocks are sorted, tables from references are streamed. -/
def Request.style (r : Request) : TableStyle :=
  match r.bindings with
  | none => .sorted
  | some _ => .streamed

/-- A run under way. -/
structure RunState where
  request : Request
  bindings : Option BindingMap
  entries : List Entry
  unresolved : List Unresolved
  diagnostics : List Diagnostic
  deriving DecidableEq

namespace RunState

/-- A run before its first phase. -/
def start (r : Request) : RunState := ⟨r, none, [], [], []⟩

/-- The entries in the style the request calls for. -/
def table (s : RunState) : Table := ⟨s.request.style, s.entries⟩

/-- The diagnostics of one severity. -/
def diagnosticsOf (s : RunState) (severity : Severity) : List Diagnostic :=
  Diagnostic.ofSeverity severity s.diagnostics

/-- Whether a diagnostic of the severity was recorded. -/
def hasAny (s : RunState) (severity : Severity) : Bool :=
  s.diagnostics.any (·.severity == severity)

end RunState

/-- Why a phase cannot do its work. -/
inductive PhaseFailure
  | bindingsNotRead
  | custom (message : Text)
  deriving DecidableEq

/-- The wording of a failure. -/
def PhaseFailure.message : PhaseFailure → Text
  | bindingsNotRead => "bindings not set - ScanPhase must run after BindingsPhase"
  | custom m => m

/-- The built-in phases. -/
inductive Phase
  | bindings
  | scan
  | validate
  | order
  deriving DecidableEq

namespace Phase

/-- The word for a phase. -/
def name : Phase → Text
  | bindings => "bindings"
  | scan => "scan"
  | validate => "validate"
  | order => "order"

/-- What a phase is for. -/
def description : Phase → Text
  | bindings => "Read the binding table"
  | scan => "Collect specials from the action source"
  | validate => "Report empty tables, unbound names and duplicate bindings"
  | order => "Sort entries by padded code"

/-- All phases in the order a run takes them. -/
def all : List Phase := [bindings, scan, validate, order]

/-- A path with a line number. -/
def place (path : Text) (line : Nat) : Text := path ++ ':' :: Text.ofNat line

/-- The warning about a row whose name an earlier row has. -/
def repeatedRow (path : Text) (b : Binding) : Diagnostic :=
  ⟨.warning, name validate,
    "'" ++ b.name ++ "' is bound more than once, using code " ++ b.code.text,
    some (place path b.line)⟩

/-- The notice of a reference without a binding. -/
def unboundName (path : Text) (u : Unresolved) : Diagnostic :=
  ⟨.info, name validate, "'" ++ u.name ++ "' has no binding", some (place path u.line)⟩

/-- The report of a table without entries, an error if the request denies it. -/
def emptyTable (r : Request) : Diagnostic :=
  ⟨if r.denyEmpty then .error else .warning, name validate,
    "no specials found in " ++ r.actions.path, none⟩

/-- What there is to report about a state. -/
def findings (s : RunState) : List Diagnostic :=
  let rows := match s.request.bindings, s.bindings with
    | some source, some m => m.repeated.map (repeatedRow source.path)
    | _, _ => []
  rows ++ s.unresolved.map (unboundName s.request.actions.path) ++
    (if s.entries.isEmpty then [emptyTable s.request] else [])

/-- The binding map of the request's binding source, if it has one. -/
def bindingMap? (r : Request) : Option BindingMap :=
  r.bindings.map fun source => BindingMap.ofLines source.lines

/-- What a phase does. What it has changed stays changed if it fails. -/
def run : Phase → EStateM PhaseFailure RunState Unit
  | bindings => do
    match bindingMap? (← get).request with
    | some m => modify ({ · with bindings := some m })
    | none => return
  | scan => do
    let s ← get
    let m ← match s.request.bindings, s.bindings with
      | some _, none => throw .bindingsNotRead
      | some _, some m => pure (some m)
      | none, _ => pure none
    let found := ScanResult.ofSource m s.request.actions
    modify ({ · with entries := found.entries })
    modify ({ · with unresolved := found.unresolved })
  | validate => modify fun s => { s with diagnostics := s.diagnostics ++ findings s }
  | order =>
    modify fun s =>
      if s.request.style.isSorted then { s with entries := Entry.sort s.entries } else s

/-- The records of a phase on a state. -/
def notes : Phase → RunState → List Log.Record
  | bindings, s =>
    match s.request.bindings with
    | some source =>
      BindingMap.empty.notes (tableEvents source.lines) ++
        [⟨.info, .bindingsPhase, source.path ++ ": " ++
          Text.ofNat (BindingMap.ofLines source.lines).size ++ " bindings"⟩]
    | none => []
  | scan, s =>
    match s.request.bindings, s.bindings with
    | some _, none => []
    | some _, some m => ScanResult.notes (some m) s.request.actions
    | none, _ => ScanResult.notes none s.request.actions
  | _, _ => []

/-- The record that announces a phase. -/
def announcement (p : Phase) : Log.Record :=
  ⟨.debug, .runner, "phase " ++ p.name ++ ": " ++ p.description⟩

end Phase

/-- A step of a run beyond the built-in phases. -/
inductive Step
  | phase (p : Phase)
  | diagnostic (d : Diagnostic)
  | entry (e : Entry)
  | unresolved (u : Unresolved)
  | denyEmpty (value : Bool)
  | fail (message : Text)
  deriving DecidableEq

/-- What a step does. -/
def Step.run : Step → EStateM PhaseFailure RunState Unit
  | phase p => p.run
  | diagnostic d => modify fun s => { s with diagnostics := s.diagnostics ++ [d] }
  | entry e => modify fun s => { s with entries := s.entries ++ [e] }
  | unresolved u => modify fun s => { s with unresolved := s.unresolved ++ [u] }
  | denyEmpty value => modify fun s => { s with request := { s.request with denyEmpty := value } }
  | fail message => throw (.custom message)

namespace RunState

/-- The state that work leaves behind, done or failed. -/
def left : EStateM.Result PhaseFailure RunState Unit → RunState
  | .ok _ s | .error _ s => s

/-- What each step comes to. A step that fails does not keep the next one from its turn. -/
def trail (s : RunState) : List Step → List (EStateM.Result PhaseFailure RunState Unit)
  | [] => []
  | step :: steps =>
    let result := step.run s
    result :: trail (left result) steps

/-- The records of phases in turn, up to a failure. -/
def notesOf (s : RunState) : List Phase → List Log.Record
  | [] => []
  | p :: ps =>
    p.announcement :: p.notes s ++
      match p.run s with
      | .ok _ s' => s'.notesOf ps
      | .error _ _ => []

end RunState

namespace Request

/-- A full run: the built-in phases, then the extra steps. The first failure ends it, and nothing
of its state is left then. -/
def runWith (r : Request) (extra : List Step) : Except PhaseFailure RunState :=
  match (Phase.all.map Step.phase ++ extra).forM Step.run (RunState.start r) with
  | .ok _ s => .ok s
  | .error e _ => .error e

/-- A full run without extra steps. -/
def run (r : Request) : Except PhaseFailure RunState := r.runWith []

/-- The records of a full run. -/
def notes (r : Request) : List Log.Record := (RunState.start r).notesOf Phase.all

end Request

end LineSpecials
