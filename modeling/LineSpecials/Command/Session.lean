import LineSpecials.Command.Arguments
import LineSpecials.Config.Fit
import LineSpecials.Files
import LineSpecials.Log.Spec
import LineSpecials.Report.Check
import LineSpecials.Report.Emission

namespace LineSpecials.Command

/-- A session over some way to ask for files. -/
abbrev Session (m : Type → Type) := ExceptT Failure (StateT (List Chunk) m)

/-- What a session leaves behind. -/
structure Outcome where
  exit : Nat
  printed : List Chunk
  failure : Option Failure
  deriving DecidableEq

namespace Session

variable {m : Type → Type} [Monad m]

/-- Pieces printed. -/
def print (chunks : List Chunk) : Session m Unit := modify (· ++ chunks)

/-- The records printed that a filter lets through. -/
def log (filter : Log.Filter) (records : List Log.Record) : Session m Unit :=
  print ((records.filter filter.passes).map fun r => .err r.line)

/-- The calls of a report printed. -/
def report (calls : List Output) : Session m Unit := print (calls.map Output.chunk)

/-- A source opened, under the path it is reported by. -/
def openSource (files : FileAccess m) (filter : Log.Filter) (path : Text) : Session m Source := do
  match ← files.read path with
  | .error cause => throw (.unreadable path cause)
  | .ok content =>
    log filter [⟨.debug, .file,
      "read " ++ path ++ " (" ++ Text.ofNat (Text.byteLength content) ++ " bytes)"⟩]
    return ⟨path, content⟩

/-- The settings of a file, or the standard ones if it does not exist. -/
def loadConfig (files : FileAccess m) (filter : Log.Filter) (path : Text) :
    Session m Config := do
  if ← files.isPresent path then
    match ← files.read path with
    | .error cause => throw (.unreadable path cause)
    | .ok content =>
      log filter [⟨.debug, .config, "loaded config from " ++ path⟩]
      ofExcept (Config.ofText content path)
  else
    log filter [⟨.debug, .config, "no config at " ++ path ++ ", using defaults"⟩]
    return .standard

/-- The outcome of a session that returns an exit status; failures have status 1. -/
def outcome (s : Session m Nat) : m Outcome := do
  let (result, printed) ← (ExceptT.run s).run []
  return match result with
    | .ok exit => ⟨exit, printed, none⟩
    | .error f => ⟨1, printed, some f⟩

end Session

/-- The path of the settings file: the one given, or the one at the root. -/
def Globals.configPath (g : Globals) : Text := g.config.getD (Path.join g.root Config.fileName)

section

variable {m : Type → Type} [Monad m] (files : FileAccess m) (filter : Log.Filter)

/-- The end of a session by a phase that failed. -/
def phaseFailed (e : PhaseFailure) : Session m Nat := do
  Session.print [.err (e.message ++ ['\n'])]
  return 1

/-- The table of a request printed, unless its report holds errors. -/
def emit (r : Request) (echo : Bool) (component : Log.Component) : Session m Nat := do
  Session.log filter (Emission.notes r)
  match Emission.ofRequest r echo with
  | .error e => phaseFailed e
  | .ok report =>
    if report.isOk then
      Session.log filter
        [⟨.info, component, "emitting " ++ Text.ofNat report.entryCount ++ " specials"⟩]
      Session.report report.output
      return 0
    else throw (.noEntries report.actionsPath)

/-- The check of a request printed; its status tells whether the sources are usable. -/
def inspect (r : Request) (json : Bool) : Session m Nat := do
  Session.log filter r.notes
  match CheckReport.ofRequest r with
  | .error e => phaseFailed e
  | .ok report =>
    if json then Session.print [.out (report.json.pretty 0 ++ ['\n'])]
    else Session.report report.output
    return if report.isValid then 0 else 1

/-- A task carried out. -/
def Task.run (g : Globals) : Task → Session m Nat
  | table actions denyEmpty => do
    let config ← Session.loadConfig files filter g.configPath
    let actions ← Session.openSource files filter
      (Path.join g.root (actions.getD config.paths.actions))
    emit filter ⟨actions, none, denyEmpty || config.table.denyEmpty⟩ false .tableCommand
  | xref bindings actions noEcho denyEmpty => do
    let config ← Session.loadConfig files filter g.configPath
    let bindings ← Session.openSource files filter
      (Path.join g.root (bindings.getD config.paths.bindings))
    let actions ← Session.openSource files filter
      (Path.join g.root (actions.getD config.paths.actions))
    emit filter ⟨actions, some bindings, denyEmpty || config.table.denyEmpty⟩
      (config.table.echoBindings && !noEcho) .xrefCommand
  | check mode bindings actions denyEmpty json => do
    let config ← Session.loadConfig files filter g.configPath
    let actions ← Session.openSource files filter
      (Path.join g.root (actions.getD config.paths.actions))
    let bindings ← match mode with
      | .commentBlock => pure none
      | .crossReference => do
        let source ← Session.openSource files filter
          (Path.join g.root (bindings.getD config.paths.bindings))
        pure (some source)
    inspect filter ⟨actions, bindings, denyEmpty || config.table.denyEmpty⟩ json
  -- The script is not written here but by the library that knows the command line.
  | completions _ => return 0

end

/-- The version of the program. -/
def versionLine : Text := "genspecials 0.1.0\n"

/-- A command line carried out; `spec` is what the environment says about logging. What is wrong
with it is printed first. Help is left out, like the script of completions; only the status is that
of a program that prints them. -/
def run {m : Type → Type} [Monad m] (files : FileAccess m) (spec : Option Text)
    (args : List Text) : m Outcome :=
  match Invocation.ofArguments args with
  | .error .version => pure ⟨0, [.out versionLine], none⟩
  | .error .help => pure ⟨0, [], none⟩
  | .error .misuse => pure ⟨2, [], none⟩
  | .ok call =>
    let (filter, faults) :=
      (Log.Filter.ofLevel (.ofVerbosity call.globals.verbosity)).refine (spec.getD [])
    Session.outcome do
      Session.print (faults.map fun f => .err (f.warning ++ ['\n']))
      call.task.run files filter call.globals

end LineSpecials.Command
