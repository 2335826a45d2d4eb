import LineSpecials.Text.Basic

namespace LineSpecials

/-- How grave a diagnostic is; errors make a run fail. -/
inductive Severity
  | error
  | warning
  | info
  deriving DecidableEq

/-- The word for a severity. -/
def Severity.name : Severity → Text
  | error => "error"
  | warning => "warning"
  | info => "info"

/-- A message of a phase, with the place it is about if there is one. -/
structure Diagnostic where
  severity : Severity
  phase : Text
  message : Text
  location : Option Text
  deriving DecidableEq

namespace Diagnostic

/-- The message, and the place in parentheses. -/
def described (d : Diagnostic) : Text :=
  match d.location with
  | some place => d.message ++ " (at " ++ place ++ ")"
  | none => d.message

/-- The message, and the place on a line of its own. -/
def detailed (d : Diagnostic) : Text :=
  match d.location with
  | some place => d.message ++ "\n  --> " ++ place
  | none => d.message

/-- The diagnostic on one line, severity first. -/
def display (d : Diagnostic) : Text := d.severity.name ++ ": " ++ d.described

/-- Those of one severity, in order. -/
def ofSeverity (s : Severity) (ds : List Diagnostic) : List Diagnostic :=
  ds.filter (·.severity == s)

end Diagnostic

end LineSpecials
