import LineSpecials.Failure
import LineSpecials.Text.Blank
import LineSpecials.Text.Lines

namespace LineSpecials

/-- The sources to read. -/
structure SourcePaths where
  actions : Text
  bindings : Text
  deriving DecidableEq

/-- How tables are made. -/
structure TableOptions where
  denyEmpty : Bool
  echoBindings : Bool
  deriving DecidableEq

/-- The settings of a checkout. -/
structure Config where
  paths : SourcePaths
  table : TableOptions
  deriving DecidableEq

/-- The sources of a checkout without settings. -/
def SourcePaths.standard : SourcePaths := ⟨"source/ev_actions.cpp", "source/ev_bindings.cpp"⟩

/-- The table options of a checkout without settings. -/
def TableOptions.standard : TableOptions := ⟨false, true⟩

namespace Config

/-- The settings of a checkout without a settings file. -/
def standard : Config := ⟨.standard, .standard⟩

/-- The name of the settings file. -/
def fileName : Text := "genspecials.toml"

/-- Where in a line its key stands if the line assigns `key`: blanks, the key, blanks and an equals
sign. -/
def assignmentColumn (key line : Text) : Option Nat :=
  match (line.trimStart).dropLead? key with
  | some rest =>
    if rest.trimStart.head? = some '=' then
      some (line.byteLength - line.trimStart.byteLength)
    else none
  | none => none

/-- Where the first assignment of `key` stands in lines of which the first begins at `offset`. -/
def assignmentOffset (key : Text) (offset : Nat) : List Text → Option Nat
  | [] => none
  | line :: lines =>
    match assignmentColumn key line with
    | some column => some (offset + column)
    | none => assignmentOffset key (offset + line.byteLength) lines

/-- The place of the key in the first line of a document that assigns it. -/
def assignmentSpan (document key : Text) : Option Span :=
  (assignmentOffset key 0 document.segments).map fun start => ⟨start, key.byteLength⟩

/-- The failure of a document because of what it assigns to `key`. -/
def invalidKey (document file message key : Text) : Failure :=
  .invalid file message (assignmentSpan document key)

/-- The settings if both paths are there; `document` and `file` are what they were read from. -/
def checked (document file : Text) (c : Config) : Except Failure Config :=
  if c.paths.actions.isEmpty then
    .error (invalidKey document file "'actions' path must not be empty" "actions")
  else if c.paths.bindings.isEmpty then
    .error (invalidKey document file "'bindings' path must not be empty" "bindings")
  else .ok c

end Config

end LineSpecials
