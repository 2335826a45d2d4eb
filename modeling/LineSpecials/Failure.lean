import LineSpecials.Toml.Value

namespace LineSpecials

/-- Why a file cannot be read as text. -/
inductive ReadFailure
  | notFound
  | isDirectory
  | notDirectory
  | notText
  /-- The path, or a name on it, is longer than any in the file system. -/
  | nameTooLong
  /-- The path holds a character that no path may hold. -/
  | noPath
  | other
  deriving DecidableEq

/-- Where a settings document departs from what settings may hold. -/
inductive Misfit
  /-- A key that does not exist; the keys that do are listed. -/
  | unknownField (name first second : Text) (span : Span)
  /-- A value of the wrong type; both types are given in words. -/
  | wrongType (found expected : Text) (span : Span)
  /-- A number beyond every size, or one that its digits do not write. -/
  | noNumber
  deriving DecidableEq

namespace Misfit

/-- A text between grave accents. -/
def ticked (t : Text) : Text := '\x60' :: t ++ ['\x60']

/-- What is wrong, in words. -/
def detail : Misfit → Option Text
  | unknownField name first second _ =>
    some ("unknown field " ++ ticked name ++ ", expected " ++ ticked first ++ " or " ++
      ticked second)
  | wrongType found expected _ =>
    some ("invalid type: " ++ found ++ ", expected " ++ expected)
  | noNumber => none

/-- Where it is wrong. -/
def span? : Misfit → Option Span
  | unknownField _ _ _ span => some span
  | wrongType _ _ span => some span
  | noNumber => none

end Misfit

/-- A place in a document and what to say about it. -/
structure Label where
  text : Text
  span : Span
  deriving DecidableEq

/-- Why a command cannot do its work. -/
inductive Failure
  /-- A file cannot be read. -/
  | unreadable (path : Text) (cause : ReadFailure)
  /-- A settings document is no document, or does not fit. -/
  | malformed (file : Text) (misfit : Option Misfit)
  /-- A settings document holds a value that cannot be used. -/
  | invalid (file message : Text) (span : Option Span)
  /-- A source has no specials though it must have some. -/
  | noEntries (path : Text)
  deriving DecidableEq

namespace Failure

/-- The failure in one sentence. -/
def message : Failure → Text
  | unreadable path _ => "failed to read '" ++ path ++ "'"
  | malformed _ _ => "failed to parse config"
  | invalid _ message _ => message
  | noEntries path => "no specials found in '" ++ path ++ "'"

/-- The name of the kind of failure, if it has one. -/
def code : Failure → Option Text
  | unreadable _ _ => none
  | malformed _ _ => some "genspecials::parse_error"
  | invalid _ _ _ => some "genspecials::validation_error"
  | noEntries _ => some "genspecials::no_entries"

/-- What may help. -/
def help : Failure → Option Text
  | unreadable _ _ => some
    "run from the root of an engine checkout, or pass --root / --actions / --bindings"
  | noEntries _ => some ("expected comment blocks of the form '//', '// Name', '//', " ++
    "'// Implements Name(args)', '// * ExtraData: <n>', '// * Hexen: <code>'")
  | _ => none

/-- The places to show. -/
def labels : Failure → List Label
  | malformed _ (some m) => (m.span?.map fun span => ⟨"parse error here", span⟩).toList
  | invalid _ message span => (span.map fun span => ⟨message, span⟩).toList
  | _ => []

end Failure

end LineSpecials
