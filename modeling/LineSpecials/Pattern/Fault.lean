import LineSpecials.Text.Lines

namespace LineSpecials.Pattern

/-- The kinds of faults. -/
inductive FaultKind
  | setEscape
  | setRange
  | setRangeEnd
  | setUnclosed
  | numberTooLarge
  | hexadecimalEmpty
  | hexadecimalNoCharacter
  | hexadecimalDigit
  | escapeUnfinished
  | escapeUnknown
  | flagDanglingNegation
  | flagDuplicate
  | flagRepeatedNegation
  | flagUnfinished
  | flagUnknown
  | nameDuplicate
  | nameEmpty
  | nameCharacter
  | nameUnfinished
  | groupUnclosed
  | groupUnopened
  | tooDeep
  | countRange
  | countEmpty
  | countUnclosed
  | repetitionMissing
  | wordEdgeUnclosed
  | wordEdgeUnknown
  | wordEdgeUnfinished
  | propertyInvalid
  | backreference
  | lookAround
  | propertyUnknown
  | propertyValueUnknown
  | unicodeRefused
  | partialCharacters
  deriving DecidableEq

/-- How deep parts of a pattern may stand in others. -/
def depthLimit : Nat := 250

/-- A kind of fault in a sentence. -/
def FaultKind.message : FaultKind → Text
  | setEscape => "invalid escape sequence found in character class"
  | setRange => "invalid character class range, the start must be <= the end"
  | setRangeEnd => "invalid range boundary, must be a literal"
  | setUnclosed => "unclosed character class"
  | numberTooLarge => "decimal literal invalid"
  | hexadecimalEmpty => "hexadecimal literal empty"
  | hexadecimalNoCharacter => "hexadecimal literal is not a Unicode scalar value"
  | hexadecimalDigit => "invalid hexadecimal digit"
  | escapeUnfinished => "incomplete escape sequence, reached end of pattern prematurely"
  | escapeUnknown => "unrecognized escape sequence"
  | flagDanglingNegation => "dangling flag negation operator"
  | flagDuplicate => "duplicate flag"
  | flagRepeatedNegation => "flag negation operator repeated"
  | flagUnfinished => "expected flag but got end of regex"
  | flagUnknown => "unrecognized flag"
  | nameDuplicate => "duplicate capture group name"
  | nameEmpty => "empty capture group name"
  | nameCharacter => "invalid capture group character"
  | nameUnfinished => "unclosed capture group name"
  | groupUnclosed => "unclosed group"
  | groupUnopened => "unopened group"
  | tooDeep =>
    "exceed the maximum number of nested parentheses/brackets (" ++ Text.ofNat depthLimit ++ ")"
  | countRange => "invalid repetition count range, the start must be <= the end"
  | countEmpty => "repetition quantifier expects a valid decimal"
  | countUnclosed => "unclosed counted repetition"
  | repetitionMissing => "repetition operator missing expression"
  | wordEdgeUnclosed =>
    "special word boundary assertion is either unclosed or contains an invalid character"
  | wordEdgeUnknown => "unrecognized special word boundary assertion, " ++
      "valid choices are: start, end, start-half or end-half"
  | wordEdgeUnfinished => "found either the beginning of a special word boundary or a " ++
      "bounded repetition on a \\b with an opening brace, but no closing brace"
  | propertyInvalid => "invalid Unicode character class"
  | backreference => "backreferences are not supported"
  | lookAround => "look-around, including look-ahead and look-behind, is not supported"
  | propertyUnknown => "Unicode property not found"
  | propertyValueUnknown => "Unicode property value not found"
  | unicodeRefused => "Unicode not allowed here"
  | partialCharacters => "pattern can match invalid UTF-8"

/-- A stretch of a pattern: the numbers of characters behind its ends. -/
structure Stretch where
  before : Nat
  after : Nat
  deriving DecidableEq

/-- The stretch between what is left at its beginning and what is left at its end. -/
def Stretch.between (before after : Text) : Stretch := ⟨before.length, after.length⟩

/-- A fault, where it is, and the earlier place that it conflicts with. -/
structure Fault where
  kind : FaultKind
  place : Stretch
  earlier : Option Stretch
  deriving DecidableEq

/-- A fault between two places. -/
def fault {α : Type} (kind : FaultKind) (before after : Text) : Except Fault α :=
  .error ⟨kind, .between before after, none⟩

/-- A place in a text of several lines. Both numbers begin with zero. -/
structure Position where
  line : Nat
  column : Nat

/-- The place that so many characters stand behind. -/
def Position.of (pattern : Text) (behind : Nat) : Position :=
  let passed := pattern.take (pattern.length - behind)
  ⟨passed.count '\n', (passed.reverse.takeWhile (· != '\n')).length⟩

/-- Carets below columns from one up to another, in ascending order, at least one for each. -/
def carets (column : Nat) : List (Nat × Nat) → Text
  | [] => []
  | (first, last) :: rest =>
    List.replicate (first - column) ' ' ++ List.replicate (max 1 (last - first)) '^' ++
      carets (max column first + max 1 (last - first)) rest

/-- A line of a pattern behind its margin, and below it the marks for the places in it. -/
def markedLine (margin line : Text) (marks : List (Nat × Nat)) : Text :=
  margin ++ line ++ '\n' ::
    (if marks.isEmpty then []
    else List.replicate margin.length ' ' ++ carets 0 marks ++ ['\n'])

/-- A pattern of one line and its marks. -/
def showLine (pattern : Text) (places : List (Position × Position)) : Text :=
  markedLine "    " pattern (places.map fun (a, b) => (a.column, b.column))

/-- A stretch over several lines, in words. -/
def showStretch (place : Position × Position) : Text :=
  "on line " ++ Text.ofNat (place.1.line + 1) ++ " (column " ++ Text.ofNat (place.1.column + 1) ++
    ") through line " ++ Text.ofNat (place.2.line + 1) ++ " (column " ++
    Text.ofNat place.2.column ++ ")\n"

/-- A pattern of several lines with their numbers, its marks, and in words the places that go beyond
a line. The numbers are as wide as that of the last line, which may be empty. -/
def showLines (pattern : Text) (places : List (Position × Position)) : Text :=
  let lines := pattern.lines
  let count := if pattern.getLast? = some '\n' then lines.length + 1 else lines.length
  let marked := lines.zipIdx.map fun (line, i) =>
    markedLine (Text.padLeft (Text.ofNat count).length (Text.ofNat (i + 1)) ++ ": ") line
      ((places.filter fun (a, b) => a.line == i && b.line == i).map fun (a, b) =>
        (a.column, b.column))
  let divider := List.replicate 79 '~' ++ ['\n']
  let long := (places.filter fun (a, b) => a.line != b.line).flatMap showStretch
  divider ++ marked.flatten ++ divider ++ long

/-- The fault as it is shown under the pattern. -/
def Fault.describe (f : Fault) (pattern : Text) : Text :=
  let places := (f.earlier.toList ++ [f.place]).map fun s =>
    (Position.of pattern s.before, Position.of pattern s.after)
  "regex parse error:\n" ++
    (if pattern.contains '\n' then showLines pattern places else showLine pattern places) ++
    "error: " ++ f.kind.message

end LineSpecials.Pattern
