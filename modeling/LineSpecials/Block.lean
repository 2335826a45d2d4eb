import LineSpecials.Entry
import LineSpecials.Log
import LineSpecials.Text.Blank
import LineSpecials.Text.Name

namespace LineSpecials.Block

/-- The line that opens a block and closes its name. -/
def divider : Text := "//"

/-- The second token of a signature line. -/
def signatureWord : Text := "Implements"

/-- The word of a marker line. -/
def markerWord : Text := "ExtraData"

/-- The byte column in which the marker word begins. -/
def markerColumn : Nat := 5

/-- The least number of bytes of a marker line. -/
def markerLineLength : Nat := 15

/-- A line with nothing but the comment sign. -/
def isDivider (line : Text) : Bool := line.trim == divider

/-- The name on an action line, the second of exactly two tokens. -/
def action? (line : Text) : Option Text :=
  match line.trim.tokens with
  | [_, name] => some name
  | _ => none

/-- The name and the arity on a signature line. The name ends at the first parenthesis of the
third token; every comma of the line counts for the arity. -/
def signature? (line : Text) : Option (Text × Nat) :=
  match line.trim.tokens with
  | _ :: word :: third :: _ =>
    if word = signatureWord then
      (third.splitOnce '(').map fun (name, _) => (name, line.trim.segmentCount)
    else none
  | _ => none

/-- Whether a line has the marker word in its column and enough bytes. -/
def isMarker (line : Text) : Bool :=
  decide (markerLineLength ≤ line.trim.byteLength) &&
    (match line.trim.dropBytes markerColumn with
      | some rest => markerWord.isPrefixOf rest
      | none => false)

/-- The code on a code line, which has exactly one colon. -/
def code? (line : Text) : Option Code :=
  match line.trim.splitWhen (· == ':') with
  | [_, code] => some ⟨code.trim⟩
  | _ => none

/-- What the next line of a block has to be, and what the block has told so far. A block has six
lines: a divider, the name of the action, a divider, the signature of the special, the marker and
the code. A line that does not continue the block under way ends it, and begins no other one. -/
inductive Cursor
  | opening
  | action
  | closing (handler : Text)
  | signature (handler : Text)
  | marker (name : Text) (arity : Nat)
  | code (name : Text) (arity : Nat)
  deriving DecidableEq

namespace Cursor

/-- The cursor after a line, and the entry that the line completes. -/
def step : Cursor → Text → Cursor × Option Entry
  | opening, line => (if isDivider line then action else opening, none)
  | action, line =>
    match action? line with
    | some name => (closing name, none)
    | none => (opening, none)
  | closing name, line => (if isDivider line then signature name else opening, none)
  | signature _, line =>
    match signature? line with
    | some (name, arity) => (marker name arity, none)
    | none => (opening, none)
  | marker name arity, line => (if isMarker line then code name arity else opening, none)
  | code name arity, line => (opening, (code? line).map fun c => ⟨c, name, arity⟩)

/-- What reading a line is worth telling: which action implements which special. -/
def note : Cursor → Text → List Log.Record
  | signature handler, line =>
    match signature? line with
    | some (name, _) => [⟨.trace, .cursor, handler ++ " implements " ++ name⟩]
    | none => []
  | _, _ => []

/-- Whether no block is under way. -/
def isOpening : Cursor → Bool
  | opening => true
  | _ => false

/-- The entries that lines complete from a cursor on. -/
def entries : Cursor → List Text → List Entry
  | _, [] => []
  | cur, line :: lines => (cur.step line).2.toList ++ (cur.step line).1.entries lines

/-- The records of reading lines from a cursor on. -/
def notes : Cursor → List Text → List Log.Record
  | _, [] => []
  | cur, line :: lines => cur.note line ++ (cur.step line).1.notes lines

end Cursor

/-- The entries of all blocks in source order. -/
def entries (lines : List Text) : List Entry := Cursor.opening.entries lines

/-- The records of reading a source for its blocks. -/
def notes (lines : List Text) : List Log.Record := Cursor.opening.notes lines

end LineSpecials.Block
