import LineSpecials.Binding
import LineSpecials.Log
import LineSpecials.Text.Blank
import LineSpecials.Text.WordClass

namespace LineSpecials

/-- The table's name in its declaration. -/
def tableName : Text := "HexenBindings"

/-- What every row begins with. -/
def rowWord : Text := "LINESPECNAMED"

/-- The brace line of a table. -/
def tableOpening : Text := ['\x7b']

namespace Declaration

/-- What follows the identifier that a text begins with: an ASCII letter or an underscore, then
word characters as far as they go. -/
def afterIdentifier : Text → Option Text
  | [] => none
  | c :: r => if c.isAlpha || c == '_' then some (r.dropWhile isWordChar) else none

/-- Whether a text begins with the table's name as a whole word. -/
def startsWithName (t : Text) : Bool :=
  match t.dropLead? tableName with
  | some [] => true
  | some (c :: _) => ! isWordChar c
  | none => false

theorem length_afterIdentifier {t r : Text} (h : afterIdentifier t = some r) :
    r.length < t.length := by
  cases t with
  | nil => simp [afterIdentifier] at h
  | cons c s =>
    obtain ⟨-, rfl⟩ : _ ∧ s.dropWhile isWordChar = r := by simpa [afterIdentifier] using h
    have := (List.dropWhile_suffix isWordChar (l := s)).length_le
    simp only [List.length_cons]
    omega

/-- Whether blanks, identifiers and at last the table's name follow an identifier. -/
def continues : Text → Bool
  | [] => false
  | c :: r =>
    if isBlank c then
      startsWithName (Text.trimStart r) ||
        (match _h : afterIdentifier (Text.trimStart r) with
          | some rest => continues rest
          | none => false)
    else false
termination_by t => t.length
decreasing_by
  have h1 := length_afterIdentifier _h
  have h2 := (List.dropWhile_suffix isBlank (l := r)).length_le
  simp only [Text.trimStart, List.length_cons] at *
  omega

end Declaration

/-- Whether a line declares the table: one or more identifiers and the table's name, apart by
blanks. -/
def isTableDeclaration (line : Text) : Bool :=
  match Declaration.afterIdentifier line.trimStart with
  | some rest => Declaration.continues rest
  | none => false

/-- What reading a line of a binding source amounts to. -/
inductive TableEvent
  | opened (line : Nat)
  | closed (line : Nat)
  | row (binding : Binding)
  | malformed (line : Nat) (text : Text)
  deriving DecidableEq

namespace TableEvent

/-- The event of a line, if it makes one; `inTable` tells whether the table is open. -/
def ofLine (inTable : Bool) (number : Nat) (line : Text) : Option TableEvent :=
  if inTable then
    if line.trim = tableOpening then none
    else if rowWord.isPrefixOf line.trim then
      match Binding.ofLine line.trim number with
      | some b => some (row b)
      | none => some (malformed number line.trim)
    else some (closed number)
  else if isTableDeclaration line.trim then some (opened number)
  else none

/-- Whether the table is open after an event. -/
def leavesOpen (inTable : Bool) : Option TableEvent → Bool
  | some (opened _) => true
  | some (closed _) => false
  | _ => inTable

/-- The events of lines that are numbered from `number` on. -/
def ofLines (inTable : Bool) (number : Nat) : List Text → List TableEvent
  | [] => []
  | line :: lines =>
    let event := ofLine inTable number line
    event.toList ++ ofLines (leavesOpen inTable event) (number + 1) lines

/-- The row of an event that read one. -/
def row? : TableEvent → Option Binding
  | row b => some b
  | _ => none

end TableEvent

/-- The events of a binding source, whose table is closed at first. -/
def tableEvents (lines : List Text) : List TableEvent := TableEvent.ofLines false 1 lines

/-- The rows of a binding source, found by name. -/
structure BindingMap where
  /-- All rows in source order. -/
  rows : List Binding
  /-- Each name, in the order of first rows, with the position of its latest row. -/
  latest : List (Text × Nat)
  /-- The rows whose name an earlier row has. -/
  repeated : List Binding
  deriving DecidableEq

namespace BindingMap

/-- A map without rows. -/
def empty : BindingMap := ⟨[], [], []⟩

/-- The position of the latest row of a name. -/
def position? (m : BindingMap) (name : Text) : Option Nat := m.latest.lookup name

/-- The index with a name's latest position set. -/
def setPosition (name : Text) (i : Nat) : List (Text × Nat) → List (Text × Nat)
  | [] => [(name, i)]
  | (n, j) :: rest => if n = name then (n, i) :: rest else (n, j) :: setPosition name i rest

/-- The map with one more row. -/
def insert (m : BindingMap) (b : Binding) : BindingMap where
  rows := m.rows ++ [b]
  latest := setPosition b.name m.rows.length m.latest
  repeated := if (m.position? b.name).isSome then m.repeated ++ [b] else m.repeated

/-- The latest row of a name. -/
def get? (m : BindingMap) (name : Text) : Option Binding :=
  match m.position? name with
  | some i => m.rows[i]?
  | none => none

/-- The code that a name is bound to. -/
def code? (m : BindingMap) (name : Text) : Option Code := (m.get? name).map (·.code)

/-- Whether a name is bound. -/
def contains (m : BindingMap) (name : Text) : Bool := (m.position? name).isSome

/-- The number of bound names. -/
def size (m : BindingMap) : Nat := m.latest.length

/-- Whether no name is bound. -/
def isEmpty (m : BindingMap) : Bool := m.latest.isEmpty

/-- The map of rows in source order. -/
def ofRows (rows : List Binding) : BindingMap := rows.foldl insert empty

/-- The map of a binding source. -/
def ofLines (lines : List Text) : BindingMap := ofRows ((tableEvents lines).filterMap (·.row?))

/-- The map after an event. -/
def after (m : BindingMap) : TableEvent → BindingMap
  | .row b => m.insert b
  | _ => m

/-- What an event is worth telling, given the rows before it. -/
def note (m : BindingMap) : TableEvent → List Log.Record
  | .opened n => [⟨.debug, .bindings, "binding table starts at line " ++ Text.ofNat n⟩]
  | .closed n => [⟨.debug, .bindings, "binding table ends at line " ++ Text.ofNat n⟩]
  | .malformed n t =>
    [⟨.debug, .bindings, "skipping malformed binding at line " ++ Text.ofNat n ++ ": " ++ t⟩]
  | .row b =>
    match m.get? b.name with
    | some earlier =>
      [⟨.warn, .bindings, "special '" ++ b.name ++ "' bound twice (lines " ++
        Text.ofNat earlier.line ++ " and " ++ Text.ofNat b.line ++ ")"⟩]
    | none => []

/-- The records of events that follow the rows of a map. -/
def notes (m : BindingMap) : List TableEvent → List Log.Record
  | [] => []
  | e :: es => m.note e ++ (m.after e).notes es

end BindingMap

end LineSpecials
