import LineSpecials.Entry
import LineSpecials.Text.DigitClass
import LineSpecials.Text.Name

namespace LineSpecials

/-- A row that binds a name of a special to its code. -/
structure Binding where
  code : Code
  /-- The native function behind the special. -/
  identifier : Text
  name : Text
  /-- The number of the row's line, counted from one. -/
  line : Nat
  deriving DecidableEq

namespace Binding

/-- The first run of decimal digits. -/
def firstNumber (t : Text) : Option Text :=
  match t.dropWhile (! isDecimalDigit ·) with
  | [] => none
  | c :: r => some ((c :: r).takeWhile isDecimalDigit)

/-- The name that a text begins with if it is closed by a quote. -/
def closedName (t : Text) : Option Text :=
  match t.takeWhile isNameChar, t.dropWhile isNameChar with
  | c :: name, '"' :: _ => some (c :: name)
  | _, _ => none

/-- The first name between double quotes. -/
def quotedName : Text → Option Text
  | [] => none
  | c :: r => if c = '"' then (closedName r).or (quotedName r) else quotedName r

/-- The row on a line: its first number, the first word after the first comma and the first quoted
name, all of which have to be there. -/
def ofLine (line : Text) (number : Nat) : Option Binding := do
  let code ← firstNumber line
  let (_, rest) ← line.splitOnce ','
  let identifier ← rest.leadingWord
  let name ← quotedName line
  return ⟨⟨code⟩, identifier, name, number⟩

/-- The row in short: `code identifier name`. -/
def echo (b : Binding) : Text := b.code.text ++ ' ' :: b.identifier ++ ' ' :: b.name

end Binding

end LineSpecials
