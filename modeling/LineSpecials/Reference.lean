import LineSpecials.Text.Blank
import LineSpecials.Text.Name

namespace LineSpecials

/-- A special that a comment line says is implemented nearby. -/
structure Reference where
  name : Text
  arity : Nat
  deriving DecidableEq

namespace Reference

/-- The sign a comment line begins with. -/
def commentSign : Text := "//"

/-- The keyword of a reference. -/
def keyword : Text := "implements"

/-- The character under simple case folding, as far as the letters of the keyword go: capitals
fold to small letters, and so does the long s. -/
def fold (c : Char) : Char := if c = 'ſ' then 's' else c.toLower

/-- What follows the first occurrence of the keyword. -/
def afterKeyword : Text → Option Text
  | [] => none
  | c :: r =>
    if keyword.isPrefixOf ((c :: r).map fold) then some ((c :: r).drop keyword.length)
    else afterKeyword r

/-- The text between the first opening parenthesis and the first closing one behind it. -/
def argumentText (t : Text) : Option Text :=
  match t.splitOnce '(' with
  | some (_, r) => (r.splitOnce ')').map (·.1)
  | none => none

/-- The number of arguments in an argument list: none if it is blank. -/
def arityOf (args : Text) : Nat := if args.isAllBlank then 0 else args.segmentCount

/-- The reference on a comment line, if it holds the keyword, a name after it and an argument
list. -/
def ofLine (line : Text) : Option Reference :=
  let t := line.trim
  if commentSign.isPrefixOf t then do
    let rest ← afterKeyword t
    let name ← rest.leadingWord
    let args ← argumentText t
    return ⟨name, arityOf args⟩
  else none

end Reference

end LineSpecials
