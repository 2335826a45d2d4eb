import LineSpecials.Text.Basic

namespace LineSpecials

/-- An ASCII letter, an ASCII digit or an underscore. -/
def isNameChar (c : Char) : Bool := c.isAlphanum || c == '_'

namespace Text

/-- The first maximal run of name characters, wherever it stands. -/
def leadingWord (t : Text) : Option Text :=
  match t.dropWhile (! isNameChar ·) with
  | [] => none
  | c :: r => some ((c :: r).takeWhile isNameChar)

/-- The number of stretches that commas cut the text into: one more than there are commas. -/
def segmentCount (t : Text) : Nat := t.count ',' + 1

end Text

end LineSpecials
