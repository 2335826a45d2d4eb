import LineSpecials.Text.Basic

namespace LineSpecials

/-- The number of a special as its source spells it. -/
structure Code where
  text : Text
  deriving DecidableEq

/-- The column width that codes are aligned in. -/
def codeWidth : Nat := 3

/-- The code aligned to the right of its column. -/
def Code.padded (c : Code) : Text := c.text.padLeft codeWidth

/-- One special of a table. -/
structure Entry where
  code : Code
  name : Text
  arity : Nat
  deriving DecidableEq

namespace Entry

/-- What follows the code in every written form: `:name(arity)`. -/
def signature (e : Entry) : Text := ':' :: e.name ++ '(' :: Text.ofNat e.arity ++ [')']

/-- The entry with its code as it is: `code:name(arity)`. -/
def display (e : Entry) : Text := e.code.text ++ e.signature

/-- The entry with its code aligned in its column. -/
def padded (e : Entry) : Text := e.code.padded ++ e.signature

/-- What entries are ordered by. -/
def sortKey (e : Entry) : Text × Text × Nat := (e.code.padded, e.name, e.arity)

/-- The order of a sorted table: texts by code point, a text before its continuations. -/
def notAfter (a b : Entry) : Bool :=
  decide (a.code.padded < b.code.padded) || (a.code.padded == b.code.padded &&
    (decide (a.name < b.name) || (a.name == b.name && decide (a.arity ≤ b.arity))))

/-- Entries in table order; those with equal keys keep their places among each other. -/
def sort (es : List Entry) : List Entry := es.mergeSort notAfter

end Entry

end LineSpecials
