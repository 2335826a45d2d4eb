import LineSpecials.Text.Quoted

namespace LineSpecials

/-- A document of texts, counts, lists and records. -/
inductive Json
  | text (t : Text)
  | number (n : Nat)
  | list (items : List Json)
  | fields (members : List (Text × Json))

namespace Json

/-- A character inside a JSON string: quotes, backslashes and control characters are escaped. -/
def stringChar (c : Char) : Text :=
  if c = '"' then ['\\', '"']
  else if c = '\\' then ['\\', '\\']
  else if c = '\n' then ['\\', 'n']
  else if c = '\r' then ['\\', 'r']
  else if c = '\t' then ['\\', 't']
  else if c = '\x08' then ['\\', 'b']
  else if c = '\x0c' then ['\\', 'f']
  else if c.toNat < 0x20 then
    ['\\', 'u'] ++ List.replicate (4 - (Text.hex c.toNat).length) '0' ++ Text.hex c.toNat
  else [c]

/-- A text as a JSON string. -/
def string (t : Text) : Text := '"' :: t.flatMap stringChar ++ ['"']

/-- The line break before something on a level. -/
def lineBreak (level : Nat) : Text := '\n' :: List.replicate (2 * level) ' '

mutual

/-- The document as text, of which the first line stands on a level. -/
def pretty (level : Nat) : Json → Text
  | text t => string t
  | number n => Text.ofNat n
  | list [] => "[]"
  | list (j :: js) =>
    '[' :: lineBreak (level + 1) ++ pretty (level + 1) j ++ prettyRest (level + 1) js ++
      lineBreak level ++ [']']
  | fields [] => ['\x7b', '\x7d']
  | fields ((k, j) :: ms) =>
    '\x7b' :: lineBreak (level + 1) ++ string k ++ ": ".toList ++ pretty (level + 1) j ++
      prettyMembers (level + 1) ms ++ lineBreak level ++ ['\x7d']

/-- Further items of a list, each behind a comma. -/
def prettyRest (level : Nat) : List Json → Text
  | [] => []
  | j :: js => ',' :: lineBreak level ++ pretty level j ++ prettyRest level js

/-- Further members of a record, each behind a comma. -/
def prettyMembers (level : Nat) : List (Text × Json) → Text
  | [] => []
  | (k, j) :: ms =>
    ',' :: lineBreak level ++ string k ++ ": ".toList ++ pretty level j ++ prettyMembers level ms

end

end Json

end LineSpecials
