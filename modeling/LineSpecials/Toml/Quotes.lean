import LineSpecials.Text.Hexadecimal

namespace LineSpecials.Toml

/-- A blank between the parts of a line. -/
def isSpace (c : Char) : Bool := c == ' ' || c == '\t'

/-- A character that may stand in strings and comments as it is: no control character but the
tab. -/
def isPlain (c : Char) : Bool := c == '\t' || (0x20 ≤ c.toNat && c.toNat != 0x7F)

/-- Whether a text begins with a line break. -/
def atLineBreak : Text → Bool
  | '\n' :: _ => true
  | '\r' :: '\n' :: _ => true
  | _ => false

/-- The character of an escape of one letter. -/
def escaped? (c : Char) : Option Char :=
  if c = 'b' then some '\x08'
  else if c = 't' then some '\t'
  else if c = 'n' then some '\n'
  else if c = 'f' then some '\x0c'
  else if c = 'r' then some '\r'
  else if c = 'e' then some '\x1b'
  else if c = '"' then some '"'
  else if c = '\\' then some '\\'
  else none

/-- One more character in front of the content of a string that goes on. -/
def andThen (c : Char) (rest : Option (Text × Text)) : Option (Text × Text) :=
  rest.map fun (content, r) => (c :: content, r)

/-- A basic string on one line. -/
def basic : Text → Option (Text × Text)
  | [] => none
  | '"' :: r => some ([], r)
  | '\\' :: 'x' :: a :: b :: r => do
    let x ← scalar? [a, b]
    andThen x (basic r)
  | '\\' :: 'u' :: a :: b :: c :: d :: r => do
    let x ← scalar? [a, b, c, d]
    andThen x (basic r)
  | '\\' :: 'U' :: a :: b :: c :: d :: e :: f :: g :: h :: r => do
    let x ← scalar? [a, b, c, d, e, f, g, h]
    andThen x (basic r)
  | '\\' :: c :: r => do
    let x ← escaped? c
    andThen x (basic r)
  | c :: r => if c = '\\' then none else if isPlain c then andThen c (basic r) else none

/-- A literal string on one line. -/
def literal : Text → Option (Text × Text)
  | [] => none
  | '\'' :: r => some ([], r)
  | c :: r => if isPlain c then andThen c (literal r) else none

/-- A basic string on several lines. A backslash at the end of a line takes away all blanks and
line breaks after it, which `skipping` stands for. Up to two quotes may stand before the closing
ones. Line breaks are kept as they are written. -/
def basicLines (skipping : Bool) : Text → Option (Text × Text)
  | [] => none
  | '"' :: '"' :: '"' :: '"' :: '"' :: r => some (['"', '"'], r)
  | '"' :: '"' :: '"' :: '"' :: r => some (['"'], r)
  | '"' :: '"' :: '"' :: r => some ([], r)
  | '\\' :: 'x' :: a :: b :: r => do
    let x ← scalar? [a, b]
    andThen x (basicLines false r)
  | '\\' :: 'u' :: a :: b :: c :: d :: r => do
    let x ← scalar? [a, b, c, d]
    andThen x (basicLines false r)
  | '\\' :: 'U' :: a :: b :: c :: d :: e :: f :: g :: h :: r => do
    let x ← scalar? [a, b, c, d, e, f, g, h]
    andThen x (basicLines false r)
  | '\\' :: c :: r =>
    if atLineBreak ((c :: r).dropWhile isSpace) then basicLines true (c :: r)
    else do
      let x ← escaped? c
      andThen x (basicLines false r)
  | '\r' :: '\n' :: r =>
    if skipping then basicLines true r
    else andThen '\r' (andThen '\n' (basicLines false r))
  | c :: r =>
    if skipping && (isSpace c || c == '\n') then basicLines true r
    else if c = '\\' then none
    else if c = '\n' ∨ isPlain c then andThen c (basicLines false r)
    else none

/-- A literal string on several lines. -/
def literalLines : Text → Option (Text × Text)
  | [] => none
  | '\'' :: '\'' :: '\'' :: '\'' :: '\'' :: r => some (['\'', '\''], r)
  | '\'' :: '\'' :: '\'' :: '\'' :: r => some (['\''], r)
  | '\'' :: '\'' :: '\'' :: r => some ([], r)
  | '\r' :: '\n' :: r => andThen '\r' (andThen '\n' (literalLines r))
  | c :: r => if c = '\n' ∨ isPlain c then andThen c (literalLines r) else none

/-- The text without a line break at its front: one right behind the opening quotes does not
count. -/
def dropLineBreak : Text → Text
  | '\n' :: r => r
  | '\r' :: '\n' :: r => r
  | t => t

/-- A string of any of the four forms, if the text begins with a quote. -/
def string? : Text → Option (Text × Text)
  | '"' :: '"' :: '"' :: r => basicLines false (dropLineBreak r)
  | '"' :: r => basic r
  | '\'' :: '\'' :: '\'' :: r => literalLines (dropLineBreak r)
  | '\'' :: r => literal r
  | _ => none

end LineSpecials.Toml
