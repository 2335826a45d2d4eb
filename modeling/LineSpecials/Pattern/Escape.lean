import LineSpecials.Pattern.Tree
import LineSpecials.Text.Hexadecimal

namespace LineSpecials.Pattern

/-- Hexadecimal digits, so many of them. -/
def hexDigits (f : Flags) : Nat → Text → Except Fault (Text × Text)
  | 0, t => .ok ([], t)
  | _ + 1, [] => fault .escapeUnfinished [] []
  | n + 1, c :: r =>
    if (hexDigit? c).isSome then do
      let (digits, rest) ← hexDigits f n (f.skip r)
      return (c :: digits, rest)
    else fault .hexadecimalDigit (c :: r) r

/-- Hexadecimal digits up to a closing brace, which stays; `brace` is what is left at the opening
one. -/
def bracedDigits (f : Flags) (brace : Text) : Nat → Text → Except Fault (Text × Text)
  | 0, _ => fault .escapeUnfinished brace []
  | fuel + 1, t =>
    match f.skip t with
    | [] => fault .escapeUnfinished brace []
    | '\x7d' :: r => .ok ([], '\x7d' :: r)
    | c :: r =>
      if (hexDigit? c).isSome then do
        let (digits, rest) ← bracedDigits f brace fuel r
        return (c :: digits, rest)
      else fault .hexadecimalDigit (c :: r) r

/-- A character by number: `width` digits, or any number of them in braces. -/
def byNumber (f : Flags) (width : Nat) (t : Text) : Except Fault (Char × Text) :=
  match f.skip t with
  | [] => fault .escapeUnfinished [] []
  | '\x7b' :: r => do
    let (digits, rest) ← bracedDigits f ('\x7b' :: r) (r.length + 1) r
    let behind := f.skip rest.tail
    if digits.isEmpty then fault .hexadecimalEmpty ('\x7b' :: r) behind
    else match scalar? digits with
      | some c => return (c, behind)
      | none => fault .hexadecimalNoCharacter r rest
  | t => do
    let (digits, rest) ← hexDigits f width t
    match scalar? digits with
    | some c => return (c, rest)
    | none => fault .hexadecimalNoCharacter t rest

/-- A character by number behind a backslash and a letter. Two digits that follow at once write a
byte. -/
def numbered (f : Flags) (width : Nat) (before r : Text) : Except Fault (Atom × Text) := do
  let (c, rest) ← byNumber f width r
  let isByte := width = 2 ∧ (f.skip r).head? ≠ some '\x7b'
  return (.literal ⟨.between before rest, c, isByte⟩, rest)

/-- The text up to a closing brace, which is dropped. -/
def inBraces (f : Flags) : Nat → Text → Except Fault (Text × Text)
  | 0, _ => fault .escapeUnfinished [] []
  | fuel + 1, t =>
    match f.skip t with
    | [] => fault .escapeUnfinished [] []
    | c :: r =>
      if c = '\x7d' then .ok ([], r)
      else do
        let (name, rest) ← inBraces f fuel r
        return (c :: name, rest)

/-- The query that a text in braces writes. A name and a value have one of three signs between them,
and the one that reads as a denial denies nothing. -/
def PropertyQuery.ofText (t : Text) : PropertyQuery :=
  match cutAt t with
  | some (name, value) => valued name value
  | none =>
    match t.splitOnce ':' with
    | some (name, value) => valued name value
    | none =>
      match t.splitOnce '=' with
      | some (name, value) => valued name value
      | none => named t
where
  cutAt : Text → Option (Text × Text)
    | '!' :: '=' :: r => some ([], r)
    | c :: r => (cutAt r).map fun (a, b) => (c :: a, b)
    | [] => none

/-- A query for a property: one character, or any in braces. -/
def propertyQuery (f : Flags) (t : Text) : Except Fault (PropertyQuery × Text) :=
  match f.skip t with
  | [] => fault .escapeUnfinished [] []
  | '\x7b' :: r => do
    let (name, rest) ← inBraces f (r.length + 1) r
    return (.ofText name, rest)
  | c :: r =>
    if c = '\\' then fault .propertyInvalid (c :: r) r else .ok (.named [c], f.skip r)

/-- A character that always stands for itself behind a backslash: any of ASCII but letters, digits
and angle brackets. -/
def isPlainEscape (c : Char) : Bool := c.toNat < 0x80 && ! (c.isAlphanum || c == '<' || c == '>')

/-- The control character of a letter. -/
def controlOf? (c : Char) : Option Char :=
  if c = 'a' then some '\x07'
  else if c = 'f' then some '\x0c'
  else if c = 't' then some '\t'
  else if c = 'n' then some '\n'
  else if c = 'r' then some '\r'
  else if c = 'v' then some '\x0b'
  else none

/-- A character of the names of word edges. -/
def isEdgeChar (c : Char) : Bool := c.isAlpha || c == '-'

/-- A word edge: any, or one of a kind that is named in braces. Braces that do not begin with a
letter are left to say how often. -/
def wordEdge (f : Flags) (before : Text) : Text → Except Fault (Atom × Text)
  | '\x7b' :: r =>
    match f.skip r with
    | [] => fault .wordEdgeUnfinished before []
    | c :: r' =>
      if ! isEdgeChar c then .ok (.word .edge, '\x7b' :: r)
      else
        let (name, rest) := f.span isEdgeChar (r'.length + 1) (c :: r')
        match rest with
        | '\x7d' :: behind =>
          if name = "start" then .ok (.word .start, behind)
          else if name = "end" then .ok (.word .stop, behind)
          else if name = "start-half" then .ok (.word .startHalf, behind)
          else if name = "end-half" then .ok (.word .stopHalf, behind)
          else fault .wordEdgeUnknown (c :: r') rest
        | _ => fault .wordEdgeUnclosed ('\x7b' :: r) rest
  | t => .ok (.word .edge, t)

/-- What a backslash writes; `t` begins with it. -/
def escape (f : Flags) (t : Text) : Except Fault (Atom × Text) :=
  match t.tail with
  | [] => fault .escapeUnfinished t []
  | c :: r =>
    let literal (c : Char) : Except Fault (Atom × Text) :=
      .ok (.literal ⟨.between t r, c, false⟩, r)
    if c.isDigit then fault .backreference t r
    else if c = 'x' then numbered f 2 t r
    else if c = 'u' then numbered f 4 t r
    else if c = 'U' then numbered f 8 t r
    else if c = 'p' ∨ c = 'P' then do
      let (q, rest) ← propertyQuery f r
      return (.property q (c == 'P'), rest)
    else if c = 'd' ∨ c = 'D' then .ok (.shorthand .digit (c == 'D'), r)
    else if c = 's' ∨ c = 'S' then .ok (.shorthand .space (c == 'S'), r)
    else if c = 'w' ∨ c = 'W' then .ok (.shorthand .word (c == 'W'), r)
    else if isPlainEscape c then literal c
    else if c = 'A' then .ok (.textStart, r)
    else if c = 'z' then .ok (.textEnd, r)
    else if c = 'b' then wordEdge f t r
    else if c = 'B' then .ok (.word .noEdge, r)
    else if c = '<' then .ok (.word .start, r)
    else if c = '>' then .ok (.word .stop, r)
    else match controlOf? c with
      | some x => literal x
      | none => fault .escapeUnknown t r

end LineSpecials.Pattern
