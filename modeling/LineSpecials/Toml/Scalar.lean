import LineSpecials.Toml.Quotes
import LineSpecials.Toml.Value

namespace LineSpecials.Toml

/-- The text without its underscores, unless one of them does not stand between two digits;
`afterDigit` tells whether a digit came last. -/
def ungrouped (isDigit : Char → Bool) (afterDigit : Bool) : Text → Option Text
  | [] => some []
  | ['_'] => none
  | '_' :: c :: r =>
    if afterDigit && isDigit c then (ungrouped isDigit true r).map (c :: ·) else none
  | c :: r => (ungrouped isDigit (isDigit c) r).map (c :: ·)

/-- Whether a character is a digit of a base, which is at most sixteen. -/
def isDigitOf (base : Nat) (c : Char) : Bool := (hexDigit? c).any (· < base)

/-- The number that digits of a base write. -/
def digitsValue (base : Nat) (digits : Text) : Nat :=
  digits.foldl (fun n c => base * n + (hexDigit? c).getD 0) 0

/-- The number that decimal digits write. -/
def plainNumber? (t : Text) : Option Nat :=
  if t.isEmpty || ! t.all Char.isDigit then none else some (digitsValue 10 t)

/-- A sign, if there is one, and the rest. -/
def signed : Text → Bool × Text
  | '-' :: r => (true, r)
  | '+' :: r => (false, r)
  | t => (false, t)

/-- A number in another base than ten. There may be no digits, which write no number. -/
def based? (base : Nat) (t : Text) : Option Value :=
  if t.all fun c => c == '_' || isDigitOf base c then
    (ungrouped (isDigitOf 16) false t).map fun digits =>
      if digits.isEmpty then .unreadable else .integer (digitsValue base digits)
  else none

/-- The exponent of a float, which may have zeros in front. -/
def exponent? (t : Text) : Option Int :=
  (plainNumber? (signed t).2).map fun n => if (signed t).1 then -(n : Int) else n

/-- Digits with an optional fraction: the digits without the point, and the power of ten. -/
def fraction? (t : Text) : Option (Nat × Int) :=
  match t.splitOnce '.' with
  | some (whole, places) => do
    let _ ← plainNumber? whole
    let _ ← plainNumber? places
    return (digitsValue 10 (whole ++ places), -(places.length : Int))
  | none => (plainNumber? t).map fun n => (n, 0)

/-- The part of a number before its exponent sign, and the part behind it. -/
def splitExponent (t : Text) : Text × Option Text :=
  match t.span fun c => c != 'e' && c != 'E' with
  | (mantissa, _ :: exponent) => (mantissa, some exponent)
  | (mantissa, []) => (mantissa, none)

/-- A number with a fraction, an exponent or both. -/
def float? (negative : Bool) (t : Text) : Option FloatLiteral :=
  match splitExponent t with
  | (mantissa, some exponent) => do
    let (digits, scale) ← fraction? mantissa
    let e ← exponent? exponent
    return .finite negative digits (scale + e)
  | (mantissa, none) =>
    (fraction? mantissa).map fun (digits, scale) => .finite negative digits scale

/-- Whether a number begins with a zero that does not count. -/
def hasIdleZero : Text → Bool
  | '0' :: c :: _ => c == '_' || c.isDigit
  | _ => false

/-- The value of a decimal number whose sign is apart. What follows the first underscore of an
integer may be anything, but only digits write a number. -/
def decimal? (negative : Bool) (t : Text) : Option Value :=
  let rest := t.dropWhile Char.isDigit
  if t.isEmpty || hasIdleZero t then none
  else if rest.any fun c => c == '.' || c == 'e' || c == 'E' then do
    let digits ← ungrouped Char.isDigit false t
    return .float (← float? negative digits)
  else if rest.isEmpty || rest.head? == some '_' then
    (ungrouped (isDigitOf 16) false t).map fun digits =>
      match plainNumber? digits with
      | some n => .integer (if negative then -(n : Int) else n)
      | none => .unreadable
  else none

/-- Whether two digits write a number of at most `limit`. -/
def isPair (limit : Nat) (a b : Char) : Bool := (plainNumber? [a, b]).any (· ≤ limit)

/-- The number of days of a month. -/
def monthDays (year month : Nat) : Nat :=
  if month = 2 then
    if year % 4 = 0 ∧ (year % 100 ≠ 0 ∨ year % 400 = 0) then 29 else 28
  else if month = 4 ∨ month = 6 ∨ month = 9 ∨ month = 11 then 30
  else 31

/-- What follows a date at the front of a text. -/
def afterDate : Text → Option Text
  | y₁ :: y₂ :: y₃ :: y₄ :: '-' :: m₁ :: m₂ :: '-' :: d₁ :: d₂ :: r => do
    let year ← plainNumber? [y₁, y₂, y₃, y₄]
    let month ← plainNumber? [m₁, m₂]
    let day ← plainNumber? [d₁, d₂]
    if 1 ≤ month ∧ month ≤ 12 ∧ 1 ≤ day ∧ day ≤ monthDays year month then some r else none
  | _ => none

/-- What follows a time at the front of a text. Its seconds may be left out; if they are there,
they may have a fraction. -/
def afterTime : Text → Option Text
  | h₁ :: h₂ :: ':' :: m₁ :: m₂ :: r =>
    if isPair 23 h₁ h₂ && isPair 59 m₁ m₂ then
      match r with
      | ':' :: s₁ :: s₂ :: '.' :: d :: r =>
        if isPair 60 s₁ s₂ && d.isDigit then some (r.dropWhile Char.isDigit) else none
      | ':' :: s₁ :: s₂ :: r => if isPair 60 s₁ s₂ then some r else none
      | r => some r
    else none
  | _ => none

/-- Whether a text is a time zone offset or empty. -/
def isOffset : Text → Bool
  | [] | ['Z'] | ['z'] => true
  | [sign, h₁, h₂, ':', m₁, m₂] =>
    (sign == '+' || sign == '-') && isPair 23 h₁ h₂ && isPair 59 m₁ m₂
  | _ => false

/-- Whether a text is a date, a time, or a date and a time. -/
def isDateTime (t : Text) : Bool :=
  match afterDate t with
  | some [] => true
  | some (c :: r) => (c == 'T' || c == 't' || c == ' ') && (afterTime r).any isOffset
  | none => (afterTime t).any (·.isEmpty)

/-- The value that a word writes. Digits with a hyphen or a colon behind them begin a date or a
time. -/
def scalarValue? (t : Text) : Option Value :=
  let (negative, body) := signed t
  if t = "true" then some (.boolean true)
  else if t = "false" then some (.boolean false)
  else if body = "inf" then some (.float (.infinite negative))
  else if body = "nan" then some (.float .notANumber)
  else match t with
    | '0' :: 'x' :: r => based? 16 r
    | '0' :: 'o' :: r => based? 8 r
    | '0' :: 'b' :: r => based? 2 r
    | _ =>
      match body.dropWhile Char.isDigit with
      | '-' :: _ | ':' :: _ => if isDateTime t then some .dateTime else none
      | _ => decimal? negative body

/-- A character of numbers, dates and words: any but blanks, line breaks and the marks between
values. -/
def isScalarChar (c : Char) : Bool :=
  ! (isSpace c || c == '\n' || c == '\r' || c == '=' || c == ',' || c == '#' || c == '[' ||
    c == ']' || c == '\x7b' || c == '\x7d')

/-- The word at the front of a text and what follows it. A date and a time apart by one blank are
one word. -/
def scalarWord (t : Text) : Text × Text :=
  match t.span isScalarChar with
  | (word, ' ' :: c :: r) =>
    if c.isDigit && (afterDate word).any (·.isEmpty) then
      let (time, rest) := (c :: r).span isScalarChar
      (word ++ ' ' :: time, rest)
    else (word, ' ' :: c :: r)
  | other => other

end LineSpecials.Toml
