import LineSpecials.Text.Basic

namespace LineSpecials.Text

/-- How far a control sequence has come. -/
inductive Sequence
  /-- There is none. -/
  | none
  /-- An escape character. -/
  | escape
  /-- An escape character and marks, which one more character ends. -/
  | marked
  /-- A control function, which a letter ends. -/
  | control
  /-- The beginning of a device control string. -/
  | device
  /-- The beginning of a device control string that has numbers. -/
  | numbered
  /-- The beginning of a device control string that has marks. -/
  | signed
  /-- A string that only its terminator ends. -/
  | string
  /-- A command to the system, which a bell ends. -/
  | command
  deriving DecidableEq

/-- Whether one of the bytes of a character other than the first is the string terminator. -/
def holdsTerminator (c : Char) : Bool :=
  let n := c.toNat
  (0x80 ≤ n && n % 64 == 28) || (0x800 ≤ n && n / 64 % 64 == 28) ||
    (0x10000 ≤ n && n / 4096 % 64 == 28)

/-- The sequence with one more character. An escape character begins a new one, and the cancel and
substitute characters end every one. -/
def Sequence.next (s : Sequence) (c : Char) : Sequence :=
  if c = '\x1b' then escape
  else if c = '\x18' ∨ c = '\x1a' then none
  else match s with
    | none => none
    | escape =>
      if c = '[' then control
      else if c = ']' then command
      else if c = 'P' then device
      else if c = 'X' ∨ c = '^' ∨ c = '_' then string
      else if ' ' ≤ c ∧ c ≤ '/' then marked
      else if '0' ≤ c ∧ c ≤ '~' then none
      else escape
    | marked => if '0' ≤ c ∧ c ≤ '~' then none else marked
    | control => if '@' ≤ c ∧ c ≤ '~' then none else control
    | device =>
      if ' ' ≤ c ∧ c ≤ '/' then signed
      else if '0' ≤ c ∧ c ≤ '?' then numbered
      else if '@' ≤ c ∧ c ≤ '~' then string
      else device
    | numbered =>
      if ' ' ≤ c ∧ c ≤ '/' then signed
      else if '<' ≤ c ∧ c ≤ '~' then string
      else numbered
    | signed => if '0' ≤ c ∧ c ≤ '~' then string else signed
    | string => if holdsTerminator c then none else string
    | command => if c = '\x07' then none else command

/-- A control character that only moves on. -/
def isMove (c : Char) : Bool := c == '\t' || c == '\n' || c == '\x0c' || c == '\r'

/-- A character that is shown outside of sequences. -/
def isShown (c : Char) : Bool := isMove c || (0x20 ≤ c.toNat && c.toNat != 0x7F)

/-- Whether a character is shown in spite of a sequence that has come so far. -/
def Sequence.shows : Sequence → Char → Bool
  | none, c => isShown c
  | escape, c | marked, c | control, c => isMove c
  | device, _ | numbered, _ | signed, _ | string, _ | command, _ => false

/-- What is shown of a text. A moving character inside a sequence interrupts it: characters are
shown from there up to the next control character, behind which the sequence goes on, unless one
beyond ASCII has come before. -/
def shown (s : Sequence) (interrupted : Bool) : Text → Text
  | [] => []
  | c :: r =>
    if (if interrupted then Sequence.none else s).shows c then
      c :: shown (if c.toNat < 0x80 then s else .none) true r
    else shown (s.next c) false r

/-- The text without control sequences and control characters. -/
def plain (t : Text) : Text := shown .none false t

end LineSpecials.Text
