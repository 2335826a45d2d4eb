import LineSpecials.Pattern.Fault
import LineSpecials.Text.Blank

namespace LineSpecials.Pattern

/-- The flags by name. -/
inductive Flag
  | caseless
  | multiline
  | dotAll
  | lazy
  | unicode
  | returns
  | verbose
  deriving DecidableEq

/-- The flag of a letter. -/
def Flag.ofLetter? (c : Char) : Option Flag :=
  if c = 'i' then some caseless
  else if c = 'm' then some multiline
  else if c = 's' then some dotAll
  else if c = 'U' then some lazy
  else if c = 'u' then some unicode
  else if c = 'R' then some returns
  else if c = 'x' then some verbose
  else none

/-- Which flags are set. -/
structure Flags where
  caseless : Bool
  multiline : Bool
  dotAll : Bool
  isLazy : Bool
  unicode : Bool
  returns : Bool
  verbose : Bool
  deriving DecidableEq

namespace Flags

/-- The flags at the beginning of a pattern. -/
def initial : Flags := ⟨false, false, false, false, true, false, false⟩

/-- The flags with one of them set or cleared. -/
def set (f : Flags) (on : Bool) : Flag → Flags
  | .caseless => { f with caseless := on }
  | .multiline => { f with multiline := on }
  | .dotAll => { f with dotAll := on }
  | .lazy => { f with isLazy := on }
  | .unicode => { f with unicode := on }
  | .returns => { f with returns := on }
  | .verbose => { f with verbose := on }

/-- Flags up to a colon or a closing parenthesis, which stays. A hyphen clears those behind it.
`seen` holds the flags read so far, and hyphens, each with the number of characters behind its
beginning; `dash` is that of a hyphen that came last. -/
def read (seen : List (Option Flag × Nat)) (dash : Option Nat) (f : Flags) :
    Text → Except Fault (Flags × Text)
  | [] => fault .flagUnfinished [] []
  | c :: r =>
    let here : Stretch := .between (c :: r) r
    let repeats (kind : FaultKind) (n : Nat) : Fault := ⟨kind, here, some ⟨n, n - 1⟩⟩
    if c = ':' ∨ c = ')' then
      match dash with
      | some n => .error ⟨.flagDanglingNegation, ⟨n, n - 1⟩, none⟩
      | none => .ok (f, c :: r)
    else if c = '-' then
      match seen.lookup none with
      | some n => .error (repeats .flagRepeatedNegation n)
      | none => read ((none, here.before) :: seen) (some here.before) f r
    else match Flag.ofLetter? c with
      | none => fault .flagUnknown (c :: r) r
      | some flag =>
        match seen.lookup (some flag) with
        | some n => .error (repeats .flagDuplicate n)
        | none =>
          read ((some flag, here.before) :: seen) none
            (f.set (seen.lookup none).isNone flag) r

/-- The text behind blanks and comments, which a number sign begins and a line break ends. -/
def ignored (inComment : Bool) : Text → Text
  | [] => []
  | c :: r =>
    if inComment then ignored (c != '\n') r
    else if isBlank c then ignored false r
    else if c = '#' then ignored true r
    else c :: r

/-- The text behind what the flags say is ignored. -/
def skip (f : Flags) (t : Text) : Text := if f.verbose then ignored false t else t

/-- The character that a look ahead finds behind what the flags say is ignored. The look stops at the
first character of a comment that is no blank, unlike what passes over comments. -/
def peek? (f : Flags) (t : Text) : Option Char :=
  if f.verbose then
    match t.dropWhile isBlank with
    | '#' :: r => (r.dropWhile isBlank).head?
    | r => r.head?
  else t.head?

/-- The characters at the front of a text that satisfy `p`, at most `limit` of them, and the text
behind them; what the flags say is ignored behind each. -/
def span (f : Flags) (p : Char → Bool) : Nat → Text → Text × Text
  | 0, t => ([], t)
  | _ + 1, [] => ([], [])
  | limit + 1, c :: r =>
    if p c then
      let (run, rest) := f.span p limit (f.skip r)
      (c :: run, rest)
    else ([], c :: r)

end Flags

end LineSpecials.Pattern
