import LineSpecials.CharSet.Ascii
import LineSpecials.Pattern.Escape

namespace LineSpecials.Pattern

/-- The members of a union that have been read, the last one first, and the place where they
begin. -/
structure Members where
  start : Nat
  items : List Listing

namespace Members

/-- The members with one more. -/
def add (m : Members) (l : Listing) : Members := { m with items := l :: m.items }

/-- The union as the right side of what is waiting for one. -/
def close (m : Members) (waiting : Option (SetOperation × Listing)) : Listing :=
  .close waiting (.ofMembers m.start m.items)

end Members

/-- A character that stands for itself; `r` is the text behind it. -/
def verbatim (c : Char) (r : Text) : Literal := ⟨⟨r.length + 1, r.length⟩, c, false⟩

/-- A character that stands for itself as a member of brackets. -/
def verbatimMember (c : Char) (r : Text) : Listing :=
  let l := verbatim c r
  .atom l.place (.literal l)

/-- A named class of ASCII characters, such as `[:alpha:]`, at the front of a text. -/
def asciiClass? (t : Text) : Option (Listing × Text) :=
  match t with
  | '[' :: ':' :: r =>
    let (outside, r) := match r with
      | '^' :: r => (true, r)
      | r => (false, r)
    match r.dropWhile (· != ':') with
    | ':' :: ']' :: rest =>
      (CharSet.ofAsciiName? (r.takeWhile (· != ':'))).map fun s =>
        (.named (.between t rest) outside s, rest)
    | _ => none
  | _ => none

/-- Hyphens, each of which stands for itself; `t` is where the brackets open. -/
def leadingHyphens (f : Flags) (t : Text) : Nat → Members → Text → Except Fault (Members × Text)
  | fuel + 1, m, '-' :: r =>
    let m := m.add (verbatimMember '-' r)
    match f.skip r with
    | [] => fault .setUnclosed t t
    | r => leadingHyphens f t fuel m r
  | _, m, r => .ok (m, r)

/-- The beginning of brackets: whether the set is what is not listed, and the members that only
the beginning may list as they are, hyphens or a closing bracket. -/
def opening (f : Flags) (t : Text) : Except Fault ((Bool × Members) × Text) := do
  let r := f.skip t.tail
  if r.isEmpty then fault .setUnclosed t r
  let outside := r.head? == some '^'
  let r := if outside then f.skip r.tail else r
  if r.isEmpty then fault .setUnclosed t r
  let (m, r) ← leadingHyphens f t r.length ⟨r.length, []⟩ r
  match m.items, r with
  | [], ']' :: r =>
    let rest := f.skip r
    if rest.isEmpty then fault .setUnclosed t rest
    return ((outside, m.add (verbatimMember ']' r)), rest)
  | _, r => return ((outside, m), r)

/-- One character or class inside brackets. -/
def member (f : Flags) : Text → Except Fault (Atom × Text)
  | [] => fault .setUnclosed [] []
  | c :: r => if c = '\\' then escape f (c :: r) else .ok (.literal (verbatim c r), r)

/-- The end of a range, which is a single character. -/
def rangeEnd (a : Atom) (before after : Text) : Except Fault Literal :=
  match a with
  | .literal l => .ok l
  | _ => fault .setRangeEnd before after

/-- A character, a range or a class inside brackets; `unclosed` is the fault of a text that ends
too early. -/
def memberOrRange (f : Flags) (unclosed : Fault) (t : Text) : Except Fault (Listing × Text) := do
  let (a, rest) ← member f t
  let alone : Except Fault (Listing × Text) := match a with
    | .literal _ | .shorthand _ _ | .property _ _ => .ok (.atom (.between t rest) a, f.skip rest)
    | _ => fault .setEscape t rest
  match f.skip rest with
  | [] => throw unclosed
  | '-' :: r =>
    if f.peek? r = some ']' ∨ f.peek? r = some '-' then alone
    else match f.skip r with
      | [] => throw unclosed
      | t' => do
        let (b, rest') ← member f t'
        let first ← rangeEnd a t rest
        let last ← rangeEnd b t' rest'
        if last.char < first.char then fault .setRange t rest'
        else return (.range (.between t rest') first last, rest')
  | _ => alone

/-- The members of a set up to the closing bracket. `unclosed` is the fault of brackets that stay
open, `waiting` the left side of an operation. -/
def members (f : Flags) (unclosed : Fault) :
    Nat → Option (SetOperation × Listing) → Members → Text → Except Fault (Listing × Text)
  | 0, _, _, _ => throw unclosed
  | fuel + 1, waiting, m, t =>
    let operation (op : SetOperation) (r : Text) :=
      members f unclosed fuel (some (op, m.close waiting)) ⟨r.length, []⟩ r
    match f.skip t with
    | [] => throw unclosed
    | ']' :: r => .ok (m.close waiting, r)
    | '&' :: '&' :: r => operation .intersection r
    | '-' :: '-' :: r => operation .difference r
    | '~' :: '~' :: r => operation .symmetricDifference r
    | '[' :: r =>
      match asciiClass? ('[' :: r) with
      | some (l, rest) => members f unclosed fuel waiting (m.add l) rest
      | none => do
        let ((outside, first), inner) ← opening f ('[' :: r)
        let unclosedHere : Fault := ⟨.setUnclosed, .between ('[' :: r) inner, none⟩
        let (l, rest) ← members f unclosedHere fuel none first inner
        let l : Listing := .brackets (.between ('[' :: r) rest) outside l
        members f unclosed fuel waiting (m.add l) rest
    | t => do
      let (l, rest) ← memberOrRange f unclosed t
      members f unclosed fuel waiting (m.add l) rest

/-- A set in brackets at the front of a text. -/
def brackets (f : Flags) (t : Text) : Except Fault (Listing × Text) := do
  let ((outside, first), inner) ← opening f t
  let (l, rest) ←
    members f ⟨.setUnclosed, .between t inner, none⟩ (inner.length + 1) none first inner
  return (.brackets (.between t rest) outside l, rest)

end LineSpecials.Pattern
