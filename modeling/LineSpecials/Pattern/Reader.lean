import LineSpecials.Pattern.Brackets
import LineSpecials.Unicode.Binary

namespace LineSpecials.Pattern

/-- What is known at a place of a pattern: the flags, the names of groups with where they stand, and
how many groups have a number. -/
structure Scope where
  flags : Flags
  names : List (Text × Stretch)
  groups : Nat

/-- The scope behind one more group with a number. -/
def Scope.numbered (s : Scope) : Scope := { s with groups := s.groups + 1 }

/-- What follows an opening parenthesis: flags for the rest of the group around it, or a group with
its own scope and, unless it has none, its number. -/
inductive Opening
  | flags (f : Flags)
  | group (s : Scope) (number : Option Nat)

/-- A character of a group's name. -/
def isGroupNameChar (first : Bool) (c : Char) : Bool :=
  c == '_' || isLetter || (! first && (isDigit || c == '.' || c == '[' || c == ']'))
where
  isLetter : Bool := if c.toNat < 0x80 then c.isAlpha else Unicode.alphabetic.has c
  isDigit : Bool := if c.toNat < 0x80 then c.isDigit else Unicode.numeric.has c

/-- The name of a group up to the closing angle bracket, which is dropped. -/
def groupName (first : Bool) : Text → Except Fault (Text × Text)
  | [] => fault .nameUnfinished [] []
  | c :: r =>
    if c = '>' then .ok ([], r)
    else if isGroupNameChar first c then do
      let (name, rest) ← groupName false r
      return (c :: name, rest)
    else fault .nameCharacter (c :: r) r

/-- A named group, whose name no other group may have. -/
def namedGroup (s : Scope) (t : Text) : Except Fault (Opening × Text) := do
  let (name, rest) ← groupName true t
  let place : Stretch := ⟨t.length, rest.length + 1⟩
  if name.isEmpty then fault .nameEmpty t t
  else match s.names.lookup name with
    | some earlier => throw ⟨.nameDuplicate, place, some earlier⟩
    | none =>
      let s := s.numbered
      return (.group { s with names := (name, place) :: s.names } (some s.groups), rest)

/-- What an opening parenthesis opens; `t` begins with it. -/
def opened (s : Scope) (t : Text) : Except Fault (Opening × Text) :=
  let inner := s.flags.skip t.tail
  match inner with
  | '?' :: '=' :: r | '?' :: '!' :: r | '?' :: '<' :: '=' :: r | '?' :: '<' :: '!' :: r =>
    fault .lookAround t r
  | '?' :: 'P' :: '<' :: r | '?' :: '<' :: r => namedGroup s r
  | '?' :: [] => fault .groupUnclosed t t.tail
  | '?' :: ')' :: _ => fault .repetitionMissing inner inner
  | '?' :: r => do
    let (f, rest) ← Flags.read [] none s.flags r
    match rest with
    | ':' :: rest => return (.group { s with flags := f } none, rest)
    | rest => return (.flags f, rest.tail)
  | r =>
    let s := s.numbered
    .ok (.group s (some s.groups), r)

/-- A decimal number with blanks around it. The number is told apart from what follows it, since
what follows is looked at first. -/
def decimal (f : Flags) (t : Text) : Except Fault Nat × Text :=
  let start := t.dropWhile isBlank
  let (ds, rest) := f.span Char.isDigit start.length start
  let n := ds.foldl (fun n c => 10 * n + (c.toNat - 48)) 0
  let number : Except Fault Nat :=
    if ds.isEmpty then fault .countEmpty start rest
    else if n < Nat.pow 2 32 then .ok n
    else fault .numberTooLarge start rest
  (number, rest.dropWhile isBlank)

/-- How often a part is repeated: at least and at most so many times, and whether fewer times are
tried first. -/
structure Count where
  least : Nat
  most : Option Nat
  isLazy : Bool

/-- The least and the most of a count, of which the least has been read: a number alone is both, and
behind a comma the most may be left out. -/
def countLimits (f : Flags) (unclosed : Text → Fault) (least : Except Fault Nat) (t : Text) :
    Except Fault ((Nat × Option Nat) × Text) :=
  match t with
  | ',' :: r =>
    match f.skip r with
    | [] => throw (unclosed [])
    | '\x7d' :: r => do
      let n ← least
      return ((n, none), '\x7d' :: r)
    | r => do
      let n ← least
      let (most, rest) := decimal f r
      let m ← most
      return ((n, some m), rest)
  | t => do
    let n ← least
    return ((n, some n), t)

/-- A question mark behind a count, which turns the order of tries around. -/
def lazyMark (f : Flags) (t : Text) : Bool × Text :=
  match t with
  | '?' :: r => (! f.isLazy, r)
  | r => (f.isLazy, r)

/-- How often: numbers in braces, the least and the most. -/
def counts (f : Flags) (t : Text) : Except Fault (Count × Text) := do
  let unclosed (rest : Text) : Fault := ⟨.countUnclosed, .between t rest, none⟩
  let r := f.skip t.tail
  if r.isEmpty then throw (unclosed r)
  let (least, rest) := decimal f r
  if rest.isEmpty then throw (unclosed rest)
  let ((least, most), rest) ← countLimits f unclosed least rest
  if rest.head? != some '\x7d' then throw (unclosed rest)
  let (isLazy, behind) := lazyMark f (f.skip rest.tail)
  if most.any (· < least) then fault .countRange t behind
  else return (⟨least, most, isLazy⟩, behind)

/-- What has been read of a group: the place where it begins, its alternatives but the last, the
place where that one begins, and its parts. Of alternatives and of parts the last one comes
first. -/
structure Level where
  start : Nat
  closed : List Tree
  rowStart : Nat
  parts : List Tree

namespace Level

/-- A group that begins with a text. -/
def begin (t : Text) : Level := ⟨t.length, [], t.length, []⟩

/-- The group with one more part. -/
def add (l : Level) (t : Tree) : Level := { l with parts := t :: l.parts }

/-- The alternatives, of which the last one ends before `t`. -/
def rows (l : Level) (t : Text) : List Tree :=
  .ofParts ⟨l.rowStart, t.length⟩ l.parts :: l.closed

/-- The group with a bar in front of `t`; `r` is the text behind the bar. -/
def bar (l : Level) (t r : Text) : Level :=
  { l with closed := l.rows t, rowStart := r.length, parts := [] }

/-- The whole group, which ends before `t`. -/
def tree (l : Level) (t : Text) : Tree := .ofAlternatives ⟨l.start, t.length⟩ (l.rows t)

/-- The last part, to be repeated, and the group without it; `t` begins with the sign that asks for
the repetition. -/
def last (l : Level) (t : Text) : Except Fault (Tree × Level) :=
  match l.parts with
  | [] | .nothing _ :: _ => fault .repetitionMissing t t
  | p :: ps => .ok (p, { l with parts := ps })

/-- The group with a part repeated; `rest` is the text behind the count. -/
def addRepeated (l : Level) (p : Tree) (n : Count) (rest : Text) : Level :=
  l.add (.repeated ⟨p.place.before, rest.length⟩ p n.least n.most n.isLazy)

end Level

/-- What a character stands for outside of brackets; `r` is the text behind it. -/
def atomOf (c : Char) (r : Text) : Atom :=
  if c = '.' then .point
  else if c = '^' then .lineStart
  else if c = '$' then .lineEnd
  else .literal (verbatim c r)

/-- The count that a sign stands for. -/
def signCount? (c : Char) : Option (Nat × Option Nat) :=
  if c = '?' then some (0, some 1)
  else if c = '*' then some (0, none)
  else if c = '+' then some (1, none)
  else none

/-- What follows in a group up to its closing parenthesis or the end. -/
def readLevel : Nat → Scope → Level → Text → Except Fault ((Tree × Scope) × Text)
  | 0, _, _, t => fault .groupUnclosed t t
  | fuel + 1, s, l, t =>
    let f := s.flags
    let t := f.skip t
    match t with
    | [] | ')' :: _ => .ok ((l.tree t, s), t)
    | '|' :: r => readLevel fuel s (l.bar t r) r
    | '(' :: r => do
      let (what, inner) ← opened s t
      match what with
      | .flags f => readLevel fuel { s with flags := f } (l.add (.nothing (.between t inner))) inner
      | .group scope number =>
        let ((p, scope), rest) ← readLevel fuel scope (.begin inner) inner
        match rest with
        | ')' :: rest =>
          readLevel fuel { scope with flags := f } (l.add (.group (.between t rest) number p)) rest
        | _ => fault .groupUnclosed t r
    | '[' :: _ => do
      let (c, rest) ← brackets f t
      readLevel fuel s (l.add (.listing f c)) rest
    | '\x7b' :: _ => do
      let (p, l) ← l.last t
      let (n, rest) ← counts f t
      readLevel fuel s (l.addRepeated p n rest) rest
    | '\\' :: _ => do
      let (a, rest) ← escape f t
      readLevel fuel s (l.add (.atom (.between t rest) f a)) rest
    | c :: r =>
      match signCount? c with
      | some (least, most) => do
        let (p, l) ← l.last t
        let (isLazy, rest) := lazyMark f r
        readLevel fuel s (l.addRepeated p ⟨least, most, isLazy⟩ rest) rest
      | none => readLevel fuel s (l.add (.atom (.between t r) f (atomOf c r))) r

/-- The tree that a text writes. -/
def Tree.ofText (t : Text) : Except Fault Tree := do
  let ((p, _), rest) ← readLevel (t.length + 1) ⟨.initial, [], 0⟩ (.begin t) t
  match rest with
  | [] => return p
  | _ :: r => fault .groupUnopened rest r

end LineSpecials.Pattern
