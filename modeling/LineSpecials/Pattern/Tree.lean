import LineSpecials.Pattern.Basic
import LineSpecials.Pattern.Fault
import LineSpecials.Pattern.Flags

namespace LineSpecials.Pattern

/-- The classes of characters that have letters. -/
inductive Shorthand
  | digit
  | space
  | word
  deriving DecidableEq

/-- A property of characters by name, or a property and its value. -/
inductive PropertyQuery
  | named (name : Text)
  | valued (property value : Text)
  deriving DecidableEq

/-- A character as it is written; two hexadecimal digits may write a byte instead. -/
structure Literal where
  place : Stretch
  char : Char
  isByte : Bool
  deriving DecidableEq

/-- The smallest parts of patterns. -/
inductive Atom
  | literal (l : Literal)
  | point
  | lineStart
  | lineEnd
  | textStart
  | textEnd
  | word (place : WordPlace)
  | shorthand (s : Shorthand) (outside : Bool)
  | property (q : PropertyQuery) (outside : Bool)
  deriving DecidableEq

/-- What may be done with two sets. -/
inductive SetOperation
  | intersection
  | difference
  | symmetricDifference
  deriving DecidableEq

/-- What stands in brackets, and brackets themselves. -/
inductive Listing
  | nothing (place : Stretch)
  | atom (place : Stretch) (a : Atom)
  | range (place : Stretch) (first last : Literal)
  /-- A class of ASCII characters. -/
  | named (place : Stretch) (outside : Bool) (s : CharSet)
  | brackets (place : Stretch) (outside : Bool) (l : Listing)
  | union (place : Stretch) (ls : List Listing)
  | operation (place : Stretch) (op : SetOperation) (left right : Listing)

/-- A pattern as it is written. -/
inductive Tree
  /-- No part, or flags. -/
  | nothing (place : Stretch)
  | atom (place : Stretch) (f : Flags) (a : Atom)
  | listing (f : Flags) (l : Listing)
  | repeated (place : Stretch) (t : Tree) (least : Nat) (most : Option Nat) (isLazy : Bool)
  | group (place : Stretch) (number : Option Nat) (t : Tree)
  | row (place : Stretch) (ts : List Tree)
  | choice (place : Stretch) (ts : List Tree)

namespace Listing

/-- Where a listing stands. -/
def place : Listing → Stretch
  | nothing p | atom p _ | range p _ _ | named p _ _ | brackets p _ _ | union p _
  | operation p _ _ _ => p

/-- Members side by side, the last one first; `start` is where they would begin. -/
def ofMembers (start : Nat) (members : List Listing) : Listing :=
  match members with
  | [] => nothing ⟨start, start⟩
  | [l] => l
  | l :: ls => union ⟨(ls.getLast?.getD l).place.before, l.place.after⟩ (l :: ls).reverse

/-- An operation on what was waiting for its right side. -/
def close (waiting : Option (SetOperation × Listing)) (l : Listing) : Listing :=
  match waiting with
  | none => l
  | some (op, left) => operation ⟨left.place.before, l.place.after⟩ op left l

mutual

/-- The first part that stands too deep, where so many more levels are allowed. -/
def tooDeep (room : Nat) : Listing → Option Stretch
  | brackets p _ l => if room = 0 then some p else tooDeep (room - 1) l
  | union p ls => if room = 0 then some p else tooDeepOf (room - 1) ls
  | operation p _ l r =>
    if room = 0 then some p else (tooDeep (room - 1) l).or (tooDeep (room - 1) r)
  | _ => none

/-- The first part of some listings that stands too deep. -/
def tooDeepOf (room : Nat) : List Listing → Option Stretch
  | [] => none
  | l :: ls => (tooDeep room l).or (tooDeepOf room ls)

end

end Listing

namespace Tree

/-- Where a tree stands. -/
def place : Tree → Stretch
  | nothing p | atom p _ _ | repeated p _ _ _ _ | group p _ _ | row p _ | choice p _ => p
  | listing _ l => l.place

/-- Parts one behind the other, the last one first, between two places. -/
def ofParts (p : Stretch) (parts : List Tree) : Tree :=
  match parts with
  | [] => nothing p
  | [t] => t
  | ts => row p ts.reverse

/-- Alternatives, the last one first, between two places. -/
def ofAlternatives (p : Stretch) (alternatives : List Tree) : Tree :=
  match alternatives with
  | [t] => t
  | ts => choice p ts.reverse

mutual

/-- The first part that stands too deep, where so many more levels are allowed. -/
def tooDeep (room : Nat) : Tree → Option Stretch
  | nothing _ | atom _ _ _ => none
  | listing _ l => l.tooDeep room
  | repeated p t _ _ _ | group p _ t => if room = 0 then some p else tooDeep (room - 1) t
  | row p ts | choice p ts => if room = 0 then some p else tooDeepOf (room - 1) ts

/-- The first part of some trees that stands too deep. -/
def tooDeepOf (room : Nat) : List Tree → Option Stretch
  | [] => none
  | t :: ts => (tooDeep room t).or (tooDeepOf room ts)

end

end Tree

end LineSpecials.Pattern
