import LineSpecials.Text.Basic

namespace LineSpecials

/-- A set of characters: the code points, in ascending order, from which on membership is another
one than before. What lies below all of them is not in the set. -/
structure CharSet where
  changes : List Nat
  deriving DecidableEq

namespace CharSet

/-- Membership of a code point, where `inside` is the membership of what lies below all changes. -/
def holds (inside : Bool) : List Nat → Nat → Bool
  | [], _ => inside
  | b :: bs, n => if n < b then inside else holds (! inside) bs n

/-- Whether a character belongs to a set. -/
def has (s : CharSet) (c : Char) : Bool := holds false s.changes c.toNat

/-- A change at a code point, if there is one. -/
def turn (before after : Bool) (n : Nat) (rest : List Nat) : List Nat :=
  if before = after then rest else n :: rest

/-- The changes of what an operation makes of two memberships, given by their changes and by `x`
and `y` below them. -/
def merge (op : Bool → Bool → Bool) (x y : Bool) : List Nat → List Nat → List Nat
  | [], [] => []
  | a :: s, [] => turn (op x y) (op (! x) y) a (merge op (! x) y s [])
  | [], b :: t => turn (op x y) (op x (! y)) b (merge op x (! y) [] t)
  | a :: s, b :: t =>
    if a < b then turn (op x y) (op (! x) y) a (merge op (! x) y s (b :: t))
    else if b < a then turn (op x y) (op x (! y)) b (merge op x (! y) (a :: s) t)
    else turn (op x y) (op (! x) (! y)) a (merge op (! x) (! y) s t)
  termination_by s t => s.length + t.length

/-- The set of no characters. -/
def empty : CharSet := ⟨[]⟩

/-- The characters of one set or of another. -/
def union (s t : CharSet) : CharSet := ⟨merge (· || ·) false false s.changes t.changes⟩

/-- The characters of two sets at once. -/
def inter (s t : CharSet) : CharSet := ⟨merge (· && ·) false false s.changes t.changes⟩

/-- The characters of one set that another lacks. -/
def minus (s t : CharSet) : CharSet := ⟨merge (fun x y => x && ! y) false false s.changes t.changes⟩

/-- The characters of exactly one of two sets. -/
def symmDiff (s t : CharSet) : CharSet := ⟨merge (· != ·) false false s.changes t.changes⟩

/-- The characters of any of some sets. -/
def unions (ss : List CharSet) : CharSet := ss.foldr union empty

/-- All characters. The surrogates among the code points are none. -/
def all : CharSet := ⟨[0, 0xD800, 0xE000, 0x110000]⟩

/-- The characters that a set lacks. -/
def compl (s : CharSet) : CharSet := all.minus s

/-- The characters from one up to another. -/
def range (first last : Char) : CharSet :=
  if first ≤ last then all.inter ⟨[first.toNat, last.toNat + 1]⟩ else empty

/-- The set of one character. -/
def singleton (c : Char) : CharSet := ⟨[c.toNat, c.toNat + 1]⟩

/-- A range of code points in front of changes that begin no earlier. -/
def addRange (r : Nat × Nat) (changes : List Nat) : List Nat :=
  match changes with
  | [] => [r.1, r.2 + 1]
  | b :: rest => if b ≤ r.2 + 1 then r.1 :: rest else r.1 :: (r.2 + 1) :: b :: rest

/-- The code points of ascending ranges, which do not overlap. -/
def ofRanges (rs : List (Nat × Nat)) : CharSet := ⟨rs.foldr addRange []⟩

/-- The set of some code points. -/
def ofCodes (ns : List Nat) : CharSet :=
  ofRanges ((ns.mergeSort (· ≤ ·)).map fun n => (n, n))

/-- Pairs of changes as ranges. -/
def pairs : List Nat → List (Nat × Nat)
  | a :: b :: rest => (a, b - 1) :: pairs rest
  | _ => []

/-- The ranges of a set, both ends of which belong to it. -/
def ranges (s : CharSet) : List (Nat × Nat) := pairs s.changes

/-- Whether a set has no characters. -/
def isEmpty (s : CharSet) : Bool := s.changes.isEmpty

/-- The only character of a set, if it has no other. -/
def single? (s : CharSet) : Option Char :=
  match s.changes with
  | [a, b] => if b = a + 1 then some (Char.ofNat a) else none
  | _ => none

end CharSet

end LineSpecials
