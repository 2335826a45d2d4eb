import LineSpecials.Pattern.Basic

namespace LineSpecials.Pattern

/-- The pattern that leads nowhere else. -/
def empty : Pattern := row []

mutual

/-- Whether two patterns are the same. -/
def same : Pattern → Pattern → Bool
  | literal t, literal u => t == u
  | char s, char t => s == t
  | anchor a, anchor b => a == b
  | repeated p least most isLazy, repeated q least' most' isLazy' =>
    same p q && least == least' && most == most' && isLazy == isLazy'
  | capture n p, capture k q => n == k && same p q
  | row ps, row qs => sameAll ps qs
  | choice ps, choice qs => sameAll ps qs
  | _, _ => false

/-- Whether two lists of patterns are the same. -/
def sameAll : List Pattern → List Pattern → Bool
  | [], [] => true
  | p :: ps, q :: qs => same p q && sameAll ps qs
  | _, _ => false

end

/-- The number of bytes of a character by its code point. -/
def width (n : Nat) : Nat := (Char.ofNat n).utf8Size

/-- How many bytes the texts have that a pattern may match, at least and at most. Either is missing
where there is no such number: there may be no end, or no text at all. -/
structure Extent where
  least : Option Nat
  most : Option Nat

/-- The sum of numbers, if none is missing. -/
def total (ns : List (Option Nat)) : Option Nat :=
  ns.foldr (fun n sum => n.bind fun n => sum.map (n + ·)) (some 0)

/-- The number that `pick` picks from numbers of which none is missing, and of which there is one
at least. -/
def picked (pick : Nat → Nat → Nat) : List (Option Nat) → Option Nat
  | [] => none
  | n :: ns => ns.foldl (fun a b => a.bind fun a => b.map (pick a)) n

mutual

/-- How long the texts are that a pattern may match. -/
def extent : Pattern → Extent
  | literal t => ⟨some t.byteLength, some t.byteLength⟩
  | char s => ⟨s.changes.head?.map width, s.changes.getLast?.map (width <| · - 1)⟩
  | anchor _ => ⟨some 0, some 0⟩
  | repeated p least most _ =>
    ⟨(extent p).least.map (· * least), most.bind fun n => (extent p).most.map (· * n)⟩
  | capture _ p => extent p
  | row ps => ⟨total ((extents ps).map (·.least)), total ((extents ps).map (·.most))⟩
  | choice ps =>
    ⟨picked min ((extents ps).map (·.least)), picked max ((extents ps).map (·.most))⟩

/-- How long the texts are that each of some patterns may match. -/
def extents : List Pattern → List Extent
  | [] => []
  | p :: ps => extent p :: extents ps

end

/-- Whether a pattern matches nothing but the empty text. -/
def isEmptyOnly (p : Pattern) : Bool := (extent p).most == some 0

/-- One character of a set. -/
def ofSet (s : CharSet) : Pattern :=
  match s.single? with
  | some c => literal [c]
  | none => char s

/-- A pattern in front of a row. -/
def addFront (p : Pattern) (rest : List Pattern) : List Pattern :=
  match p, rest with
  | literal t, literal u :: rest => literal (t ++ u) :: rest
  | row ps, rest => ps.foldr addLiteral rest
  | p, rest => p :: rest
where
  addLiteral (p : Pattern) (rest : List Pattern) : List Pattern :=
    match p, rest with
    | literal t, literal u :: rest => literal (t ++ u) :: rest
    | p, rest => p :: rest

/-- Patterns one behind the other. -/
def ofRow (ps : List Pattern) : Pattern :=
  match ps.foldr addFront [] with
  | [p] => p
  | ps => row ps

/-- A pattern in a row. What matches only the empty text need not be repeated, and one time is
none too many. -/
def ofRepeated (p : Pattern) (least : Nat) (most : Option Nat) (isLazy : Bool) : Pattern :=
  let (least, most) :=
    if p.isEmptyOnly then (min least 1, some (min (most.getD 1) 1)) else (least, most)
  if most = some 0 then empty
  else if least = 1 ∧ most = some 1 then p
  else repeated p least most isLazy

/-- The characters that some patterns are, if each is one character. -/
def characters? (ps : List Pattern) : Option CharSet :=
  (ps.mapM fun | literal [c] => some (CharSet.singleton c) | _ => none).map .unions

/-- The set that some patterns are, if each is a set. -/
def sets? (ps : List Pattern) : Option CharSet :=
  (ps.mapM fun | char s => some s | _ => none).map .unions

/-- The patterns of a choice without choices among them. -/
def flatChoice (ps : List Pattern) : List Pattern :=
  ps.flatMap fun | choice qs => qs | p => [p]

/-- One of some patterns, where no choice is among them. -/
def ofFlatChoice : List Pattern → Pattern
  | [p] => p
  | ps => (((characters? ps).or (sets? ps)).map ofSet).getD (choice ps)

/-- What two rows have in common at the front. -/
def commonFront : List Pattern → List Pattern → List Pattern
  | p :: ps, q :: qs => if same p q then p :: commonFront ps qs else []
  | _, _ => []

/-- The rows that some patterns are, if each is one. -/
def rows? (ps : List Pattern) : Option (List (List Pattern)) :=
  ps.mapM fun | row (p :: ps) => some (p :: ps) | _ => none

/-- One of some patterns. What rows have in common at the front stands before the choice. -/
def ofChoice (ps : List Pattern) : Pattern :=
  match ofFlatChoice (flatChoice ps) with
  | choice ps =>
    match rows? ps with
    | some (r :: rs) =>
      let front := rs.foldl commonFront r
      if front.isEmpty then choice ps
      else
        let rest := (r :: rs).map fun r => ofRow (r.drop front.length)
        ofRow (front ++ [ofFlatChoice (flatChoice rest)])
    | _ => choice ps
  | p => p

end LineSpecials.Pattern
