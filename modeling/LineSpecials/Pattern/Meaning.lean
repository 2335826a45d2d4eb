import LineSpecials.CharSet.Folding
import LineSpecials.Pattern.Automaton
import LineSpecials.Pattern.Reader
import LineSpecials.Text.DigitClass
import LineSpecials.Unicode.Property

namespace LineSpecials.Pattern

/-- A set with the variants of its members, if the flags ask for them. -/
def casesOf (f : Flags) (s : CharSet) : CharSet :=
  if ! f.caseless then s
  else if f.unicode then s.withCases
  else s.withAsciiCases

/-- A listed set, or what it lacks; variants of what is listed count as listed. -/
def inOrOut (f : Flags) (place : Stretch) (outside : Bool) (s : CharSet) : Except Fault CharSet :=
  let s := casesOf f s
  if ! outside then .ok s
  else if f.unicode then .ok s.compl
  else .error ⟨.partialCharacters, place, none⟩

/-- The characters of a class that has a letter. -/
def Shorthand.set (f : Flags) : Shorthand → CharSet
  | digit => if f.unicode then .ofRanges digitRanges else .asciiDigits
  | space => if f.unicode then Unicode.listed "WSpace" else .asciiSpace
  | word => if f.unicode then .ofRanges wordRanges else .asciiWord

/-- The characters that a query asks for. -/
def PropertyQuery.set : PropertyQuery → Except Unicode.Missing CharSet
  | named name => Unicode.withProperty name
  | valued property value => Unicode.withValue property value

/-- The characters of a class. Those with a letter have all variants of their members already. -/
def shorthandSet (f : Flags) (place : Stretch) (s : Shorthand) (outside : Bool) :
    Except Fault CharSet :=
  inOrOut { f with caseless := false } place outside (s.set f)

/-- The characters that have a property or lack it. -/
def propertySet (f : Flags) (place : Stretch) (q : PropertyQuery) (outside : Bool) :
    Except Fault CharSet :=
  if ! f.unicode then .error ⟨.unicodeRefused, place, none⟩
  else match q.set with
    | .ok s => inOrOut f place outside s
    | .error .property => .error ⟨.propertyUnknown, place, none⟩
    | .error .value => .error ⟨.propertyValueUnknown, place, none⟩

/-- Whether a character is written as a byte that is none of ASCII where bytes count. -/
def Literal.isForeignByte (f : Flags) (l : Literal) : Bool :=
  ! f.unicode && l.isByte && 0x80 ≤ l.char.toNat

/-- A character in brackets. -/
def Literal.member (f : Flags) (l : Literal) : Except Fault Char :=
  if l.isForeignByte f then .error ⟨.partialCharacters, l.place, none⟩
  else if f.unicode || l.char.toNat < 0x80 then .ok l.char
  else .error ⟨.unicodeRefused, l.place, none⟩

/-- The characters that an atom in brackets stands for; anchors do not stand there. -/
def Atom.members (f : Flags) (place : Stretch) : Atom → Except Fault CharSet
  | literal l => (l.member f).map .singleton
  | shorthand s outside => shorthandSet f place s outside
  | property q outside => propertySet f place q outside
  | _ => .error ⟨.setEscape, place, none⟩

/-- The set that an operation makes of two. -/
def SetOperation.apply : SetOperation → CharSet → CharSet → CharSet
  | intersection => .inter
  | difference => .minus
  | symmetricDifference => .symmDiff

mutual

/-- The characters that a listing stands for. -/
def Listing.set (f : Flags) : Listing → Except Fault CharSet
  | nothing _ => .ok .empty
  | atom place a => a.members f place
  | range _ first last => do return .range (← first.member f) (← last.member f)
  | named place outside s => inOrOut f place outside s
  | brackets place outside l => do inOrOut f place outside (← l.set f)
  | union _ ls => Listing.unionSet f ls
  | operation _ op left right => do
    let s ← left.set f
    let t ← right.set f
    return op.apply (casesOf f s) (casesOf f t)

/-- The characters that any of some listings stands for. -/
def Listing.unionSet (f : Flags) : List Listing → Except Fault CharSet
  | [] => .ok .empty
  | l :: ls => do
    let s ← l.set f
    return s.union (← Listing.unionSet f ls)

end

/-- The characters that a point stands for: all but line breaks, or all. -/
def pointSet (f : Flags) : CharSet :=
  if f.dotAll then .all
  else if f.returns then CharSet.all.minus (.union (.singleton '\n') (.singleton '\r'))
  else CharSet.all.minus (.singleton '\n')

/-- The pattern that an atom outside of brackets means. -/
def Atom.meaning (f : Flags) (place : Stretch) : Atom → Except Fault Pattern
  | literal l =>
    if l.isForeignByte f then .error ⟨.partialCharacters, l.place, none⟩
    else .ok (ofSet (casesOf f (.singleton l.char)))
  | point =>
    if f.unicode then .ok (ofSet (pointSet f)) else .error ⟨.partialCharacters, place, none⟩
  | lineStart => .ok (anchor (if f.multiline then .lineStart f.returns else .textStart))
  | lineEnd => .ok (anchor (if f.multiline then .lineEnd f.returns else .textEnd))
  | textStart => .ok (anchor .textStart)
  | textEnd => .ok (anchor .textEnd)
  | word place => .ok (anchor (.word place (! f.unicode)))
  | shorthand s outside => (shorthandSet f place s outside).map ofSet
  | property q outside => (propertySet f place q outside).map ofSet

mutual

/-- The pattern that a tree means. The flags decide what its atoms and sets stand for: which
characters count as the same, which characters classes have, and whether there are characters beyond
ASCII at all. -/
def Tree.meaning : Tree → Except Fault Pattern
  | nothing _ => .ok empty
  | atom place f a => a.meaning f place
  | listing f l => (l.set f).map ofSet
  | repeated _ t least most isLazy => do return ofRepeated (← t.meaning) least most isLazy
  | group _ none t => t.meaning
  | group _ (some n) t => do return capture n (← t.meaning)
  | row _ ts => do return ofRow (← Tree.meanings ts)
  | choice _ ts => do return ofChoice (← Tree.meanings ts)

/-- The patterns that some trees mean. -/
def Tree.meanings : List Tree → Except Fault (List Pattern)
  | [] => .ok []
  | t :: ts => do
    let p ← t.meaning
    return p :: (← Tree.meanings ts)

end

/-- What keeps a text from being a pattern. -/
inductive Defect
  | fault (f : Fault)
  /-- The pattern takes too much memory. -/
  | tooLarge
  deriving DecidableEq

/-- What is wrong with a text, in words. -/
def Defect.describe (d : Defect) (text : Text) : Text :=
  match d with
  | fault f => f.describe text
  | tooLarge => "Compiled regex exceeds size limit of " ++ Text.ofNat sizeLimit ++ " bytes."

/-- The pattern that a text writes, unless parts of it stand too deep in others or it is too
large. -/
def ofText (text : Text) : Except Defect Pattern := do
  let p ← (written text).mapError Defect.fault
  if p.fits then return p else throw .tooLarge
where
  written (text : Text) : Except Fault Pattern := do
    let t ← Tree.ofText text
    match t.tooDeep depthLimit with
    | some place => .error ⟨.tooDeep, place, none⟩
    | none => t.meaning

end LineSpecials.Pattern
