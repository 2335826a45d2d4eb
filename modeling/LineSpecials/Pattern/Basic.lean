import LineSpecials.CharSet.Ascii
import LineSpecials.Text.WordClass

namespace LineSpecials

/-- What a pattern can ask about the word characters on either side of a place. -/
inductive WordPlace
  /-- One of the two is a word character. -/
  | edge
  /-- Both or neither are. -/
  | noEdge
  /-- Only the one behind the place is. -/
  | start
  /-- Only the one before it is. -/
  | stop
  /-- The one before it is not. -/
  | startHalf
  /-- The one behind it is not. -/
  | stopHalf
  deriving DecidableEq

/-- Places that a pattern can ask for. -/
inductive Anchor
  | textStart
  | textEnd
  /-- The beginnings of lines; `returns` tells whether carriage returns end lines, too. -/
  | lineStart (returns : Bool)
  | lineEnd (returns : Bool)
  /-- A place next to words, which may be made of word characters of ASCII only. -/
  | word (place : WordPlace) (ascii : Bool)
  deriving DecidableEq

/-- A pattern. -/
inductive Pattern
  /-- These characters. -/
  | literal (t : Text)
  /-- One character of a set. -/
  | char (s : CharSet)
  | anchor (a : Anchor)
  /-- One pattern at least and at most so many times in a row; a lazy repetition tries fewer times
  first, which does not change where it leads. -/
  | repeated (p : Pattern) (least : Nat) (most : Option Nat) (isLazy : Bool)
  /-- A pattern whose match is remembered under a number. -/
  | capture (n : Nat) (p : Pattern)
  /-- Patterns one behind the other. -/
  | row (ps : List Pattern)
  /-- One of some patterns. -/
  | choice (ps : List Pattern)

/-- What a pattern can ask about word characters, given whether the characters before and behind
the place are some. -/
def WordPlace.holds : WordPlace → Bool → Bool → Bool
  | edge, before, after => before != after
  | noEdge, before, after => before == after
  | start, before, after => ! before && after
  | stop, before, after => before && ! after
  | startHalf, before, _ => ! before
  | stopHalf, _, after => ! after

/-- The word characters of ASCII. -/
def isAsciiWordChar (c : Char) : Bool := c.isAlphanum || c == '_'

/-- Whether an anchor holds between two characters, which are missing at the ends of a text. -/
def Anchor.holds (a : Anchor) (before after : Option Char) : Bool :=
  match a with
  | textStart => before.isNone
  | textEnd => after.isNone
  | lineStart returns =>
    before.all (· == '\n') || (returns && before == some '\r' && after != some '\n')
  | lineEnd false => after.all (· == '\n')
  | lineEnd true => after.all (· == '\r') || (after == some '\n' && before != some '\r')
  | word place ascii =>
    let isWord := if ascii then isAsciiWordChar else isWordChar
    place.holds (before.any isWord) (after.any isWord)

end LineSpecials
