import LineSpecials.CharSet.Basic

namespace LineSpecials.CharSet

/-- The ASCII letters. -/
def asciiLetters : CharSet := union (range 'A' 'Z') (range 'a' 'z')

/-- The ASCII digits. -/
def asciiDigits : CharSet := range '0' '9'

/-- The ASCII letters, the ASCII digits and the underscore. -/
def asciiWord : CharSet := unions [asciiDigits, asciiLetters, singleton '_']

/-- The ASCII blanks. -/
def asciiSpace : CharSet := union (range '\t' '\r') (singleton ' ')

/-- The class of a name. -/
def ofAsciiName? (name : Text) : Option CharSet :=
  if name = "alnum" then some (union asciiDigits asciiLetters)
  else if name = "alpha" then some asciiLetters
  else if name = "ascii" then some (range '\x00' '\x7F')
  else if name = "blank" then some (union (singleton '\t') (singleton ' '))
  else if name = "cntrl" then some (union (range '\x00' '\x1F') (singleton '\x7F'))
  else if name = "digit" then some asciiDigits
  else if name = "graph" then some (range '!' '~')
  else if name = "lower" then some (range 'a' 'z')
  else if name = "print" then some (range ' ' '~')
  else if name = "punct" then
    some (unions [range '!' '/', range ':' '@', range '[' '\x60', range '\x7b' '~'])
  else if name = "space" then some asciiSpace
  else if name = "upper" then some (range 'A' 'Z')
  else if name = "word" then some asciiWord
  else if name = "xdigit" then some (unions [asciiDigits, range 'A' 'F', range 'a' 'f'])
  else none

end LineSpecials.CharSet
