import LineSpecials.CharSet.Basic

namespace LineSpecials

/-- Ranges that the bytes of a character lie in, the first byte first. -/
abbrev ByteRanges := List (Nat × Nat)

/-- The bytes of a code point: the lead byte tells how many there are, and the others carry six bits
each. -/
def utf8Bytes (n : Nat) : List Nat :=
  if n < 0x80 then [n]
  else if n < 0x800 then [0xC0 + n / 64, 0x80 + n % 64]
  else if n < 0x10000 then [0xE0 + n / 4096, 0x80 + n / 64 % 64, 0x80 + n % 64]
  else [0xF0 + n / 262144, 0x80 + n / 4096 % 64, 0x80 + n / 64 % 64, 0x80 + n % 64]

/-- Where a range of code points with the same number of bytes has to be cut for its last `6 * i`
bits: the place that the second part begins at. -/
def carryCut? (first last i : Nat) : Option Nat :=
  let unit := Nat.pow 64 i
  if first / unit = last / unit then none
  else if first % unit ≠ 0 then some ((first / unit + 1) * unit)
  else if last % unit ≠ unit - 1 then some (last / unit * unit)
  else none

/-- Where a range of code points has to be cut first. -/
def rangeCut? (first last : Nat) : Option Nat :=
  match [0x80, 0x800, 0x10000].find? fun n => first < n && n ≤ last with
  | some n => some n
  | none =>
    if last < 0x80 then none
    else (carryCut? first last 1).or ((carryCut? first last 2).or (carryCut? first last 3))

/-- The byte ranges of the characters from one up to another, after so many cuts at most in a row; a
dozen are more than there can be. -/
def byteRanges : Nat → Nat → Nat → List ByteRanges
  | 0, _, _ => []
  | depth + 1, first, last =>
    match rangeCut? first last with
    | some n => byteRanges depth first (n - 1) ++ byteRanges depth n last
    | none => [(utf8Bytes first).zip (utf8Bytes last)]

/-- The byte ranges of the characters of a set, in ascending order. -/
def CharSet.byteRanges (s : CharSet) : List ByteRanges :=
  s.ranges.flatMap fun (first, last) => LineSpecials.byteRanges 16 first last

end LineSpecials
