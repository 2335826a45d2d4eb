import LineSpecials.Decimal.Binary
import LineSpecials.Text.Basic

namespace LineSpecials.Binary

/-- A quarter of the number's unit in the last place, as a fraction: all that follows is counted in
these. -/
def quarter (b : Binary) : Nat × Nat :=
  if 2 ≤ b.exponent then (Nat.pow 2 (b.exponent - 2).toNat, 1)
  else (1, Nat.pow 2 (2 - b.exponent).toNat)

/-- The least count of quarters that rounds to the number: half a unit below it, but only a
quarter where the numbers below lie closer. -/
def lowerEnd (b : Binary) : Nat :=
  4 * b.significand - if b.significand = Nat.pow 2 52 ∧ minExponent < b.exponent then 1 else 2

/-- The greatest count of quarters that rounds to the number. -/
def upperEnd (b : Binary) : Nat := 4 * b.significand + 2

/-- `d * 10 ^ k` as a count of quarters, over the denominator it is given with. -/
def inQuarters (b : Binary) (d : Nat) (k : Int) : Nat × Nat :=
  let (num, den) := b.quarter
  if 0 ≤ k then (d * Nat.pow 10 k.toNat * den, num)
  else (d * den, num * Nat.pow 10 (-k).toNat)

/-- Whether `d * 10 ^ k` rounds to the number. The ends of the interval do so if the significand is
even. -/
def readsBack (b : Binary) (d : Nat) (k : Int) : Bool :=
  let (num, den) := b.inQuarters d k
  if b.significand % 2 = 0 then b.lowerEnd * den ≤ num && num ≤ b.upperEnd * den
  else b.lowerEnd * den < num && num < b.upperEnd * den

/-- The multiple of `10 ^ k` nearest to the number among those that read back. Of two that are
equally near the greater is taken. -/
def onGrid (b : Binary) (k : Int) : Option (Nat × Int) :=
  let (num, den) := b.inQuarters 1 k
  let whole := 4 * b.significand * den
  let d := whole / num
  let upper := num ≤ 2 * (whole % num)
  match b.readsBack d k, b.readsBack (d + 1) k with
  | true, true => some (if upper then d + 1 else d, k)
  | true, false => some (d, k)
  | false, true => some (d + 1, k)
  | false, false => none

/-- The first of the grids `10 ^ k`, `10 ^ (k - 1)`, … with a decimal that reads back. -/
def firstGrid (b : Binary) : Nat → Int → Nat × Int
  | 0, k => ((b.onGrid k).getD (0, 0))
  | n + 1, k => (b.onGrid k).getD (b.firstGrid n (k - 1))

/-- Digits and a power of ten: the shortest decimal that reads back as the number. The search
begins above every decimal of the number's size. -/
def shortest (b : Binary) : Nat × Int :=
  if b.significand = 0 then (0, 0)
  else
    let size : Int := (Nat.log2 b.significand + b.exponent) * 3 / 10 + 3
    b.firstGrid 40 size

/-- The digits with the decimal point in its place; there is at least one digit on either side. -/
def positional (d : Nat) (k : Int) : Text :=
  let digits := Text.ofNat d
  if 0 ≤ k then digits ++ List.replicate k.toNat '0' ++ ['.', '0']
  else
    let places := (-k).toNat
    let padded := List.replicate (places + 1 - digits.length) '0' ++ digits
    padded.take (padded.length - places) ++ '.' :: padded.drop (padded.length - places)

/-- The number in positional notation with the fewest digits that read back. -/
def text (b : Binary) : Text :=
  let (d, k) := b.shortest
  positional d k

end LineSpecials.Binary
