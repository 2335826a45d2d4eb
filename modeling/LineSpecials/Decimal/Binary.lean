namespace LineSpecials

/-- The number `significand * 2 ^ exponent`, with a significand below `2 ^ 53` and an exponent of
at least -1074. The significand is below `2 ^ 52` only at that least exponent. -/
structure Binary where
  significand : Nat
  exponent : Int
  deriving DecidableEq

namespace Binary

/-- The exponent of the smallest numbers. -/
def minExponent : Int := -1074

/-- The exponent of the largest numbers. -/
def maxExponent : Int := 971

/-- The quotient rounded to the nearest natural number, a half to the even one. -/
def roundedQuotient (num den : Nat) : Nat :=
  let q := num / den
  let r := num % den
  if 2 * r < den then q else if den < 2 * r then q + 1 else if q % 2 = 0 then q else q + 1

/-- `num / (den * 2 ^ e)` as a fraction of natural numbers. -/
def scaled (num den : Nat) (e : Int) : Nat × Nat :=
  if 0 ≤ e then (num, den * Nat.pow 2 e.toNat) else (num * Nat.pow 2 (-e).toNat, den)

/-- The number nearest to `num / den`; `none` if it would be too large. -/
def ofFraction (num den : Nat) : Option Binary :=
  if num = 0 then some ⟨0, minExponent⟩
  else
    let guess : Int := Nat.log2 num - Nat.log2 den - 53
    let low := max minExponent guess
    let fits := (scaled num den low).1 / (scaled num den low).2 < Nat.pow 2 53
    let e := if fits then low else low + 1
    let m := roundedQuotient (scaled num den e).1 (scaled num den e).2
    let result : Binary := if m = Nat.pow 2 53 then ⟨Nat.pow 2 52, e + 1⟩ else ⟨m, e⟩
    if maxExponent < result.exponent then none else some result

/-- The number nearest to `digits * 10 ^ exponent`; `none` if it would be too large. Exponents far
outside the range are settled by their size alone. -/
def ofDecimal (digits : Nat) (exponent : Int) : Option Binary :=
  let size : Int := (Nat.toDigits 10 digits).length + exponent
  if digits = 0 ∨ size < -400 then some ⟨0, minExponent⟩
  else if 400 < size then none
  else if 0 ≤ exponent then ofFraction (digits * Nat.pow 10 exponent.toNat) 1
  else ofFraction digits (Nat.pow 10 (-exponent).toNat)

end Binary

end LineSpecials
