namespace LineSpecials

/-- Whether a code point lies in one of the ranges, which stand in ascending order; both ends of
a range belong to it. -/
def inRanges : List (Nat × Nat) → Nat → Bool
  | [], _ => false
  | (a, b) :: rs, n => if n < a then false else if n ≤ b then true else inRanges rs n

end LineSpecials
