import LineSpecials.CharSet.Basic
import LineSpecials.Text.Hexadecimal

namespace LineSpecials

/-- The number that hexadecimal digits write. -/
def codePoint (digits : Text) : Nat :=
  digits.foldl (fun n c => 16 * n + (hexDigit? c).getD 0) 0

/-- The ranges that an entry of a table writes: a code point `A` in hexadecimal digits, a range
`A-B`, or every `N`-th code point of a range, `A-B/N`. -/
def entryRanges (entry : Text) : List (Nat × Nat) :=
  match entry.splitOnce '-' with
  | none => [(codePoint entry, codePoint entry)]
  | some (first, last) =>
    let a := codePoint first
    match last.splitOnce '/' with
    | none => [(a, codePoint last)]
    | some (last, step) =>
      (List.range ((codePoint last - a) / codePoint step + 1)).map fun i =>
        (a + i * codePoint step, a + i * codePoint step)

/-- The entries of a table, whose lines are rows of entries in ascending order. -/
def tableEntries (table : List String) : List Text :=
  table.flatMap fun line => Text.splitWhen (· == ' ') line.toList

/-- The set that a table writes. -/
def CharSet.ofTable (table : List String) : CharSet :=
  .ofRanges ((tableEntries table).flatMap entryRanges)

/-- A table and the names of the set that it writes. A table may be empty for names that the
standard has and no character bears. -/
structure NamedTable where
  names : List String
  table : List String

/-- The set that a named table writes. -/
def NamedTable.set (t : NamedTable) : CharSet := .ofTable t.table

end LineSpecials
