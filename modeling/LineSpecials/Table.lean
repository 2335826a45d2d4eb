import LineSpecials.Entry
import LineSpecials.Layout

namespace LineSpecials

/-- The two forms of a table. -/
inductive TableStyle
  | sorted
  | streamed
  deriving DecidableEq

namespace TableStyle

/-- The first line of a table. -/
def header : TableStyle → Text
  | sorted => "specials"
  | streamed => "special"

/-- The word for a style in reports. -/
def name : TableStyle → Text
  | sorted => "sorted"
  | streamed => "streamed"

/-- Whether tables of this style are put in order. -/
def isSorted : TableStyle → Bool
  | sorted => true
  | streamed => false

end TableStyle

/-- Entries in the style they are written in. -/
structure Table where
  style : TableStyle
  entries : List Entry
  deriving DecidableEq

namespace Table

/-- The lines of a sorted table's entries: each but the last ends with a comma. -/
def terminatedLines : List Entry → List Text
  | [] => []
  | [e] => [e.padded ++ [';']]
  | e :: e' :: es => (e.padded ++ [',']) :: terminatedLines (e' :: es)

/-- The lines below the header, without their indentation. -/
def entryLines (t : Table) : List Text :=
  match t.style with
  | .sorted => terminatedLines t.entries
  | .streamed => t.entries.map Entry.display

/-- The table as text: the header, then the entries one level deeper. -/
def render (t : Table) : Text :=
  ((Layout.empty.line t.style.header).indent.each t.entryLines Layout.line).text

end Table

end LineSpecials
