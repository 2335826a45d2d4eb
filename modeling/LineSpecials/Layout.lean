import LineSpecials.Text.Basic

namespace LineSpecials

/-- The text written so far, and the number of tabs before the next line. -/
structure Layout where
  depth : Nat
  text : Text
  deriving DecidableEq

namespace Layout

/-- Nothing written, no indentation. -/
def empty : Layout := ⟨0, []⟩

/-- One more line. -/
def line (l : Layout) (t : Text) : Layout :=
  { l with text := l.text ++ List.replicate l.depth '\t' ++ t ++ ['\n'] }

/-- One level deeper from here on. -/
def indent (l : Layout) : Layout := { l with depth := l.depth + 1 }

/-- A step for each of a list of items in turn. -/
def each (l : Layout) (items : List Text) (step : Layout → Text → Layout) : Layout :=
  items.foldl step l

theorem each_line_text (l : Layout) (items : List Text) :
    (l.each items line).text =
      l.text ++ items.flatMap fun t => List.replicate l.depth '\t' ++ t ++ ['\n'] := by
  unfold each
  induction items generalizing l with
  | nil => simp
  | cons t ts ih => simp [ih, line]

end Layout

end LineSpecials
