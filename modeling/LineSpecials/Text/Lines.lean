import LineSpecials.Text.Basic

namespace LineSpecials.Text

/-- The line without a carriage return at its end. -/
def dropReturn (l : Text) : Text := if l.getLast? = some '\r' then l.dropLast else l

/-- A carriage return goes with the line feed after it, so the last stretch keeps its own; if it
is empty, it is no line. -/
def closeLines : List Text → List Text
  | [] => []
  | [l] => if l.isEmpty then [] else [l]
  | l :: l' :: ls => dropReturn l :: closeLines (l' :: ls)

/-- The lines of a text: a line ends at a line feed, or at a carriage return and a line feed. -/
def lines (t : Text) : List Text := closeLines (t.splitWhen (· == '\n'))

/-- The text cut behind each line feed. -/
def segments : Text → List Text
  | [] => []
  | c :: r =>
    if c = '\n' then ['\n'] :: segments r
    else match segments r with
      | [] => [[c]]
      | s :: ss => (c :: s) :: ss

theorem flatten_segments (t : Text) : t.segments.flatten = t := by
  induction t with
  | nil => rfl
  | cons c r ih =>
    unfold segments
    split
    next h => simp [h, ih]
    next =>
      split
      next hs => rw [hs] at ih; simpa using congrArg (c :: ·) ih
      next s ss hs => rw [hs] at ih; simpa using congrArg (c :: ·) ih

end LineSpecials.Text
