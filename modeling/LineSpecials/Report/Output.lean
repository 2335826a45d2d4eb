import LineSpecials.Text.Basic

namespace LineSpecials

/-- A call that a report makes on its output. -/
inductive Output
  | keyValue (key value : Text)
  | listItem (text : Text)
  | warning (text : Text)
  | preformatted (text : Text)
  | raw (text : Text)
  | newline
  deriving DecidableEq

/-- A piece of text on standard output or standard error. -/
inductive Chunk
  | out (text : Text)
  | err (text : Text)
  deriving DecidableEq

/-- What a call prints on a terminal: warnings go to standard error, the rest to standard
output. -/
def Output.chunk : Output → Chunk
  | keyValue k v => .out (k ++ ": " ++ v ++ "\n")
  | listItem t => .out ("  - " ++ t ++ "\n")
  | warning t => .err (t ++ ['\n'])
  | preformatted t => .out (t ++ ['\n'])
  | raw t => .out t
  | newline => .out ['\n']

namespace Chunk

/-- The standard output of pieces printed in turn. -/
def stdout (cs : List Chunk) : Text :=
  cs.flatMap fun
    | out t => t
    | err _ => []

/-- The standard error of pieces printed in turn. -/
def stderr (cs : List Chunk) : Text :=
  cs.flatMap fun
    | out _ => []
    | err t => t

end Chunk

end LineSpecials
