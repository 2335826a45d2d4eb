import LineSpecials.Command.Session

namespace LineSpecials.Main

/-- Why the system did not read a file. -/
def cause : IO.Error → ReadFailure
  | .noFileOrDirectory _ _ _ => .notFound
  | .inappropriateType _ code _ => if code = 20 then .notDirectory else .isDirectory
  | .invalidArgument _ code _ => if code = 36 then .nameTooLong else .other
  | _ => .other

/-- The text of a file of the system. -/
def readText (path : Text) : IO (Except ReadFailure Text) := do
  try
    let bytes ← IO.FS.readBinFile (String.ofList path)
    match String.fromUTF8? bytes with
    | some content => return .ok content.toList
    | none => return .error .notText
  catch e => return .error (cause e)

/-- Whether the system has something at a path. -/
def isPresent (path : Text) : IO Bool := do
  match ← readText path with
  | .error .notFound | .error .notDirectory | .error .nameTooLong => return false
  | _ => return true

/-- The files of the system. -/
def files : FileAccess IO := ⟨readText, isPresent⟩

/-- A piece printed. -/
def printChunk : Chunk → IO Unit
  | .out t => IO.print (String.ofList t)
  | .err t => IO.eprint (String.ofList t)

/-- A failure as it is reported to users. -/
def describeFailure (f : Failure) : Text :=
  let code := match f.code with
    | some c => c ++ ['\n']
    | none => []
  let help := match f.help with
    | some h => "  help: " ++ h ++ "\n"
    | none => []
  code ++ "Error: " ++ f.message ++ "\n" ++ help

end LineSpecials.Main

/-- Carries out the command line and exits with its status. -/
def main (args : List String) : IO UInt32 := do
  let spec ← IO.getEnv "RUST_LOG"
  let outcome ← LineSpecials.Command.run LineSpecials.Main.files (spec.map String.toList)
    (args.map String.toList)
  outcome.printed.forM LineSpecials.Main.printChunk
  match outcome.failure with
  | some f => IO.eprint (String.ofList (LineSpecials.Main.describeFailure f))
  | none => if outcome.exit = 2 then IO.eprintln "error: the arguments make no sense"
  return outcome.exit.toUInt32
