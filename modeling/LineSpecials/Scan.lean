import LineSpecials.BindingMap
import LineSpecials.Block
import LineSpecials.Reference
import LineSpecials.Text.Lines

namespace LineSpecials

/-- A text and the path it is reported under. -/
structure Source where
  path : Text
  content : Text
  deriving DecidableEq

/-- The lines of a source. -/
def Source.lines (s : Source) : List Text := s.content.lines

/-- A reference whose name has no binding. -/
structure Unresolved where
  name : Text
  line : Nat
  deriving DecidableEq

/-- What a reading of an action source found. -/
structure ScanResult where
  entries : List Entry
  unresolved : List Unresolved
  deriving DecidableEq

namespace ScanResult

/-- The references of lines numbered from `number` on, with their line numbers. -/
def references (number : Nat) : List Text → List (Nat × Reference)
  | [] => []
  | line :: lines =>
    ((Reference.ofLine line).map fun r => (number, r)).toList ++ references (number + 1) lines

/-- The entry of a reference whose name is bound. -/
def entry? (m : BindingMap) (r : Reference) : Option Entry :=
  (m.code? r.name).map fun c => ⟨c, r.name, r.arity⟩

/-- The result of reading comment blocks. -/
def ofBlocks (lines : List Text) : ScanResult := ⟨Block.entries lines, []⟩

/-- The result of reading references: those with a binding become entries. -/
def ofReferences (m : BindingMap) (lines : List Text) : ScanResult where
  entries := (references 1 lines).filterMap fun (_, r) => entry? m r
  unresolved := (references 1 lines).filterMap fun (n, r) =>
    if (m.code? r.name).isSome then none else some ⟨r.name, n⟩

/-- The result of reading a source, by references if there is a binding map. -/
def ofSource (bindings : Option BindingMap) (s : Source) : ScanResult :=
  match bindings with
  | some m => ofReferences m s.lines
  | none => ofBlocks s.lines

/-- The record of a reading as a whole. -/
def summary (r : ScanResult) (path : Text) : Log.Record :=
  ⟨.info, .scanner, path ++ ": " ++ Text.ofNat r.entries.length ++ " specials, " ++
    Text.ofNat r.unresolved.length ++ " unresolved"⟩

/-- The records of reading a source. -/
def notes (bindings : Option BindingMap) (s : Source) : List Log.Record :=
  let result := ofSource bindings s
  let details := match bindings with
    | some _ => result.unresolved.map fun u =>
      ⟨.debug, .scanner, "line " ++ Text.ofNat u.line ++ ": '" ++ u.name ++ "' has no binding"⟩
    | none => Block.notes s.lines
  details ++ [result.summary s.path]

end ScanResult

end LineSpecials
