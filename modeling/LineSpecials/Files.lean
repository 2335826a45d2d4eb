import LineSpecials.Failure

namespace LineSpecials

/-- The two questions that commands ask about a path. -/
structure FileAccess (m : Type → Type) where
  /-- The text behind a path. -/
  read : Text → m (Except ReadFailure Text)
  /-- Whether anything is there. -/
  isPresent : Text → m Bool

namespace Path

/-- Whether a path begins at the root of all files. -/
def isAbsolute (path : Text) : Bool := path.head? == some '/'

/-- The most bytes that a path may have. -/
def longest : Nat := 4095

/-- The most bytes that one name on a path may have. -/
def longestName : Nat := 255

/-- A path seen from a directory; absolute paths stay as they are. -/
def join (directory path : Text) : Text :=
  if isAbsolute path ∨ directory.isEmpty then path
  else if directory.getLast? = some '/' then directory ++ path
  else directory ++ '/' :: path

end Path

/-- What a path of a tree leads to. -/
inductive FileNode
  | text (content : Text)
  /-- A file whose bytes are no text. -/
  | binary
  /-- A file that is there but cannot be read. -/
  | unreadable
  | directory
  deriving DecidableEq

/-- Files and directories by the names on the way to them from the root of all files, and the
directory where paths begin that are not absolute. Directories on the way to others need no entry of
their own. -/
structure FileTree where
  entries : List (List Text × FileNode)
  directory : List Text
  deriving DecidableEq

namespace FileTree

/-- What stands at the end of a way. -/
def node? (t : FileTree) (way : List Text) : Option FileNode :=
  match t.entries.lookup way with
  | some n => some n
  | none =>
    if way.isPrefixOf t.directory ∨ t.entries.any (fun e => way.isPrefixOf e.1) then some .directory
    else none

/-- What names lead to from the end of a way. There is nothing above the root but the root. -/
def walk (t : FileTree) (way names : List Text) : Except ReadFailure FileNode :=
  match t.node? way, names with
  | none, _ => .error .notFound
  | some n, [] => .ok n
  | some .directory, name :: names =>
    if name = [] ∨ name = "." then t.walk way names
    else if name = ".." then t.walk way.dropLast names
    else if Path.longestName < Text.byteLength name then .error .nameTooLong
    else t.walk (way ++ [name]) names
  | some _, _ :: _ => .error .notDirectory

/-- What a path leads to. The empty path leads nowhere, nor does one that is too long. -/
def lookup (t : FileTree) (path : Text) : Except ReadFailure FileNode :=
  if '\x00' ∈ path then .error .noPath
  else if path.isEmpty then .error .notFound
  else if Path.longest < Text.byteLength path then .error .nameTooLong
  else t.walk (if Path.isAbsolute path then [] else t.directory) (path.splitWhen (· == '/'))

/-- The text behind a path. -/
def read (t : FileTree) (path : Text) : Except ReadFailure Text :=
  match t.lookup path with
  | .ok (.text content) => .ok content
  | .ok .binary => .error .notText
  | .ok .unreadable => .error .other
  | .ok .directory => .error .isDirectory
  | .error e => .error e

/-- Whether a path leads to something. -/
def isPresent (t : FileTree) (path : Text) : Bool := (t.lookup path).isOk

/-- The answers that a tree gives. -/
def access (t : FileTree) : FileAccess Id := ⟨t.read, t.isPresent⟩

end FileTree

end LineSpecials
