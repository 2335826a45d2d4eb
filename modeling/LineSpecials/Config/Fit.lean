import LineSpecials.Config.Basic
import LineSpecials.Decimal.Shortest
import LineSpecials.Text.Quoted
import LineSpecials.Toml.Document

namespace LineSpecials.Config

open Toml

/-- The integers of fixed sizes that a number is reported as, the smallest size that holds it. -/
def integerText (n : Int) : Option Text :=
  let digits := if n < 0 then '-' :: Text.ofNat n.natAbs else Text.ofNat n.natAbs
  if -(Int.pow 2 63) ≤ n ∧ n < Int.pow 2 64 then some ("integer " ++ Misfit.ticked digits)
  else if -(Int.pow 2 127) ≤ n ∧ n < Int.pow 2 127 then
    some ("integer " ++ Misfit.ticked digits ++ " as i128")
  else if 0 ≤ n ∧ n < Int.pow 2 128 then some ("integer " ++ Misfit.ticked digits ++ " as u128")
  else none

/-- A float in positional notation, unless only infinity is large enough for it. -/
def floatText : FloatLiteral → Option Text
  | .finite negative digits exponent =>
    (Binary.ofDecimal digits exponent).map fun b => if negative then '-' :: b.text else b.text
  | .infinite negative => some (if negative then "-inf" else "inf")
  | .notANumber => some "NaN"

/-- A value in words; `none` for a number that cannot be told. -/
def describe : Value → Option Text
  | .string t => some ("string " ++ t.quoted)
  | .integer n => integerText n
  | .unreadable => none
  | .float f => (floatText f).map fun t => "floating point " ++ Misfit.ticked t
  | .boolean b => some ("boolean " ++ Misfit.ticked (if b then "true" else "false"))
  | .dateTime => some "map"
  | .array _ _ => some "sequence"
  | .table _ _ => some "map"

/-- The misfit of a value where another type is expected. -/
def wrongType (v : Located Value) (expected : Text) : Misfit :=
  match describe v.value with
  | some found => .wrongType found expected v.span
  | none => .noNumber

/-- A path, which is a string. -/
def fitPath (v : Located Value) : Except Misfit Text :=
  match v.value with
  | .string t => .ok t
  | _ => .error (wrongType v "path string")

/-- A flag, which is a boolean. -/
def fitFlag (v : Located Value) : Except Misfit Bool :=
  match v.value with
  | .boolean b => .ok b
  | _ => .error (wrongType v "a boolean")

/-- The one key under which dates and times hold their value when read as tables. -/
def dateTimeKey : Text := "$__toml_private_datetime"

/-- The paths with one member of their table taken in. -/
def takePath (p : SourcePaths) (key : Located Text) (v : Located Value) :
    Except Misfit SourcePaths :=
  if key.value = "actions" then (fitPath v).map fun t => { p with actions := t }
  else if key.value = "bindings" then (fitPath v).map fun t => { p with bindings := t }
  else .error (.unknownField key.value "actions" "bindings" key.span)

/-- The options with one member of their table taken in. -/
def takeOption (o : TableOptions) (key : Located Text) (v : Located Value) :
    Except Misfit TableOptions :=
  if key.value = "deny_empty" then (fitFlag v).map fun b => { o with denyEmpty := b }
  else if key.value = "echo_bindings" then (fitFlag v).map fun b => { o with echoBindings := b }
  else .error (.unknownField key.value "deny_empty" "echo_bindings" key.span)

/-- A group of settings: its members in the order of their keys, or its values in the order of
`keys`. What is left out is standard; values beyond the last key are not looked at. -/
def fitGroup {α : Type} (take : α → Located Text → Located Value → Except Misfit α)
    (keys : List Text) (name : Text) (standard : α) (v : Located Value) : Except Misfit α :=
  match v.value with
  | .table _ ms => ms.foldlM (fun a m => take a m.1 m.2) standard
  | .array _ items =>
    (keys.zip items).foldlM (fun a m => take a ⟨m.1, m.2.span⟩ m.2) standard
  | .dateTime => take standard ⟨dateTimeKey, v.span⟩ v
  | _ => .error (wrongType v name)

/-- The paths of a value. -/
def fitPaths (v : Located Value) : Except Misfit SourcePaths :=
  fitGroup takePath ["actions", "bindings"] "struct PathsConfig" .standard v

/-- The table options of a value. -/
def fitOptions (v : Located Value) : Except Misfit TableOptions :=
  fitGroup takeOption ["deny_empty", "echo_bindings"] "struct TableConfig" .standard v

/-- The settings with one member of the root taken in. -/
def take (c : Config) (key : Located Text) (v : Located Value) : Except Misfit Config :=
  if key.value = "paths" then (fitPaths v).map fun p => { c with paths := p }
  else if key.value = "table" then (fitOptions v).map fun o => { c with table := o }
  else .error (.unknownField key.value "paths" "table" key.span)

/-- The settings of a document. -/
def fit (root : Members) : Except Misfit Config :=
  root.foldlM (fun c m => take c m.1 m.2) standard

/-- The settings that a text holds if `parse` reads documents; `file` is the name to report failures
under. -/
def ofReading (parse : Text → Option Members) (document file : Text) : Except Failure Config :=
  match parse document with
  | none => .error (.malformed file none)
  | some root =>
    match fit root with
    | .error m => .error (.malformed file (some m))
    | .ok c => checked document file c

/-- The settings that a text holds. -/
def ofText (document file : Text) : Except Failure Config := ofReading Toml.parse document file

end LineSpecials.Config
