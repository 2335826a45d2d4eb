import LineSpecials.Text.Basic

namespace LineSpecials

/-- A stretch of a text, in UTF-8 bytes. -/
structure Span where
  start : Nat
  length : Nat
  deriving DecidableEq

/-- Something read, and where it stood. -/
structure Located (α : Type) where
  value : α
  span : Span
  deriving DecidableEq

namespace Toml

/-- A number with a fraction or an exponent, or one of the words for the numbers beyond. -/
inductive FloatLiteral
  | finite (negative : Bool) (digits : Nat) (exponent : Int)
  | infinite (negative : Bool)
  | notANumber
  deriving DecidableEq

/-- What a table was written as. -/
inductive TableKind
  /-- The document itself, or a table with a header of its own. -/
  | header
  /-- A table that only the header of a table inside it names. -/
  | implied
  /-- A table that a dotted key names. -/
  | dotted
  /-- A table in braces. -/
  | inline
  deriving DecidableEq

/-- What an array was written as. -/
inductive ArrayKind
  /-- A list in brackets. -/
  | literal
  /-- Tables with headers in double brackets. -/
  | tables
  deriving DecidableEq

/-- A value of a document. -/
inductive Value
  | string (t : Text)
  | integer (n : Int)
  /-- A word in the place of an integer that writes no number. -/
  | unreadable
  | float (f : FloatLiteral)
  | boolean (b : Bool)
  | dateTime
  | array (kind : ArrayKind) (items : List (Located Value))
  | table (kind : TableKind) (members : List (Located Text × Located Value))

/-- The members of a table in ascending order of their keys. -/
abbrev Members := List (Located Text × Located Value)

namespace Members

/-- The value of a key. -/
def find? (key : Text) (ms : Members) : Option (Located Value) :=
  (List.find? (fun m => m.1.value == key) ms).map (·.2)

/-- The members with one more; it replaces the one of the same key. -/
def put (key : Located Text) (v : Located Value) : Members → Members
  | [] => [(key, v)]
  | m :: ms =>
    if key.value < m.1.value then (key, v) :: m :: ms
    else if m.1.value = key.value then (key, v) :: ms
    else m :: put key v ms

/-- The members with another value for a key they have. -/
def set (key : Text) (v : Located Value) (ms : Members) : Members :=
  List.map (fun m => if m.1.value = key then (m.1, v) else m) ms

end Members

/-- Whether a dotted key may go through a table of the kind: only if nothing has defined it as a
whole. -/
def TableKind.isOpen : TableKind → Bool
  | implied | dotted => true
  | header | inline => false

/-- The members of a table after a change to the table at the end of a path. Tables missing on the
way are made, as dotted ones if the path belongs to a dotted key. A path through an array of tables
goes on in its last one. There is none through other values, nor through inline tables, nor for a
dotted key through a table that is already defined. -/
def within (dotted : Bool) (change : TableKind → Members → Option Members) :
    List (Located Text) → TableKind → Members → Option Members
  | [], kind, ms => change kind ms
  | k :: ks, _, ms =>
    match Members.find? k.value ms with
    | none =>
      let fresh := if dotted then TableKind.dotted else TableKind.implied
      (within dotted change ks fresh []).map fun inner =>
        Members.put k ⟨.table fresh inner, k.span⟩ ms
    | some ⟨.table kind members, span⟩ =>
      if kind = .inline ∨ (dotted ∧ kind.isOpen = false) then none
      else (within dotted change ks kind members).map fun inner =>
        Members.set k.value ⟨.table kind inner, span⟩ ms
    | some ⟨.array .tables items, span⟩ =>
      match items.getLast? with
      | some ⟨.table kind members, last⟩ =>
        (within dotted change ks kind members).map fun inner =>
          Members.set k.value
            ⟨.array .tables (items.dropLast ++ [⟨.table kind inner, last⟩]), span⟩ ms
      | _ => none
    | some _ => none

/-- A value under a dotted key, whose last part is `key`. The key has to be new, and a table that
takes it by a path has to be a dotted one. -/
def addValue (path : List (Located Text)) (key : Located Text) (v : Located Value)
    (kind : TableKind) (ms : Members) : Option Members :=
  within true (fun kind ms =>
    if (kind == .dotted) == path.isEmpty then none
    else match Members.find? key.value ms with
      | some _ => none
      | none => some (Members.put key v ms)) path kind ms

/-- A table opened by a header. It has to be new, or named so far only by headers of tables inside
it. -/
def openTable (path : List (Located Text)) (key : Located Text) (span : Span) (ms : Members) :
    Option Members :=
  within false (fun _ ms =>
    match Members.find? key.value ms with
    | none => some (Members.put key ⟨.table .header [], span⟩ ms)
    | some ⟨.table .implied inner, _⟩ => some (Members.put key ⟨.table .header inner, span⟩ ms)
    | some _ => none) path .header ms

/-- One more table of an array of tables, opened by a header in double brackets. -/
def openElement (path : List (Located Text)) (key : Located Text) (span : Span) (ms : Members) :
    Option Members :=
  within false (fun _ ms =>
    match Members.find? key.value ms with
    | none => some (Members.put key ⟨.array .tables [⟨.table .header [], span⟩], span⟩ ms)
    | some ⟨.array .tables items, first⟩ =>
      some (Members.set key.value ⟨.array .tables (items ++ [⟨.table .header [], span⟩]), first⟩ ms)
    | some _ => none) path .header ms

end Toml

end LineSpecials
