import LineSpecials.Toml.Scalar

namespace LineSpecials.Toml

/-- The stretch between two ends of a document of `size` bytes. -/
def spanBetween (size : Nat) (before after : Text) : Span :=
  ⟨size - before.byteLength, before.byteLength - after.byteLength⟩

mutual

/-- The text behind blanks, line breaks and comments. -/
def skipSpace : Text → Text
  | [] => []
  | c :: r =>
    if isSpace c || c == '\n' || (c == '\r' && atLineBreak (c :: r)) then skipSpace r
    else if c = '#' then skipComment r
    else c :: r

/-- The text behind a comment and the blanks that follow it; a control character ends a comment
without being part of it. -/
def skipComment : Text → Text
  | [] => []
  | c :: r =>
    if isPlain c then skipComment r
    else if atLineBreak (c :: r) then skipSpace r
    else c :: r

end

/-- The text behind the blanks on a line. -/
def skipBlanks (t : Text) : Text := t.dropWhile isSpace

/-- A character of a key without quotes. -/
def isKeyChar (c : Char) : Bool := c.isAlphanum || c == '_' || c == '-'

/-- The text of one part of a key: bare, or a string on one line. -/
def keyText : Text → Option (Text × Text)
  | '"' :: r => basic r
  | '\'' :: r => literal r
  | t =>
    match t.takeWhile isKeyChar with
    | [] => none
    | name => some (name, t.dropWhile isKeyChar)

/-- One part of a key with its place. -/
def keyPart (size : Nat) (t : Text) : Option (Located Text × Text) :=
  (keyText t).map fun (name, rest) => (⟨name, spanBetween size t rest⟩, rest)

/-- The most parts that a key may have. -/
def keyPartLimit : Nat := 80

/-- The most arrays and inline tables that may stand in one another. -/
def nestingLimit : Nat := 80

/-- A key of one to `limit` parts with dots between them: all parts but the last, and the last.
Blanks may stand around the dots; those behind the key are skipped. -/
def keyParts (size : Nat) :
    Nat → Text → Option (List (Located Text) × Located Text × Text)
  | 0, _ => none
  | limit + 1, t => do
    let (part, rest) ← keyPart size t
    match skipBlanks rest with
    | '.' :: r => do
      let (path, last, rest) ← keyParts size limit (skipBlanks r)
      return (part :: path, last, rest)
    | r => return ([], part, r)

/-- A key at the front of a text. -/
def dottedKey (size : Nat) (t : Text) : Option (List (Located Text) × Located Text × Text) :=
  keyParts size keyPartLimit t

mutual

/-- A value at the front of a text, with its place; `depth` more arrays and inline tables may be
opened. -/
def value (size : Nat) : Nat → Nat → Text → Option (Located Value × Text)
  | 0, _, _ => none
  | fuel + 1, depth, t =>
    (bareValue size fuel depth t).map fun (v, rest) => (⟨v, spanBetween size t rest⟩, rest)

/-- A value at the front of a text. -/
def bareValue (size : Nat) : Nat → Nat → Text → Option (Value × Text)
  | 0, _, _ => none
  | fuel + 1, depth, t =>
    match t, depth with
    | '[' :: r, depth + 1 =>
      (arrayItems size fuel depth r).map fun (items, rest) => (.array .literal items, rest)
    | '\x7b' :: r, depth + 1 =>
      (inlineMembers size fuel depth [] r).map fun (ms, rest) => (.table .inline ms, rest)
    | '"' :: _, _ | '\'' :: _, _ => (string? t).map fun (s, rest) => (.string s, rest)
    | _, _ => (scalarValue? (scalarWord t).1).map fun v => (v, (scalarWord t).2)

/-- The items of an array up to its closing bracket; a comma may stand behind the last one. -/
def arrayItems (size : Nat) : Nat → Nat → Text → Option (List (Located Value) × Text)
  | 0, _, _ => none
  | fuel + 1, depth, t =>
    match skipSpace t with
    | ']' :: r => some ([], r)
    | t => do
      let (v, rest) ← value size fuel depth t
      match skipSpace rest with
      | ',' :: r => do
        let (vs, rest) ← arrayItems size fuel depth r
        return (v :: vs, rest)
      | ']' :: r => return ([v], r)
      | _ => none

/-- The members of an inline table up to its closing brace; a comma may stand behind the last one.
Between keys, equals signs, values and commas there may be line breaks and comments. -/
def inlineMembers (size : Nat) : Nat → Nat → Members → Text → Option (Members × Text)
  | 0, _, _, _ => none
  | fuel + 1, depth, ms, t =>
    match skipSpace t with
    | '\x7d' :: r => some (ms, r)
    | t => do
      let (path, key, rest) ← dottedKey size t
      match skipSpace rest with
      | '=' :: r => do
        let (v, rest) ← value size fuel depth (skipSpace r)
        let ms ← addValue path key v .inline ms
        match skipSpace rest with
        | ',' :: r => inlineMembers size fuel depth ms r
        | '\x7d' :: r => return (ms, r)
        | _ => none
      | _ => none

end

/-- What one statement of a document says. -/
inductive Statement
  | assignment (path : List (Located Text)) (key : Located Text) (v : Located Value)
  | tableHeader (path : List (Located Text)) (key : Located Text) (span : Span)
  | elementHeader (path : List (Located Text)) (key : Located Text) (span : Span)

/-- A statement at the front of a text. -/
def statement (size : Nat) (t : Text) : Option (Statement × Text) :=
  match t with
  | '[' :: '[' :: r => do
    let (path, key, rest) ← dottedKey size (skipBlanks r)
    match rest with
    | ']' :: ']' :: r => return (.elementHeader path key (spanBetween size t r), r)
    | _ => none
  | '[' :: r => do
    let (path, key, rest) ← dottedKey size (skipBlanks r)
    match rest with
    | ']' :: r => return (.tableHeader path key (spanBetween size t r), r)
    | _ => none
  | _ => do
    let (path, key, rest) ← dottedKey size t
    match rest with
    | '=' :: r => do
      let (v, rest) ← value size (3 * t.length + 6) nestingLimit (skipBlanks r)
      return (.assignment path key v, rest)
    | _ => none

/-- The text behind a statement, where only a comment may stand before the end of the line. -/
def afterStatement (t : Text) : Option Text :=
  match skipBlanks t with
  | [] => some []
  | c :: r => if c = '#' ∨ atLineBreak (c :: r) then some (skipSpace (c :: r)) else none

/-- The statements of a document in order. -/
def statements (size : Nat) : Nat → Text → Option (List Statement)
  | 0, _ => none
  | fuel + 1, t =>
    match skipSpace t with
    | [] => some []
    | c :: r => do
      let (s, rest) ← statement size (c :: r)
      let rest ← afterStatement rest
      let ss ← statements size fuel rest
      return s :: ss

/-- A document while its statements are taken in: the members of the root, and the path of the
table that assignments go to. -/
structure Building where
  root : Members
  current : List (Located Text)

/-- The document with one more statement, unless it conflicts with those before it. -/
def Building.add (b : Building) : Statement → Option Building
  | .assignment path key v =>
    (within false (addValue path key v) b.current .header b.root).map fun root =>
      { b with root }
  | .tableHeader path key span =>
    (openTable path key span b.root).map fun root => ⟨root, path ++ [key]⟩
  | .elementHeader path key span =>
    (openElement path key span b.root).map fun root => ⟨root, path ++ [key]⟩

/-- The text without a byte order mark at its front. -/
def dropMark : Text → Text
  | '\uFEFF' :: r => r
  | t => t

/-- The members of a document's root; `none` if the text is no TOML document. -/
def parse (t : Text) : Option Members := do
  let ss ← statements t.byteLength (t.length + 1) (dropMark t)
  let b ← ss.foldlM Building.add ⟨[], []⟩
  return b.root

end LineSpecials.Toml
