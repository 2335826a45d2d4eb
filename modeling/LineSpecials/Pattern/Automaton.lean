import LineSpecials.Pattern.Reduced
import LineSpecials.Text.Utf8
import Std.Data.HashMap

namespace LineSpecials.Pattern

/-- What an automaton takes so far: its states, which are not kept but only counted, and bytes for
lists that belong to them. -/
structure Memory where
  states : Nat
  extra : Nat

/-- The size in bytes. -/
def Memory.size (m : Memory) : Nat := 32 * m.states + m.extra

/-- The largest size that is allowed, in bytes. -/
def sizeLimit : Nat := 10485760

/-- Steps that make an automaton larger, and fail once it is too large. -/
abbrev Building := StateT Memory Option

/-- Takes room for some states and for bytes that belong to them. -/
def take (states extra : Nat) : Building Unit := fun m =>
  let m := ⟨m.states + states, m.extra + extra⟩
  if m.size ≤ sizeLimit then some ((), m) else none

/-- Takes room for a state with a list of ways on, one for each range of bytes, and gives the
state's number. -/
def takeWays (ways : Nat) : Building Nat := do
  let n := (← get).states
  take 1 (8 * ways)
  return n

/-- Takes room for a way that leaves a state for one of several others. -/
def takeBranch : Building Unit := take 0 4

/-- Mixes numbers into the number of one of `slots` slots. -/
def slot (slots : UInt64) (ns : List Nat) : Nat :=
  (ns.foldl (fun h n => (h ^^^ n.toUInt64) * 1099511628211) 14695981039346656037 % slots).toNat

/-- States that have been made, each in its slot. A new state may take the slot of another, and
slots are found by the numbers of states, so the order in which states are made matters for how many
there are. -/
abbrev Store (α : Type) := Std.HashMap Nat (α × Nat)

/-- A state that has been made from `key` and still has its slot. -/
def Store.find? {α : Type} [BEq α] (s : Store α) (slot : Nat) (key : α) : Option Nat :=
  match s[slot]? with
  | some (k, n) => if k == key then some n else none
  | none => none

/-- A range of bytes and the state that it leads to. -/
structure Way where
  first : Nat
  last : Nat
  target : Nat
  deriving DecidableEq

/-- A state in the making: its ways, the latest first, and the range of bytes that leads to the next
state in the making. -/
structure Open where
  ways : List Way
  latest : Option (Nat × Nat)

/-- A state with its latest range leading to a state. -/
def Open.lead (o : Open) (target : Nat) : List Way :=
  match o.latest with
  | some (a, b) => ⟨a, b, target⟩ :: o.ways
  | none => o.ways

/-- The state with some ways, the latest of them first; a new one unless there is one. -/
def close (ways : List Way) (store : Store (List Way)) : Building (Nat × Store (List Way)) := do
  let slot := slot 10000 (ways.reverse.flatMap fun w => [w.first, w.last, w.target])
  match store.find? slot ways with
  | some n => return (n, store)
  | none =>
    let n ← takeWays ways.length
    return (n, store.insert slot (ways, n))

/-- Closes states in the making, the innermost first, until `keep` are left; the last of these then
leads to the latest state. -/
def closeBehind (keep : Nat) (target : Nat) :
    List Open → Store (List Way) → Building (List Open × Store (List Way))
  | [], store => return ([], store)
  | o :: os, store =>
    if os.length < keep then return (⟨o.lead target, none⟩ :: os, store)
    else do
      let (n, store) ← close (o.lead target) store
      closeBehind keep n os store

/-- The number of ranges that states in the making, the outermost first, have in common with the
byte ranges of some characters. -/
def inCommon : List Open → ByteRanges → Nat
  | o :: os, r :: rs => if o.latest = some r then inCommon os rs + 1 else 0
  | _, _ => 0

/-- The states in the making, the innermost first, with the byte ranges of some characters behind
them. -/
def openUp (os : List Open) : ByteRanges → List Open
  | [] => os
  | r :: rs =>
    let os := match os with
      | o :: os => { o with latest := some r } :: os
      | [] => []
    rs.foldl (fun os r => ⟨[], some r⟩ :: os) os

/-- Takes room for a set of characters whose bytes are read forwards; endings are shared. -/
def takeForwards (s : CharSet) : Building Unit := do
  let target ← takeWays 0
  let add := fun (os, store) ranges => do
    let common := inCommon os.reverse ranges
    let (os, store) ← closeBehind (common + 1) target os store
    return (openUp os (ranges.drop common), store)
  let (os, store) ← s.byteRanges.foldlM add ([⟨[], none⟩], (∅ : Store (List Way)))
  let (os, store) ← closeBehind 1 target os store
  let _ ← close ((os.head?.map (·.ways)).getD []) store

/-- Takes room for a set of characters whose bytes are read backwards; the lead bytes, which come
last, are shared. -/
def takeBackwards (s : CharSet) : Building Unit := do
  let _ ← takeWays 0
  let last ← takeWays 0
  let step := fun (target, store) (first, last) => do
    let key := (target, first, last)
    let slot := slot 1000 [target, first, last]
    match Store.find? store slot key with
    | some n => return (n, store)
    | none =>
      let n ← takeWays 0
      return (n, store.insert slot (key, n))
  let _ ← s.byteRanges.foldlM (fun store ranges => do
      let (_, store) ← ranges.foldlM step (last, store)
      takeBranch
      return store)
    (∅ : Store (Nat × Nat × Nat))

/-- Takes room for a set of characters. -/
def takeSet (backwards : Bool) (s : CharSet) : Building Unit :=
  if s.changes.all (· ≤ 0x80) then do
    take 1 0
    take 1 (8 * s.ranges.length)
  else if backwards then takeBackwards s
  else takeForwards s

/-- What is built: whether the last state, which is to be led on from, branches already. -/
abbrev Part := Building Bool

/-- Leads on from a last state. -/
def leadOn (branches : Bool) : Building Unit := if branches then takeBranch else pure ()

/-- Parts one behind the other. -/
def chain : List Part → Part
  | [] => do take 1 0; return false
  | [p] => p
  | p :: ps => do
    leadOn (← p)
    chain ps

/-- The same part again and again. -/
def copies (p : Part) : Nat → Part
  | 0 => do take 1 0; return false
  | 1 => p
  | n + 2 => do
    leadOn (← p)
    copies p (n + 1)

/-- A state with two ways on, to a part and past it. -/
def optional (p : Part) : Part := do
  take 1 0
  let branches ← p
  take 1 8
  leadOn branches
  return false

/-- A part that may be passed once more each time, as often as `n` times; `branches` belongs to what
comes before. -/
def optionals (p : Part) : Nat → Bool → Part
  | 0, branches => do
    leadOn branches
    return false
  | n + 1, branches => do
    take 1 0
    let next ← p
    leadOn branches
    take 0 8
    optionals p n next

/-- A part once or more often. -/
def onceOrMore (p : Part) : Part := do
  let branches ← p
  take 1 4
  leadOn branches
  return true

/-- A part in a row. A part that may match the empty text needs more states. -/
def repetition (p : Part) (mayBeEmpty : Bool) (least : Nat) (most : Option Nat) : Part :=
  match least, most with
  | 0, some 1 => optional p
  | 0, none =>
    if mayBeEmpty then do
      let branches ← p
      take 1 0
      leadOn branches
      take 2 16
      return false
    else do
      take 1 4
      leadOn (← p)
      return true
  | 1, none => onceOrMore p
  | n + 1, none => do
    leadOn (← copies p n)
    onceOrMore p
  | least, some most =>
    if least = most then copies p least
    else do
      let branches ← copies p least
      take 1 0
      optionals p (most - least) branches

/-- One of some parts. -/
def alternatives : List Part → Part
  | [] => do take 1 0; return false
  | [p] => p
  | p :: q :: ps => do
    let first ← p
    let second ← q
    take 2 8
    leadOn first
    leadOn second
    for r in ps do
      let branches ← r
      takeBranch
      leadOn branches
    return false

/-- The words between empty ones. An empty word at the end of others closes these; behind another
empty word it matters only if words came before. -/
def chunks : List (List Nat) → List (List (List Nat)) × List (List Nat)
  | ws => ws.foldl (fun (closed, current) w =>
      if w.isEmpty then
        if current.isEmpty && ! closed.isEmpty && closed.all (·.isEmpty) then (closed, current)
        else (closed ++ [current], [])
      else (closed, current ++ [w]))
    ([], [])

/-- Takes room for a tree of words, which share their beginnings. -/
def takeTree : Nat → List (List Nat) → Building Unit
  | 0, _ => pure ()
  | depth + 1, ws => do
    let (closed, current) := chunks ws
    let mut ways := closed.length
    for chunk in closed ++ [current] do
      let leads := ((chunk.filterMap (·.head?)).mergeSort (· ≤ ·)).eraseDups
      for lead in leads do
        let rest := (chunk.filter (·.head? == some lead)).map List.tail
        if rest.any (! ·.isEmpty) then takeTree depth rest
      if leads.length = 1 then take 1 0
      else if 1 < leads.length then take 1 (8 * leads.length)
      if ! leads.isEmpty then ways := ways + 1
    take 1 (4 * ways)

/-- The bytes of a literal. -/
def literalBytes? : Pattern → Option (List Nat)
  | literal t => some (t.flatMap fun c => utf8Bytes c.toNat)
  | _ => none

/-- One of some literals. -/
def words (backwards : Bool) (ws : List (List Nat)) : Part := do
  take 1 0
  takeTree ((ws.map List.length).foldl max 0 + 1) (if backwards then ws.map List.reverse else ws)
  return false

mutual

/-- The part of an automaton that a pattern needs. -/
def part (backwards : Bool) : Pattern → Part
  | literal t => do take t.byteLength 0; return false
  | char s => do takeSet backwards s; return false
  | anchor _ => do take 1 0; return false
  | repeated p least most _ =>
    repetition (part backwards p) ((extent p).least.all (· == 0)) least most
  | capture _ p =>
    if backwards then part backwards p
    else do
      take 1 0
      let branches ← part backwards p
      take 1 0
      leadOn branches
      return false
  | row ps => chain (if backwards then (parts backwards ps).reverse else parts backwards ps)
  | choice ps =>
    match ps.mapM literalBytes? with
    | some ws => words backwards ws
    | none => alternatives (parts backwards ps)

/-- The parts of an automaton that some patterns need. -/
def parts (backwards : Bool) : List Pattern → List Part
  | [] => []
  | p :: ps => part backwards p :: parts backwards ps

end

mutual

/-- Whether a pattern asks for an end of the text before it reads anything: the beginning, or the
end if it is read backwards. -/
def isBound (backwards : Bool) : Pattern → Bool
  | anchor a => a == if backwards then .textEnd else .textStart
  | repeated p least _ _ => least != 0 && isBound backwards p
  | capture _ p => isBound backwards p
  | row ps =>
    let bounds := boundsOf backwards ps
    let bounds := if backwards then bounds.reverse else bounds
    (bounds.takeWhile (! ·.2)).any (·.1) || ((bounds.find? (·.2)).map (·.1)).getD false
  | choice ps => ! ps.isEmpty && (boundsOf backwards ps).all (·.1)
  | _ => false

/-- Whether patterns ask for an end of the text, each with whether it may read something. -/
def boundsOf (backwards : Bool) : List Pattern → List (Bool × Bool)
  | [] => []
  | p :: ps => (isBound backwards p, ! p.isEmptyOnly) :: boundsOf backwards ps

end

/-- The automaton of a pattern. Unless the pattern asks for the end of the text that is read first,
whatever comes before is passed. Forwards, the ends of the match are remembered. -/
def automaton (backwards : Bool) (p : Pattern) : Building Unit := do
  let bound := isBound backwards p
  if bound then take 1 0 else take 3 12
  let branches ← part backwards (if backwards then p else capture 0 p)
  take 1 0
  leadOn branches
  if ! bound then takeBranch

/-- Whether neither automaton of a pattern is too large. -/
def fits (p : Pattern) : Bool :=
  ((automaton false p).run ⟨0, 0⟩).isSome && ((automaton true p).run ⟨0, 0⟩).isSome

end LineSpecials.Pattern
