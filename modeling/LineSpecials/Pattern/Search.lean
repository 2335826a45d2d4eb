import LineSpecials.Pattern.Basic

namespace LineSpecials.Pattern

/-- A set of places of a text, a mark for each; places beyond the last mark are not in the set. The
places are the first one, those between two characters and the last one. -/
abbrev Marks := List Bool

namespace Marks

/-- Whether there is a place in a set. -/
def inhabited (m : Marks) : Bool := m.any id

/-- The places in either of two sets. -/
def either : Marks → Marks → Marks
  | [], n => n
  | m, [] => m
  | b :: m, c :: n => (b || c) :: either m n

/-- The places in one set that another lacks. -/
def without : Marks → Marks → Marks
  | [], _ => []
  | m, [] => m
  | b :: m, c :: n => (b && ! c) :: without m n

end Marks

/-- The places where an anchor holds. -/
def places (a : Anchor) (t : Text) : Marks :=
  List.zipWith a.holds (none :: t.map some) (t.map some ++ [none])

/-- The places behind a marked place and a character that satisfies `p`. -/
def advance (t : Text) (p : Char → Bool) (m : Marks) : Marks :=
  false :: List.zipWith (fun b c => b && p c) m t

/-- What is remembered of walks through a pattern: the places from which a repetition has gone on,
and what is remembered of parts. A repetition goes on from each place only once, which keeps
repetitions in repetitions from taking ever more time. -/
inductive Trace
  | mk (passed : Marks) (parts : List Trace)

/-- The memory before any walk. -/
def Trace.start : Trace := ⟨[], []⟩

/-- A step from marked places to others, with what is remembered of it. Places that it has led to
before may be left out. -/
abbrev Step := Trace → Marks → Marks × Trace

/-- A step as the first of several parts, which `rest` takes on from there. -/
def Step.followed (step : Step) (rest : List Trace → Marks → Marks × List Trace)
    (traces : List Trace) (m : Marks) : Marks × List Trace :=
  if m.inhabited then
    let (m, trace) := step (traces.headD .start) m
    let (m, others) := rest traces.tail m
    (m, trace :: others)
  else ([], traces)

/-- So many steps, which `rest` takes on from there. -/
def steps (step : Step) (rest : List Trace → Marks → Marks × List Trace) :
    Nat → List Trace → Marks → Marks × List Trace
  | 0 => rest
  | n + 1 => step.followed (steps step rest n)

/-- At most so many steps. `reached` are the places that fewer steps lead to. -/
def atMost (step : Step) (reached : Marks) : Nat → List Trace → Marks → Marks × List Trace
  | 0, traces, _ => (reached, traces)
  | n + 1, traces, m =>
    if m.inhabited then
      let (next, trace) := step (traces.headD .start) m
      let (m, others) := atMost step (reached.either next) n traces.tail (next.without reached)
      (m, trace :: others)
    else (reached, traces)

/-- One step or more. The first number is that of the steps that may find new places. -/
def onceOrMoreOf (step : Step) : Nat → Trace → Marks → Marks × Trace
  | 0, trace, _ => ([], trace)
  | n + 1, ⟨passed, traces⟩, m =>
    let fresh := m.without passed
    if fresh.inhabited then
      let (next, trace) := step (traces.headD .start) fresh
      let (further, trace) := onceOrMoreOf step n ⟨passed.either fresh, [trace]⟩ next
      (next.either further, trace)
    else ([], ⟨passed, traces⟩)

/-- A step in a row. A walk of more steps than there are places comes back to one of them, and may
do so more or fewer times; this is why larger numbers need not be told apart. -/
def repeatedly (t : Text) (step : Step) (least : Nat) (most : Option Nat) :
    List Trace → Marks → Marks × List Trace :=
  let bound := t.length + 1
  match most with
  | some most =>
    steps step (fun traces m => atMost step m (min (most - least) bound) traces m) (min least bound)
  | none =>
    steps step (fun traces m =>
        let (further, trace) := onceOrMoreOf step (bound + 1) (traces.headD .start) m
        (if least = 0 then m.either further else further, trace :: traces.tail))
      (min (least - 1) bound)

mutual

/-- The places of a text that a pattern leads to from marked ones. -/
def walk (t : Text) : Pattern → Step
  | literal w => fun trace m => (w.foldl (fun m c => advance t (· == c) m) m, trace)
  | char s => fun trace m => (advance t s.has m, trace)
  | anchor a => fun trace m => (List.zipWith (· && ·) m (places a t), trace)
  | repeated p least most _ => fun ⟨passed, traces⟩ m =>
    let (m, traces) := repeatedly t (walk t p) least most traces m
    (m, ⟨passed, traces⟩)
  | capture _ p => walk t p
  | row ps => fun ⟨passed, traces⟩ m =>
    let (m, traces) := walkRow t ps traces m
    (m, ⟨passed, traces⟩)
  | choice ps => fun ⟨passed, traces⟩ m =>
    let (m, traces) := walkChoice t ps traces m
    (m, ⟨passed, traces⟩)

/-- The places that patterns lead to one behind the other. -/
def walkRow (t : Text) : List Pattern → List Trace → Marks → Marks × List Trace
  | [] => fun traces m => (m, traces)
  | p :: ps => (Step.followed (walk t p)) (walkRow t ps)

/-- The places that one of some patterns leads to. -/
def walkChoice (t : Text) : List Pattern → List Trace → Marks → Marks × List Trace
  | [] => fun traces _ => ([], traces)
  | p :: ps => fun traces m =>
    let (reached, trace) := walk t p (traces.headD .start) m
    let (others, rest) := walkChoice t ps traces.tail m
    (reached.either others, trace :: rest)

end

/-- Whether a pattern stands anywhere in a text. -/
def occursIn (p : Pattern) (t : Text) : Bool :=
  (walk t p .start (List.replicate (t.length + 1) true)).1.inhabited

end LineSpecials.Pattern
