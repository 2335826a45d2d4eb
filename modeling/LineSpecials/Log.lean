import LineSpecials.Pattern.Search
import LineSpecials.Text.Controls

namespace LineSpecials.Log

/-- The severities of log records, the gravest first. -/
inductive Level
  | error
  | warn
  | info
  | debug
  | trace
  deriving DecidableEq

namespace Level

/-- How much detail a level stands for. -/
def rank : Level → Nat
  | error => 1
  | warn => 2
  | info => 3
  | debug => 4
  | trace => 5

/-- The level in capitals. -/
def name : Level → Text
  | error => "ERROR"
  | warn => "WARN"
  | info => "INFO"
  | debug => "DEBUG"
  | trace => "TRACE"

/-- The most detailed level that is shown after the given number of requests for more. -/
def ofVerbosity : Nat → Level
  | 0 => warn
  | 1 => info
  | 2 => debug
  | _ => trace

end Level

/-- The parts of the program that log. -/
inductive Component
  | cursor
  | bindings
  | scanner
  | config
  | file
  | runner
  | bindingsPhase
  | generate
  | tableCommand
  | xrefCommand
  deriving DecidableEq

/-- The name that a component's records carry and that filters go by. -/
def Component.target : Component → Text
  | cursor => "specials_source::cursor"
  | bindings => "specials_source::bindings"
  | scanner => "specials_source::scanner"
  | config => "specials_source::config"
  | file => "specials_source::file"
  | runner => "specials_codegen::pipeline::runner"
  | bindingsPhase => "specials_codegen::pipeline::phases::bindings"
  | generate => "genspecials::ops::generate"
  | tableCommand => "genspecials::commands::table"
  | xrefCommand => "genspecials::commands::xref"

/-- One thing a component has to report. -/
structure Record where
  level : Level
  component : Component
  message : Text
  deriving DecidableEq

/-- A record as a line: its level in five columns, its target, its message, whose line breaks are
followed by an indentation. Control sequences are left out, and one that stays open takes the end
of the line with it. -/
def Record.line (r : Record) : Text :=
  let level := r.level.name
  Text.plain <| '[' :: level ++ List.replicate (5 - level.length) ' ' ++ ' ' ::
    r.component.target ++ ']' :: ' ' ::
    r.message.flatMap (fun c => if c = '\n' then '\n' :: List.replicate 4 ' ' else [c]) ++ ['\n']

/-- A rule of a filter: targets that begin with `scope` show records up to the limit, and none at
all without one. -/
structure Rule where
  scope : Text
  limit : Option Level
  deriving DecidableEq

/-- Which records are shown: the most specific rule that applies decides how detailed they may be,
or a limit for the targets that no rule applies to; their messages have to hold the pattern, if
there is one. -/
structure Filter where
  standard : Option Level
  rules : List Rule
  pattern : Option Pattern

namespace Filter

/-- One limit for every target. -/
def ofLevel (l : Level) : Filter := ⟨some l, [], none⟩

/-- The filter with one more rule; it replaces an earlier one of the same scope. -/
def insert (f : Filter) (r : Rule) : Filter :=
  if f.rules.any (·.scope == r.scope) then
    { f with rules := f.rules.map fun s => if s.scope = r.scope then r else s }
  else { f with rules := f.rules ++ [r] }

/-- The rule of the longer scope. -/
def moreSpecific (best : Option Rule) (r : Rule) : Option Rule :=
  match best with
  | none => some r
  | some b => if b.scope.length ≤ r.scope.length then some r else some b

/-- The limit for a target: that of the longest scope that it begins with. -/
def limit (f : Filter) (target : Text) : Option Level :=
  match (f.rules.filter (·.scope.isPrefixOf target)).foldl moreSpecific none with
  | some r => r.limit
  | none => f.standard

/-- Whether a record passes. -/
def passes (f : Filter) (r : Record) : Bool :=
  (f.limit r.component.target).any (fun limit => r.level.rank ≤ limit.rank) &&
    f.pattern.all (·.occursIn r.message)

end Filter

end LineSpecials.Log
