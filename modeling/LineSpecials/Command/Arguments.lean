import LineSpecials.Text.Basic

namespace LineSpecials.Command

/-- How `check` reads its sources. -/
inductive Mode
  | commentBlock
  | crossReference
  deriving DecidableEq

/-- The mode that a word names. -/
def Mode.ofName? (t : Text) : Option Mode :=
  if t = "comment-block" then some commentBlock
  else if t = "cross-reference" then some crossReference
  else none

/-- The options of all commands. -/
inductive Flag
  | root
  | config
  | verbose
  | version
  | help
  | actions
  | bindings
  | denyEmpty
  | noEcho
  | mode
  | json
  deriving DecidableEq

namespace Flag

/-- The long name, without its dashes. -/
def long : Flag → Text
  | root => "root"
  | config => "config"
  | verbose => "verbose"
  | version => "version"
  | help => "help"
  | actions => "actions"
  | bindings => "bindings"
  | denyEmpty => "deny-empty"
  | noEcho => "no-echo"
  | mode => "mode"
  | json => "json"

/-- The short name, if there is one. -/
def short : Flag → Option Char
  | root => some 'C'
  | config => some 'c'
  | verbose => some 'v'
  | version => some 'V'
  | help => some 'h'
  | actions => some 'a'
  | bindings => some 'b'
  | mode => some 'm'
  | denyEmpty | noEcho | json => none

/-- Whether the option has a value. -/
def takesValue : Flag → Bool
  | root | config | actions | bindings | mode => true
  | verbose | version | help | denyEmpty | noEcho | json => false

/-- The options that may stand before and after the command. -/
def globals : List Flag := [root, config, verbose]

end Flag

/-- Why reading the command line ends early. -/
inductive Stop
  /-- The version is asked for. -/
  | version
  /-- Help is asked for. -/
  | help
  /-- The line does not make sense. -/
  | misuse
  deriving DecidableEq

/-- An option as it was given; flags have an empty value. -/
structure Given where
  flag : Flag
  value : Text
  deriving DecidableEq

/-- How a word ends. -/
inductive WordEnd
  | complete
  /-- The value of an option is the next word. -/
  | awaiting (f : Flag)
  /-- Something in the word is no option, or has a value it cannot have. -/
  | broken
  deriving DecidableEq

/-- What a word says: the options in it, and how it ends. -/
structure Word where
  given : List Given
  ending : WordEnd
  deriving DecidableEq

/-- A word of the form `--name` or `--name=value`, without its dashes. -/
def longWord (allowed : List Flag) (t : Text) : Word :=
  match allowed.find? (·.long == t.takeWhile (· != '=')), t.dropWhile (· != '=') with
  | none, _ => ⟨[], .broken⟩
  | some f, [] => if f.takesValue then ⟨[], .awaiting f⟩ else ⟨[⟨f, []⟩], .complete⟩
  | some f, _ :: value => if f.takesValue then ⟨[⟨f, value⟩], .complete⟩ else ⟨[], .broken⟩

/-- A word of short options, without its dash. All that follows an option with a value is its
value; an equals sign may stand between them. -/
def shortWord (allowed : List Flag) : Text → Word
  | [] => ⟨[], .complete⟩
  | c :: r =>
    match allowed.find? (·.short == some c) with
    | none => ⟨[], .broken⟩
    | some f =>
      if f.takesValue then
        match r with
        | [] => ⟨[], .awaiting f⟩
        | '=' :: value => ⟨[⟨f, value⟩], .complete⟩
        | value => ⟨[⟨f, value⟩], .complete⟩
      else { shortWord allowed r with given := ⟨f, []⟩ :: (shortWord allowed r).given }

/-- One more option among those given: no option but the verbosity is given twice, no value is
empty, and the mode is one there is. -/
def accept (given : List Given) (g : Given) : Except Stop (List Given) :=
  if g.flag = .version then .error .version
  else if g.flag = .help then .error .help
  else if g.flag ≠ .verbose ∧ given.any (·.flag == g.flag) then .error .misuse
  else if g.flag.takesValue ∧ g.value = [] then .error .misuse
  else if g.flag = .mode ∧ (Mode.ofName? g.value).isNone then .error .misuse
  else .ok (given ++ [g])

/-- Whether a word is an option rather than a value; a lone dash is a value. -/
def isOption : Text → Bool
  | '-' :: _ :: _ => true
  | _ => false

/-- The word that a text is if it is an option. -/
def word? (allowed : List Flag) : Text → Option Word
  | '-' :: '-' :: t => some (longWord allowed t)
  | '-' :: c :: t => some (shortWord allowed (c :: t))
  | _ => none

/-- The options at the front of a command line after those already given, and the rest from the
first text on that is none. `awaiting` is the option whose value comes next. Nothing but the end may
follow two dashes. -/
def readOptions (allowed : List Flag) (given : List Given) (awaiting : Option Flag) :
    List Text → Except Stop (List Given × List Text)
  | [] => if awaiting.isSome then .error .misuse else .ok (given, [])
  | t :: ts =>
    match awaiting with
    | some f =>
      if isOption t then .error .misuse
      else do readOptions allowed (← accept given ⟨f, t⟩) none ts
    | none =>
      if t = "--" then (if ts.isEmpty then .ok (given, []) else .error .misuse)
      else match word? allowed t with
        | none => .ok (given, t :: ts)
        | some w => do
          let given ← w.given.foldlM accept given
          match w.ending with
          | .complete => readOptions allowed given none ts
          | .awaiting f => readOptions allowed given (some f) ts
          | .broken => .error .misuse

/-- The value of an option. -/
def valueOf (given : List Given) (f : Flag) : Option Text :=
  (given.find? (·.flag == f)).map (·.value)

/-- Whether an option is given. -/
def isGiven (given : List Given) (f : Flag) : Bool := given.any (·.flag == f)

/-- What applies to every command. -/
structure Globals where
  root : Text
  config : Option Text
  verbosity : Nat
  deriving DecidableEq

/-- The globals of the options before and after the command; one behind it wins. -/
def Globals.ofGiven (before after : List Given) : Globals where
  root := ((valueOf after .root).or (valueOf before .root)).getD "."
  config := (valueOf after .config).or (valueOf before .config)
  verbosity :=
    let count (given : List Given) := given.countP (·.flag == .verbose)
    if isGiven after .verbose then count after else count before

/-- The shells that there are completions for. -/
inductive Shell
  | bash
  | elvish
  | fish
  | powershell
  | zsh
  deriving DecidableEq

/-- The shell that a word names. -/
def Shell.ofName? (t : Text) : Option Shell :=
  if t = "bash" then some bash
  else if t = "elvish" then some elvish
  else if t = "fish" then some fish
  else if t = "powershell" then some powershell
  else if t = "zsh" then some zsh
  else none

/-- A command with its options. -/
inductive Task
  | table (actions : Option Text) (denyEmpty : Bool)
  | xref (bindings actions : Option Text) (noEcho denyEmpty : Bool)
  | check (mode : Mode) (bindings actions : Option Text) (denyEmpty json : Bool)
  | completions (shell : Shell)
  deriving DecidableEq

/-- The options of a command besides the globals, and the command that they make. -/
def task? (name : Text) : Option (List Flag × (List Given → Task)) :=
  if name = "table" then
    some ([.actions, .denyEmpty], fun g => .table (valueOf g .actions) (isGiven g .denyEmpty))
  else if name = "xref" then
    some ([.bindings, .actions, .noEcho, .denyEmpty], fun g =>
      .xref (valueOf g .bindings) (valueOf g .actions) (isGiven g .noEcho)
        (isGiven g .denyEmpty))
  else if name = "check" then
    some ([.mode, .bindings, .actions, .denyEmpty, .json], fun g =>
      .check (((valueOf g .mode).bind Mode.ofName?).getD .commentBlock) (valueOf g .bindings)
        (valueOf g .actions) (isGiven g .denyEmpty) (isGiven g .json))
  else none

/-- Options alone behind the name of a command, and the task that they make. -/
def readTask (flags : List Flag) (make : List Given → Task) (words : List Text) :
    Except Stop (List Given × Task) := do
  let (given, surplus) ← readOptions (flags ++ .help :: Flag.globals) [] none words
  if surplus.isEmpty then return (given, make given) else throw .misuse

/-- A shell among the global options. -/
def readShell (words : List Text) : Except Stop (List Given × Task) := do
  let (before, rest) ← readOptions (.help :: Flag.globals) [] none words
  match rest with
  | [] => throw .misuse
  | word :: rest =>
    match Shell.ofName? word with
    | none => throw .misuse
    | some shell =>
      let (given, surplus) ← readOptions (.help :: Flag.globals) before none rest
      if surplus.isEmpty then return (given, .completions shell) else throw .misuse

/-- What follows the word for help: at most the name of a command. -/
def readHelp (words : List Text) : Stop :=
  match words with
  | [] => .help
  | [name] =>
    if (task? name).isSome ∨ name = "completions" ∨ name = "help" then .help else .misuse
  | _ => .misuse

/-- A command line that makes sense. -/
structure Invocation where
  globals : Globals
  task : Task
  deriving DecidableEq

/-- The invocation of a command line, the name of the program left out. -/
def Invocation.ofArguments (args : List Text) : Except Stop Invocation := do
  let (before, rest) ← readOptions (.version :: .help :: Flag.globals) [] none args
  match rest with
  | [] => throw .misuse
  | name :: words =>
    let (after, task) ←
      if name = "help" then throw (readHelp words)
      else if name = "completions" then readShell words
      else match task? name with
        | none => throw .misuse
        | some (flags, make) => readTask flags make words
    return ⟨Globals.ofGiven before after, task⟩

end LineSpecials.Command
