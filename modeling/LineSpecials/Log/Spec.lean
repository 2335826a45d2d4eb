import LineSpecials.Log
import LineSpecials.Pattern.Meaning

namespace LineSpecials.Log

/-- What is wrong with a part of a filter's text, which is then left out. -/
inductive SpecFault
  | unclear (part : Text)
  | manySlashes (spec : Text)
  | badPattern (defect : Pattern.Defect) (pattern : Text)
  deriving DecidableEq

/-- What is wrong, in words. -/
def SpecFault.message : SpecFault → Text
  | unclear part => "invalid logging spec '" ++ part ++ "'"
  | manySlashes spec => "invalid logging spec '" ++ spec ++ "' (too many '/'s)"
  | badPattern defect pattern => "invalid regex filter - " ++ defect.describe pattern

/-- The warning about a part that is left out. -/
def SpecFault.warning (f : SpecFault) : Text := "warning: " ++ f.message ++ ", ignoring it"

/-- The limit that a word stands for, in either case; `off` is the limit that shows nothing. -/
def limit? (t : Text) : Option (Option Level) :=
  let word := t.map Char.toLower
  if word = "off" then some none
  else if word = "error" then some (some .error)
  else if word = "warn" then some (some .warn)
  else if word = "info" then some (some .info)
  else if word = "debug" then some (some .debug)
  else if word = "trace" then some (some .trace)
  else none

/-- The filter with a rule added, which a text writes: a level for all targets that have no rule, a
scope that is shown in full, or a scope and its level with an equals sign between them. -/
def Filter.addRule (f : Filter) (t : Text) : Except SpecFault Filter :=
  match t.splitWhen (· == '=') with
  | [word] =>
    match limit? word with
    | some limit => .ok { f with standard := limit }
    | none => .ok (f.insert ⟨word, some .trace⟩)
  | [scope, word] =>
    if word.trim = [] then .ok (f.insert ⟨scope, some .trace⟩)
    else match limit? word.trim with
      | some limit => .ok (f.insert ⟨scope, limit⟩)
      | none => .error (.unclear word.trim)
  | _ => .error (.unclear t)

/-- A filter after a change, and what has been wrong on the way. The filter stays as it is if the
change fails. -/
def Filter.attempt (f : Filter × List SpecFault) (change : Filter → Except SpecFault Filter) :
    Filter × List SpecFault :=
  match change f.1 with
  | .ok g => (g, f.2)
  | .error e => (f.1, f.2 ++ [e])

/-- The filter with the rules of a text added. -/
def Filter.addRules (f : Filter) (rules : Text) : Filter × List SpecFault :=
  (((rules.splitWhen (· == ',')).map Text.trim).filter (! ·.isEmpty)).foldl
    (fun f t => attempt f (·.addRule t)) (f, [])

/-- The filter with a pattern for the messages. -/
def Filter.setPattern (f : Filter) (pattern : Text) : Except SpecFault Filter :=
  match Pattern.ofText pattern with
  | .ok p => .ok { f with pattern := some p }
  | .error e => .error (.badPattern e pattern)

/-- The filter with all that a text asks for, and what is wrong with the text: rules apart by commas
and, behind a slash, a pattern for the messages. -/
def Filter.refine (f : Filter) (spec : Text) : Filter × List SpecFault :=
  match spec.splitWhen (· == '/') with
  | [rules] => f.addRules rules
  | [rules, pattern] => attempt (f.addRules rules) (·.setPattern pattern)
  | _ => (f, [.manySlashes spec])

end LineSpecials.Log
