import LineSpecials.Proofs.SessionOutcome

namespace LineSpecials.Command

/-- What a check and the command that emits what it looks at have in common: where the files are,
which of them to read, and whether a table without entries is denied. -/
structure Selection where
  root : Text
  config : Option Text
  mode : Mode
  bindings : Option Text
  actions : Option Text
  denyEmpty : Bool

namespace Selection

/-- The command that emits: `table` for comment blocks, `xref` for references. -/
def emission (sel : Selection) (verbosity : Nat) (noEcho : Bool) : Invocation where
  globals := ⟨sel.root, sel.config, verbosity⟩
  task := match sel.mode with
    | .commentBlock => .table sel.actions sel.denyEmpty
    | .crossReference => .xref sel.bindings sel.actions noEcho sel.denyEmpty

def check (sel : Selection) (verbosity : Nat) (json : Bool) : Invocation where
  globals := ⟨sel.root, sel.config, verbosity⟩
  task := .check sel.mode sel.bindings sel.actions sel.denyEmpty json

def settings (sel : Selection) (files : FileAccess Id) : Except Failure Config :=
  files.settings (sel.config.getD (Path.join sel.root Config.fileName))

def actionsPath (sel : Selection) (c : Config) : Text :=
  Path.join sel.root (sel.actions.getD c.paths.actions)

def bindingsPath (sel : Selection) (c : Config) : Text :=
  Path.join sel.root (sel.bindings.getD c.paths.bindings)

/-- The paths of the sources to read. -/
def inputPaths (sel : Selection) (c : Config) : List Text :=
  match sel.mode with
  | .commentBlock => [sel.actionsPath c]
  | .crossReference => [sel.bindingsPath c, sel.actionsPath c]

theorem actionsPath_mem (sel : Selection) (c : Config) : sel.actionsPath c ∈ sel.inputPaths c := by
  unfold inputPaths
  cases sel.mode <;> simp

theorem bindingsPath_mem (sel : Selection) (c : Config) (hmode : sel.mode = .crossReference) :
    sel.bindingsPath c ∈ sel.inputPaths c := by
  simp [inputPaths, hmode]

end Selection

/-- What is asked of the sources that a selection reads under given settings. -/
inductive Opened (files : FileAccess Id) (sel : Selection) (c : Config) : Request → Prop
  | commentBlock {actions : Source} (hmode : sel.mode = .commentBlock)
      (hactions : files.source (sel.actionsPath c) = .ok actions) :
      Opened files sel c ⟨actions, none, sel.denyEmpty || c.table.denyEmpty⟩
  | crossReference {bindings actions : Source} (hmode : sel.mode = .crossReference)
      (hbindings : files.source (sel.bindingsPath c) = .ok bindings)
      (hactions : files.source (sel.actionsPath c) = .ok actions) :
      Opened files sel c ⟨actions, some bindings, sel.denyEmpty || c.table.denyEmpty⟩

/-- Why nothing is emitted: the settings cannot be loaded, a source cannot be opened, or there is
no entry and that is denied. -/
inductive Refused (files : FileAccess Id) (sel : Selection) : Failure → Prop
  | config {f : Failure} (h : sel.settings files = .error f) : Refused files sel f
  | input {c : Config} {path : Text} {f : Failure} (hc : sel.settings files = .ok c)
      (hpath : path ∈ sel.inputPaths c) (h : files.source path = .error f) : Refused files sel f
  | empty {c : Config} {r : Request} (hc : sel.settings files = .ok c) (hr : Opened files sel c r)
      (hfound : r.found.entries = []) (hdeny : sel.denyEmpty ∨ c.table.denyEmpty) :
      Refused files sel (.noEntries (sel.actionsPath c))

/-- The settings and the sources are there, and so are entries if they have to be. -/
structure Accepted (files : FileAccess Id) (sel : Selection) (c : Config) (r : Request) : Prop where
  settings_eq : sel.settings files = .ok c
  opened : Opened files sel c r
  not_denied : ¬ (r.found.entries = [] ∧ (sel.denyEmpty ∨ c.table.denyEmpty))

/-- The rows to print before a table, if there are bindings and they are echoed. -/
def echoLines (r : Request) (echo : Bool) : List Text :=
  match r.bindings with
  | some source => if echo then (BindingMap.ofLines source.lines).rows.map Binding.echo else []
  | none => []

/-- How a command that emits ends. -/
inductive Emitted (files : FileAccess Id) (sel : Selection) (noEcho : Bool) :
    Except Failure Nat → Text → Prop
  | refused {f : Failure} (h : Refused files sel f) : Emitted files sel noEcho (.error f) []
  | table {c : Config} {r : Request} (h : Accepted files sel c r) :
      Emitted files sel noEcho (.ok 0)
        (Text.ofLines (echoLines r (c.table.echoBindings && !noEcho)) ++ r.finished.table.render)

/-- How a check ends. -/
inductive Checked (files : FileAccess Id) (sel : Selection) : Except Failure Nat → Text → Prop
  | failed {f : Failure} (h : Refused files sel f) : Checked files sel (.error f) []
  | unusable {f : Failure} {out : Text} (h : Refused files sel f) : Checked files sel (.ok 1) out
  | usable {c : Config} {r : Request} {out : Text} (h : Accepted files sel c r) :
      Checked files sel (.ok 0) out

section

variable {files : FileAccess Id} {sel : Selection} {c : Config} {r : Request}

theorem Opened.unique {r' : Request} (h : Opened files sel c r) (h' : Opened files sel c r') :
    r = r' := by
  cases h <;> cases h' <;> simp_all

theorem Opened.source_of_mem (h : Opened files sel c r) {path : Text}
    (hpath : path ∈ sel.inputPaths c) :
    ∃ s, files.source path = .ok s := by
  unfold Selection.inputPaths at hpath
  cases h with
  | commentBlock hmode hactions =>
    rw [hmode] at hpath
    rw [List.mem_singleton.mp hpath]
    exact ⟨_, hactions⟩
  | crossReference hmode hbindings hactions =>
    rw [hmode] at hpath
    rcases (by simpa using hpath : path = sel.bindingsPath c ∨ path = sel.actionsPath c) with
      rfl | rfl
    · exact ⟨_, hbindings⟩
    · exact ⟨_, hactions⟩

theorem Opened.denyEmpty_iff (h : Opened files sel c r) :
    r.denyEmpty = true ↔ sel.denyEmpty ∨ c.table.denyEmpty := by
  cases h <;> simp

theorem Opened.path_eq (h : Opened files sel c r) : r.actions.path = sel.actionsPath c := by
  cases h with
  | commentBlock _ hactions => exact FileAccess.path_of_source hactions
  | crossReference _ _ hactions => exact FileAccess.path_of_source hactions

/-- What is accepted is refused for no reason. -/
theorem Accepted.not_refused (h : Accepted files sel c r) (f : Failure) : ¬ Refused files sel f := by
  intro hf
  cases hf with
  | config hc => cases hc.symm.trans h.settings_eq
  | input hc hpath hsource =>
    cases Except.ok.inj (hc.symm.trans h.settings_eq)
    obtain ⟨s, hs⟩ := h.opened.source_of_mem hpath
    cases hsource.symm.trans hs
  | empty hc hr hfound hdeny =>
    cases Except.ok.inj (hc.symm.trans h.settings_eq)
    cases hr.unique h.opened
    exact h.not_denied ⟨hfound, hdeny⟩

theorem stdout_emission (r : Request) (echo : Bool) :
    (Emission.ofState r.finished echo).stdout =
      Text.ofLines (echoLines r echo) ++ r.finished.table.render := by
  rw [Emission.stdout_eq]
  obtain ⟨actions, bindings, denyEmpty⟩ := r
  cases bindings <;> rfl

variable (filter : Log.Filter)

theorem endsIn_emit {echo noEcho : Bool} (hc : sel.settings files = .ok c)
    (hr : Opened files sel c r)
    (hecho : echoLines r echo = echoLines r (c.table.echoBindings && !noEcho))
    (component : Log.Component) :
    Session.EndsIn (emit filter r echo component) (Emitted files sel noEcho) := by
  by_cases hdenied : r.found.entries = [] ∧ (sel.denyEmpty ∨ c.table.denyEmpty)
  · refine ⟨_, _, ends_emit_of_denied filter echo component ?_, ?_⟩
    · rwa [hr.denyEmpty_iff]
    · rw [hr.path_eq]
      exact .refused (.empty hc hr hdenied.1 hdenied.2)
  · refine ⟨_, _, ends_emit filter echo component ?_, ?_⟩
    · rwa [hr.denyEmpty_iff]
    · rw [stdout_emission, hecho]
      exact .table ⟨hc, hr, hdenied⟩

theorem endsIn_inspect (hc : sel.settings files = .ok c) (hr : Opened files sel c r) (json : Bool) :
    Session.EndsIn (inspect filter r json) (Checked files sel) := by
  refine ⟨_, _, ends_inspect filter json, ?_⟩
  split
  next hdenied =>
    rw [hr.denyEmpty_iff] at hdenied
    exact .unusable (.empty hc hr hdenied.1 hdenied.2)
  next hdenied =>
    rw [hr.denyEmpty_iff] at hdenied
    exact .usable ⟨hc, hr, hdenied⟩

section

open Session

variable {α : Type} {P : Except Failure α → Text → Prop}

theorem endsIn_loadConfig {f : Config → Session Id α}
    (hrefused : ∀ e, Refused files sel e → P (.error e) [])
    (hok : ∀ c, sel.settings files = .ok c → EndsIn (f c) P) :
    EndsIn (loadConfig files filter (sel.config.getD (Path.join sel.root Config.fileName)) >>= f)
      P :=
  endsIn_bind (ends_loadConfig files filter _) (fun e he => hrefused e (.config he)) hok

theorem endsIn_openSource {path : Text} {f : Source → Session Id α}
    (hc : sel.settings files = .ok c)
    (hpath : path ∈ sel.inputPaths c) (hrefused : ∀ e, Refused files sel e → P (.error e) [])
    (hok : ∀ s, files.source path = .ok s → EndsIn (f s) P) :
    EndsIn (openSource files filter path >>= f) P :=
  endsIn_bind (ends_openSource files filter path) (fun e he => hrefused e (.input hc hpath he)) hok

theorem endsIn_emission (verbosity : Nat) (noEcho : Bool) :
    EndsIn ((sel.emission verbosity noEcho).task.run files filter
      (sel.emission verbosity noEcho).globals) (Emitted files sel noEcho) := by
  have hrefused : ∀ f, Refused files sel f → Emitted files sel noEcho (.error f) [] :=
    fun _ => .refused
  unfold Selection.emission
  dsimp only
  cases hmode : sel.mode with
  | commentBlock =>
    refine endsIn_loadConfig filter hrefused fun c hc => ?_
    refine endsIn_openSource filter hc (sel.actionsPath_mem c) hrefused fun actions hactions => ?_
    exact endsIn_emit filter hc (.commentBlock hmode hactions) rfl .tableCommand
  | crossReference =>
    -- Here the bindings come first, and in a check they come last; both have to be there.
    refine endsIn_loadConfig filter hrefused fun c hc => ?_
    refine endsIn_openSource filter hc (sel.bindingsPath_mem c hmode) hrefused
      fun bindings hbindings => ?_
    refine endsIn_openSource filter hc (sel.actionsPath_mem c) hrefused fun actions hactions => ?_
    exact endsIn_emit filter hc (.crossReference hmode hbindings hactions) rfl .xrefCommand

theorem endsIn_check (verbosity : Nat) (json : Bool) :
    EndsIn ((sel.check verbosity json).task.run files filter
      (sel.check verbosity json).globals) (Checked files sel) := by
  have hrefused : ∀ f, Refused files sel f → Checked files sel (.error f) [] := fun _ => .failed
  refine endsIn_loadConfig filter hrefused fun c hc => ?_
  refine endsIn_openSource filter hc (sel.actionsPath_mem c) hrefused fun actions hactions => ?_
  cases hmode : sel.mode with
  | commentBlock => exact endsIn_inspect filter hc (.commentBlock hmode hactions) json
  | crossReference =>
    refine endsIn_openSource filter hc (sel.bindingsPath_mem c hmode) hrefused
      fun bindings hbindings => ?_
    exact endsIn_inspect filter hc (.crossReference hmode hbindings hactions) json

end

theorem Refused.eq_noEntries {f : Failure} (h : Refused files sel f)
    (hc : sel.settings files = .ok c)
    (hr : Opened files sel c r) : f = .noEntries (sel.actionsPath c) := by
  cases h with
  | config hf => cases hf.symm.trans hc
  | input hc' hpath hsource =>
    cases Except.ok.inj (hc'.symm.trans hc)
    obtain ⟨s, hs⟩ := hr.source_of_mem hpath
    cases hsource.symm.trans hs
  | empty hc' _ _ _ =>
    cases Except.ok.inj (hc'.symm.trans hc)
    rfl

open scoped Classical in
/-- A command that emits has status 1 if it is refused for some reason, and status 0 otherwise. -/
theorem Emitted.exit_eq {noEcho : Bool} {result : Except Failure Nat} {out : Text}
    (h : Emitted files sel noEcho result out) (printed : List Chunk) :
    (Session.outcomeOf result printed).exit = if ∃ f, Refused files sel f then 1 else 0 := by
  cases h with
  | refused hf => exact (if_pos ⟨_, hf⟩).symm
  | table ha => exact (if_neg (not_exists.mpr ha.not_refused)).symm

open scoped Classical in
theorem Checked.exit_eq {result : Except Failure Nat} {out : Text}
    (h : Checked files sel result out) (printed : List Chunk) :
    (Session.outcomeOf result printed).exit = if ∃ f, Refused files sel f then 1 else 0 := by
  cases h with
  | failed hf => exact (if_pos ⟨_, hf⟩).symm
  | unusable hf => exact (if_pos ⟨_, hf⟩).symm
  | usable ha => exact (if_neg (not_exists.mpr ha.not_refused)).symm

end

/-- A command that emits exits as any check of the same selection does, whatever is logged and in
whatever form the check reports. Its status is 1 exactly if it is refused for some reason; then it
puts nothing on standard output and fails for such a reason, which is the missing entries if the
settings and the sources are there. Otherwise its status is 0, and on standard output it puts the
rows that are echoed and the table of the run. -/
theorem check_predicts_exit (files : FileAccess Id) (sel : Selection) {spec : Option Text}
    {args : List Text} {verbosity : Nat} {noEcho : Bool}
    (hargs : Invocation.ofArguments args = .ok (sel.emission verbosity noEcho)) :
    ∃ emitted : Outcome, run files spec args = emitted ∧
      (∀ (spec' : Option Text) (args' : List Text) (verbosity' : Nat) (json : Bool),
        Invocation.ofArguments args' = .ok (sel.check verbosity' json) →
        ∃ checked : Outcome, run files spec' args' = checked ∧ checked.exit = emitted.exit) ∧
      (emitted.exit = 1 ↔ ∃ f, Refused files sel f) ∧
      (emitted.exit = 1 → Chunk.stdout emitted.printed = [] ∧
        ∃ f, emitted.failure = some f ∧ Refused files sel f) ∧
      (∀ c r, sel.settings files = .ok c → Opened files sel c r → r.found.entries = [] →
        (sel.denyEmpty ∨ c.table.denyEmpty) →
        emitted.failure = some (.noEntries (sel.actionsPath c))) ∧
      (emitted.exit ≠ 1 → emitted.exit = 0 ∧ emitted.failure = none ∧
        ∃ c r s, Accepted files sel c r ∧ r.run = .ok s ∧
          Chunk.stdout emitted.printed =
            Text.ofLines (echoLines r (c.table.echoBindings && !noEcho)) ++ s.table.render) := by
  obtain ⟨result, printed, hrun, hend⟩ :=
    run_of_endsIn files spec hargs fun filter => endsIn_emission filter verbosity noEcho
  have hexit := hend.exit_eq printed
  refine ⟨Session.outcomeOf result printed, hrun, ?_, ?_, ?_, ?_, ?_⟩
  · intro spec' args' verbosity' json hargs'
    obtain ⟨result', printed', hrun', hend'⟩ :=
      run_of_endsIn files spec' hargs' fun filter => endsIn_check filter verbosity' json
    exact ⟨_, hrun', (hend'.exit_eq printed').trans hexit.symm⟩
  · rw [hexit]
    split <;> simp_all
  · intro hone
    generalize hout : Chunk.stdout printed = out at hend
    cases hend with
    | refused hf => exact ⟨hout, _, rfl, hf⟩
    | table => cases hone
  · intro c r hc hr hfound hdeny
    generalize Chunk.stdout printed = out at hend
    cases hend with
    | refused hf => exact congrArg some (hf.eq_noEntries hc hr)
    | table ha => exact absurd (.empty hc hr hfound hdeny) (ha.not_refused _)
  · intro hne
    generalize hout : Chunk.stdout printed = out at hend
    cases hend with
    | refused => exact absurd rfl hne
    | @table c r ha => exact ⟨rfl, rfl, c, r, _, ha, r.run_eq, hout⟩

/-- Two checkouts without settings: one whose table has a row that its blocks refer to, and one
whose blocks cannot be read. -/
def doorTree : FileTree where
  entries := [
    (["engine", "source", "ev_actions.cpp"], .text "// Implements Door(tag)\n"),
    (["engine", "source", "ev_bindings.cpp"], .text
      "ev_binding_t HexenBindings[] =\n\x7b\n   LINESPECNAMED(10, EV_ActionDoor, \"Door\")\n\x7d;\n"),
    (["locked", "source", "ev_actions.cpp"], .unreadable),
    (["locked", "source", "ev_bindings.cpp"], .text [])]
  directory := ["home"]

/-- The references of a checkout, with a table without entries denied. -/
def deniedIfNone (root : Text) : Selection := ⟨root, none, .crossReference, none, none, true⟩

theorem check_predicts_exit_doorTree :
    Invocation.ofArguments ["xref", "--root", "/engine", "--deny-empty"] =
        .ok ((deniedIfNone "/engine").emission 0 false) ∧
      (run doorTree.access none ["xref", "--root", "/engine", "--deny-empty"] : Outcome).exit = 0 ∧
      (run doorTree.access none
        ["check", "-vm", "cross-reference", "-C/engine", "--deny-empty", "--json"] :
          Outcome).exit = 0 ∧
      (∃ c r s, Accepted doorTree.access (deniedIfNone "/engine") c r ∧ r.run = .ok s ∧
        Text.ofLines (echoLines r (c.table.echoBindings && !false)) ++ s.table.render =
          "10 EV_ActionDoor Door\nspecial\n\t10:Door(1)\n".toList) ∧
      (run doorTree.access none ["xref", "-C", "../locked", "--deny-empty"] : Outcome).exit = 1 ∧
      Chunk.stdout (run doorTree.access none
        ["xref", "-C", "../locked", "--deny-empty"] : Outcome).printed = [] ∧
      Refused doorTree.access (deniedIfNone "../locked")
        (.unreadable "../locked/source/ev_actions.cpp" .other) := by
  have hargs : Invocation.ofArguments ["xref", "--root", "/engine", "--deny-empty"] =
      .ok ((deniedIfNone "/engine").emission 0 false) := rfl
  have hcheck : Invocation.ofArguments
      ["check", "-vm", "cross-reference", "-C/engine", "--deny-empty", "--json"] =
      .ok ((deniedIfNone "/engine").check 1 true) := rfl
  have hlocked : Invocation.ofArguments ["xref", "-C", "../locked", "--deny-empty"] =
      .ok ((deniedIfNone "../locked").emission 0 false) := rfl
  have hexit : (run doorTree.access none ["xref", "--root", "/engine", "--deny-empty"] :
      Outcome).exit = 0 := by
    decide +kernel
  have hstdout : Chunk.stdout (run doorTree.access none
      ["xref", "--root", "/engine", "--deny-empty"] : Outcome).printed =
        "10 EV_ActionDoor Door\nspecial\n\t10:Door(1)\n".toList := by
    decide +kernel
  obtain ⟨_, rfl, halike, -, -, -, htable⟩ :=
    check_predicts_exit doorTree.access (deniedIfNone "/engine") hargs
  obtain ⟨_, rfl, hchecked⟩ := halike none _ 1 true hcheck
  obtain ⟨-, -, c, r, s, haccepted, hrun, hprinted⟩ := htable (by rw [hexit]; decide)
  have hexitLocked : (run doorTree.access none ["xref", "-C", "../locked", "--deny-empty"] :
      Outcome).exit = 1 := by
    decide +kernel
  have hfailure : (run doorTree.access none ["xref", "-C", "../locked", "--deny-empty"] :
      Outcome).failure = some (.unreadable "../locked/source/ev_actions.cpp" .other) := by
    decide +kernel
  obtain ⟨_, rfl, -, -, hsilent, -⟩ :=
    check_predicts_exit doorTree.access (deniedIfNone "../locked") hlocked
  obtain ⟨hempty, f, hf, hrefused⟩ := hsilent hexitLocked
  obtain rfl := Option.some.inj (hfailure.symm.trans hf)
  exact ⟨hargs, hexit, hchecked.trans hexit,
    ⟨c, r, s, haccepted, hrun, hprinted.symm.trans hstdout⟩, hexitLocked, hempty, hrefused⟩

end LineSpecials.Command
