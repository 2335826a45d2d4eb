import LineSpecials.Command.Session
import LineSpecials.Proofs.EchoReading

namespace LineSpecials

namespace FileAccess

/-- A source at a path, under which it is reported. -/
def source (files : FileAccess Id) (path : Text) : Except Failure Source :=
  match Id.run (files.read path) with
  | .error cause => .error (.unreadable path cause)
  | .ok content => .ok ⟨path, content⟩

/-- The settings at a path, or the standard ones if nothing is there. -/
def settings (files : FileAccess Id) (path : Text) : Except Failure Config :=
  if Id.run (files.isPresent path) then
    match Id.run (files.read path) with
    | .error cause => .error (.unreadable path cause)
    | .ok content => Config.ofText content path
  else .ok .standard

theorem path_of_source {files : FileAccess Id} {path : Text} {s : Source}
    (h : files.source path = .ok s) : s.path = path := by
  unfold source at h
  split at h
  next => cases h
  next =>
    cases h
    rfl

end FileAccess

namespace Command

namespace Session

variable {α β : Type}

/-- From whatever was printed before, a session ends with the result and puts the text on standard
output. -/
def Ends (s : Session Id α) (result : Except Failure α) (out : Text) : Prop :=
  ∀ printed, ∃ chunks, (ExceptT.run s).run printed = (result, printed ++ chunks) ∧
    Chunk.stdout chunks = out

theorem Ends.bind {s : Session Id α} {f : α → Session Id β} {a : α} {result : Except Failure β}
    {out out' : Text} (h : Ends s (.ok a) out) (h' : Ends (f a) result out') :
    Ends (s >>= f) result (out ++ out') := by
  intro printed
  obtain ⟨chunks, hrun, hout⟩ := h printed
  obtain ⟨chunks', hrun', hout'⟩ := h' (printed ++ chunks)
  refine ⟨chunks ++ chunks', ?_, ?_⟩
  · rw [ExceptT.run_bind, StateT.run_bind, hrun, ← List.append_assoc]
    exact hrun'
  · rw [Chunk.stdout_append, hout, hout']

theorem Ends.bind_error {s : Session Id α} {f : α → Session Id β} {e : Failure} {out : Text}
    (h : Ends s (.error e) out) : Ends (s >>= f) (.error e) out := by
  intro printed
  obtain ⟨chunks, hrun, hout⟩ := h printed
  refine ⟨chunks, ?_, hout⟩
  rw [ExceptT.run_bind, StateT.run_bind, hrun]
  rfl

theorem ends_pure (a : α) : Ends (pure a) (.ok a) [] :=
  fun printed => ⟨[], by rw [List.append_nil]; rfl, rfl⟩

theorem ends_throw (e : Failure) : Ends (throw e : Session Id α) (.error e) [] :=
  fun printed => ⟨[], by rw [List.append_nil]; rfl, rfl⟩

theorem ends_print (chunks : List Chunk) : Ends (print chunks) (.ok ()) (Chunk.stdout chunks) :=
  fun _ => ⟨chunks, rfl, rfl⟩

theorem ends_log (filter : Log.Filter) (records : List Log.Record) :
    Ends (log filter records) (.ok ()) [] := by
  have hprint := ends_print ((records.filter filter.passes).map fun r => .err r.line)
  rwa [Chunk.stdout_map_err] at hprint

/-- Nothing of the session is seen on standard output if its first part puts none there. -/
theorem Ends.bind_silent {s : Session Id α} {f : α → Session Id β} {a : α}
    {result : Except Failure β} {out : Text} (h : Ends s (.ok a) [])
    (h' : Ends (f a) result out) : Ends (s >>= f) result out := h.bind h'

/-- Some result that a session ends with, and what it puts on standard output, are as wanted. -/
def EndsIn (s : Session Id α) (P : Except Failure α → Text → Prop) : Prop :=
  ∃ result out, Ends s result out ∧ P result out

/-- The rest of a session goes on from what its first part, which is silent, ends with. -/
theorem endsIn_bind {s : Session Id α} {f : α → Session Id β} {x : Except Failure α}
    {P : Except Failure β → Text → Prop} (h : Ends s x [])
    (herror : ∀ e, x = .error e → P (.error e) [])
    (hok : ∀ a, x = .ok a → EndsIn (f a) P) : EndsIn (s >>= f) P := by
  cases x with
  | error e => exact ⟨.error e, [], h.bind_error, herror e rfl⟩
  | ok a =>
    obtain ⟨result, out, hend, hP⟩ := hok a rfl
    exact ⟨result, out, h.bind_silent hend, hP⟩

theorem ends_lift (a : Id α) : Ends (liftM a : Session Id α) (.ok a.run) [] :=
  fun printed => ⟨[], by rw [List.append_nil]; rfl, rfl⟩

theorem ends_ofExcept (x : Except Failure α) : Ends (ofExcept x) x [] := by
  cases x with
  | error e => exact ends_throw e
  | ok a => exact ends_pure a

theorem ends_report (calls : List Output) :
    Ends (report calls) (.ok ()) (Chunk.stdout (calls.map Output.chunk)) := ends_print _

section Files

variable (files : FileAccess Id) (filter : Log.Filter) (path : Text)

theorem ends_openSource : Ends (openSource files filter path) (files.source path) [] := by
  unfold openSource FileAccess.source
  refine (ends_lift (files.read path)).bind_silent ?_
  cases Id.run (files.read path) with
  | error cause => exact ends_throw _
  | ok content => exact (ends_log filter _).bind_silent (ends_pure _)

theorem ends_loadConfig : Ends (loadConfig files filter path) (files.settings path) [] := by
  unfold loadConfig FileAccess.settings
  refine (ends_lift (files.isPresent path)).bind_silent ?_
  split
  next =>
    refine (ends_lift (files.read path)).bind_silent ?_
    cases Id.run (files.read path) with
    | error cause => exact ends_throw _
    | ok content => exact (ends_log filter _).bind_silent (ends_ofExcept _)
  next => exact (ends_log filter _).bind_silent (ends_pure _)

end Files

def outcomeOf (result : Except Failure Nat) (printed : List Chunk) : Outcome :=
  match result with
  | .ok exit => ⟨exit, printed, none⟩
  | .error f => ⟨1, printed, some f⟩

theorem outcome_of_ends {s : Session Id Nat} {result : Except Failure Nat} {out : Text}
    (h : Ends s result out) :
    ∃ printed, outcome s = outcomeOf result printed ∧ Chunk.stdout printed = out := by
  obtain ⟨chunks, hrun, hout⟩ := h []
  refine ⟨chunks, ?_, hout⟩
  unfold outcome
  rw [hrun]
  cases result <;> rfl

end Session

section Reports

open Session

variable (filter : Log.Filter) {r : Request} (echo json : Bool) (component : Log.Component)

theorem isOk_finished (r : Request) :
    (Emission.ofState r.finished echo).isOk = true ↔ ¬ (r.found.entries = [] ∧ r.denyEmpty) := by
  rw [← r.errors_finished_eq_nil_iff]
  simp [Emission.isOk, Emission.ofState]

theorem isValid_finished (r : Request) :
    (CheckReport.ofState r.finished).isValid = true ↔ ¬ (r.found.entries = [] ∧ r.denyEmpty) := by
  have herrors : (CheckReport.ofState r.finished).errors =
      (r.finished.diagnosticsOf .error).map Diagnostic.detailed :=
    congrArg (·.errors) (Messages.ofDiagnostics_eq r.finished.diagnostics)
  rw [← r.errors_finished_eq_nil_iff, CheckReport.isValid, herrors]
  simp

/-- A table without entries is not emitted if it is denied. -/
theorem ends_emit_of_denied (h : r.found.entries = [] ∧ r.denyEmpty) :
    Ends (emit filter r echo component) (.error (.noEntries r.actions.path)) [] := by
  unfold emit
  refine (ends_log filter _).bind_silent ?_
  rw [r.emission_eq]
  dsimp only
  rw [if_neg (by rw [isOk_finished]; exact not_not_intro h)]
  exact ends_throw _

theorem ends_emit (h : ¬ (r.found.entries = [] ∧ r.denyEmpty)) :
    Ends (emit filter r echo component) (.ok 0) (Emission.ofState r.finished echo).stdout := by
  unfold emit
  refine (ends_log filter _).bind_silent ?_
  rw [r.emission_eq]
  dsimp only
  rw [if_pos ((isOk_finished echo r).mpr h)]
  refine (ends_log filter _).bind_silent ?_
  have hreport := (ends_report (Emission.ofState r.finished echo).output).bind
    (f := fun _ => pure 0) (ends_pure 0)
  rwa [List.append_nil] at hreport

/-- What the check of a request puts on standard output. -/
def inspected (r : Request) (json : Bool) : Text :=
  if json then (CheckReport.ofState r.finished).json.pretty 0 ++ ['\n']
  else Chunk.stdout ((CheckReport.ofState r.finished).output.map Output.chunk)

theorem ends_inspect : Ends (inspect filter r json)
    (.ok (if r.found.entries = [] ∧ r.denyEmpty then 1 else 0)) (inspected r json) := by
  have hstatus : (if (CheckReport.ofState r.finished).isValid then 0 else 1) =
      if r.found.entries = [] ∧ r.denyEmpty then 1 else 0 := by
    have hvalid := isValid_finished r
    split <;> split <;> simp_all
  unfold inspect
  refine (ends_log filter _).bind_silent ?_
  rw [r.check_eq]
  dsimp only
  rw [hstatus, ← List.append_nil (inspected r json)]
  cases json with
  | false => exact (ends_report _).bind (ends_pure _)
  | true =>
    have hprint := ends_print [.out ((CheckReport.ofState r.finished).json.pretty 0 ++ ['\n'])]
    rw [Chunk.stdout, List.flatMap_singleton] at hprint
    exact hprint.bind (ends_pure _)

end Reports

/-- A command line that makes sense ends as its task does. -/
theorem run_of_endsIn (files : FileAccess Id) (spec : Option Text) {args : List Text}
    {call : Invocation}
    {P : Except Failure Nat → Text → Prop} (hcall : Invocation.ofArguments args = .ok call)
    (h : ∀ filter, Session.EndsIn (call.task.run files filter call.globals) P) :
    ∃ result printed, run files spec args = Session.outcomeOf result printed ∧
      P result (Chunk.stdout printed) := by
  unfold run
  rw [hcall]
  dsimp only
  obtain ⟨filter, faults⟩ :=
    (Log.Filter.ofLevel (.ofVerbosity call.globals.verbosity)).refine (spec.getD [])
  obtain ⟨result, out, hend, hP⟩ := h filter
  have hwarn := Session.ends_print (faults.map fun f => .err (f.warning ++ ['\n']))
  rw [Chunk.stdout_map_err] at hwarn
  have htask := hwarn.bind_silent (f := fun _ => call.task.run files filter call.globals) hend
  obtain ⟨printed, hrun, hout⟩ := Session.outcome_of_ends htask
  exact ⟨result, printed, hrun, hout ▸ hP⟩

end Command

end LineSpecials
