import LineSpecials.Proofs.EntryOrder
import Mathlib.Data.List.Induction

namespace LineSpecials

/-- Entries in the order of a style. -/
def TableStyle.arrange (style : TableStyle) (es : List Entry) : List Entry :=
  if style.isSorted then Entry.sort es else es

/-- Arranging first some entries and then all is arranging all at once. -/
theorem TableStyle.arrange_arrange_append (style : TableStyle) (as bs : List Entry) :
    style.arrange (style.arrange as ++ bs) = style.arrange (as ++ bs) := by
  cases style with
  | sorted => exact Entry.sort_sort_append as bs
  | streamed => rfl

theorem TableStyle.arrange_arrange (style : TableStyle) (es : List Entry) :
    style.arrange (style.arrange es) = style.arrange es := by
  simpa using style.arrange_arrange_append es []

/-- The entry that a step adds by itself. -/
def Step.entry? : Step → Option Entry
  | entry e => some e
  | _ => none

namespace RunState

/-- The state behind a step, whether or not it fails. -/
def next (s : RunState) (step : Step) : RunState := left (step.run s)

/-- The state behind steps in turn. -/
def after (s : RunState) (steps : List Step) : RunState := steps.foldl next s

@[simp] theorem after_nil (s : RunState) : s.after [] = s := rfl

@[simp] theorem after_cons (s : RunState) (step : Step) (steps : List Step) :
    s.after (step :: steps) = (s.next step).after steps := rfl

theorem after_append (s : RunState) (earlier later : List Step) :
    s.after (earlier ++ later) = (s.after earlier).after later := List.foldl_append

theorem next_of_ok {s s' : RunState} {step : Step} (h : step.run s = .ok () s') :
    s.next step = s' := by
  unfold next
  rw [h]
  rfl

theorem trail_cons (s : RunState) (step : Step) (steps : List Step) :
    s.trail (step :: steps) = step.run s :: (s.next step).trail steps := rfl

theorem trail_append (s : RunState) (earlier later : List Step) :
    s.trail (earlier ++ later) = s.trail earlier ++ (s.after earlier).trail later := by
  induction earlier generalizing s with
  | nil => rfl
  | cons step steps ih => rw [List.cons_append, trail_cons, trail_cons, ih, List.cons_append,
      after_cons]

theorem run_bindings (s : RunState) : Step.run (.phase .bindings) s =
    .ok () { s with bindings := (Phase.bindingMap? s.request).or s.bindings } := by
  obtain ⟨⟨actions, bindings, denyEmpty⟩, m, entries, unresolved, diagnostics⟩ := s
  cases bindings <;> rfl

/-- A scan looks for what it needs before it writes anything. -/
theorem run_scan (s : RunState) : Step.run (.phase .scan) s =
    match s.request.bindings, s.bindings with
    | some _, none => .error .bindingsNotRead s
    | some _, some m =>
      .ok () { s with entries := (ScanResult.ofSource (some m) s.request.actions).entries
                      unresolved := (ScanResult.ofSource (some m) s.request.actions).unresolved }
    | none, _ =>
      .ok () { s with entries := (ScanResult.ofSource none s.request.actions).entries
                      unresolved := (ScanResult.ofSource none s.request.actions).unresolved } := by
  obtain ⟨⟨actions, bindings, denyEmpty⟩, m, entries, unresolved, diagnostics⟩ := s
  cases bindings with
  | none => rfl
  | some source => cases m <;> rfl

theorem run_order (s : RunState) : Step.run (.phase .order) s =
    .ok () { s with entries := s.request.style.arrange s.entries } := by
  change EStateM.Result.ok () (if s.request.style.isSorted then
    { s with entries := Entry.sort s.entries } else s) = _
  unfold TableStyle.arrange
  split <;> rfl

/-- Only scans can fail. -/
theorem exists_run_eq_ok {p : Phase} (h : p ≠ .scan) (s : RunState) :
    ∃ s', p.run s = .ok () s' := by
  cases p with
  | bindings => exact ⟨_, s.run_bindings⟩
  | scan => exact absurd rfl h
  | validate => exact ⟨_, rfl⟩
  | order => exact ⟨_, s.run_order⟩

theorem next_bindings (s : RunState) : s.next (.phase .bindings) =
    { s with bindings := (Phase.bindingMap? s.request).or s.bindings } := next_of_ok s.run_bindings

theorem next_order (s : RunState) : s.next (.phase .order) =
    { s with entries := s.request.style.arrange s.entries } := next_of_ok s.run_order

/-- No step has changed anything when it fails. -/
theorem left_eq_of_error {s s' : RunState} {step : Step} {e : PhaseFailure}
    (h : step.run s = .error e s') : s' = s := by
  cases step with
  | phase p =>
    cases p with
    | bindings => cases s.run_bindings.symm.trans h
    | scan =>
      rw [run_scan] at h
      split at h
      next => cases h; rfl
      next => cases h
      next => cases h
    | validate => cases h
    | order => cases s.run_order.symm.trans h
  | fail message => cases h; rfl
  | _ => cases h

/-- A scan sets what was found and unresolved, or fails and sets nothing. -/
theorem next_scan (s : RunState) : s.next (.phase .scan) = s ∨
    ∃ found : ScanResult, s.next (.phase .scan) =
      { s with entries := found.entries, unresolved := found.unresolved } := by
  unfold next
  rw [run_scan]
  cases s.request.bindings with
  | none => exact Or.inr ⟨_, rfl⟩
  | some source =>
    cases s.bindings with
    | none => exact Or.inl rfl
    | some m => exact Or.inr ⟨_, rfl⟩

@[simp] theorem request_next_phase (s : RunState) (p : Phase) :
    (s.next (.phase p)).request = s.request := by
  cases p with
  | bindings => rw [next_bindings]
  | scan => rcases s.next_scan with h | ⟨found, h⟩ <;> rw [h]
  | validate => rfl
  | order => rw [next_order]

/-- No step changes the sources. -/
theorem sources_next (s : RunState) (step : Step) :
    (s.next step).request.actions = s.request.actions ∧
      (s.next step).request.bindings = s.request.bindings := by
  cases step with
  | phase p => rw [request_next_phase]; exact ⟨rfl, rfl⟩
  | _ => exact ⟨rfl, rfl⟩

theorem style_next (s : RunState) (step : Step) :
    (s.next step).request.style = s.request.style := by
  unfold Request.style
  rw [(s.sources_next step).2]

theorem style_after (s : RunState) (steps : List Step) :
    (s.after steps).request.style = s.request.style := by
  induction steps generalizing s with
  | nil => rfl
  | cons step steps ih => rw [after_cons, ih, style_next]

/-- Diagnostics are added at the end and never taken away. -/
theorem diagnostics_prefix_next (s : RunState) (step : Step) :
    s.diagnostics <+: (s.next step).diagnostics := by
  cases step with
  | phase p =>
    cases p with
    | bindings => rw [next_bindings]
    | scan => rcases s.next_scan with h | ⟨found, h⟩ <;> rw [h]
    | validate => exact List.prefix_append _ _
    | order => rw [next_order]
  | diagnostic d => exact List.prefix_append _ _
  | _ => exact List.prefix_refl _

theorem diagnostics_prefix_after (s : RunState) (steps : List Step) :
    s.diagnostics <+: (s.after steps).diagnostics := by
  induction steps generalizing s with
  | nil => exact List.prefix_refl _
  | cons step steps ih => exact (s.diagnostics_prefix_next step).trans (ih _)

/-- Steps other than scans and orders do nothing to entries but add to them. -/
theorem entries_next {s : RunState} {step : Step} (hscan : step ≠ .phase .scan)
    (horder : step ≠ .phase .order) :
    (s.next step).entries = s.entries ++ step.entry?.toList := by
  cases step with
  | phase p =>
    cases p with
    | bindings => rw [next_bindings]; exact (List.append_nil _).symm
    | scan => exact absurd rfl hscan
    | validate => exact (List.append_nil _).symm
    | order => exact absurd rfl horder
  | entry e => rfl
  | _ => exact (List.append_nil _).symm

theorem entries_after {s : RunState} {steps : List Step} (hscan : .phase .scan ∉ steps)
    (horder : .phase .order ∉ steps) :
    (s.after steps).entries = s.entries ++ steps.filterMap Step.entry? := by
  induction steps generalizing s with
  | nil => simp
  | cons step steps ih =>
    rw [List.mem_cons, not_or] at hscan horder
    rw [after_cons, ih hscan.2 horder.2, entries_next (Ne.symm hscan.1) (Ne.symm horder.1),
      List.append_assoc]
    congr 1
    cases h : step.entry? <;> simp [h]

/-- Up to their order, orders in between make no difference. -/
theorem arrange_entries_after {s : RunState} {steps : List Step} (h : .phase .scan ∉ steps) :
    s.request.style.arrange (s.after steps).entries =
      s.request.style.arrange (s.entries ++ steps.filterMap Step.entry?) := by
  induction steps using List.reverseRecOn with
  | nil => simp
  | append_singleton steps step ih =>
    obtain ⟨hsteps, hstep⟩ : .phase .scan ∉ steps ∧ step ≠ .phase .scan := by
      simpa [eq_comm] using h
    have ih := ih hsteps
    have hlast : s.after (steps ++ [step]) = (s.after steps).next step :=
      after_append s steps [step]
    rw [hlast, List.filterMap_append]
    by_cases ho : step = .phase .order
    · have hnone : [Step.phase .order].filterMap Step.entry? = [] := rfl
      rw [ho, next_order, style_after, TableStyle.arrange_arrange, ih, hnone, List.append_nil]
    · rw [entries_next hstep ho, ← TableStyle.arrange_arrange_append, ih,
        TableStyle.arrange_arrange_append, List.append_assoc]
      cases he : step.entry? <;> simp [he]

/-- What entries come to if the last of several orders is known. -/
theorem entries_after_order {s : RunState} {earlier later : List Step}
    (hearlier : .phase .scan ∉ earlier) (hlater : .phase .scan ∉ later)
    (horder : .phase .order ∉ later) :
    (s.after (earlier ++ .phase .order :: later)).entries =
      s.request.style.arrange (s.entries ++ earlier.filterMap Step.entry?) ++
        later.filterMap Step.entry? := by
  rw [after_append, after_cons, entries_after hlater horder, next_order, style_after]
  exact congrArg (· ++ _) (arrange_entries_after hearlier)

end RunState

open RunState

namespace Request

/-- The state behind steps of a run, whichever they are. -/
def stateBehind (r : Request) (past : List Step) : RunState := (RunState.start r).after past

theorem stateBehind_concat (r : Request) (past : List Step) (step : Step) :
    r.stateBehind (past ++ [step]) = (r.stateBehind past).next step := after_append _ _ _

/-- A state that has the sources of a request, and their bindings if a bindings step came before. -/
structure Reached (r : Request) (past : List Step) (s : RunState) : Prop where
  actions_eq : s.request.actions = r.actions
  source_eq : s.request.bindings = r.bindings
  bindings_eq : s.bindings =
    if .phase .bindings ∈ past then r.bindings.map fun source => BindingMap.ofLines source.lines
    else none

namespace Reached

variable {r : Request} {past : List Step} {s : RunState}

/-- Only bindings steps touch the bindings. -/
theorem bindings_next {step : Step} (h : step ≠ .phase .bindings) :
    (s.next step).bindings = s.bindings := by
  cases step with
  | phase p =>
    cases p with
    | bindings => exact absurd rfl h
    | scan => rcases s.next_scan with h | ⟨found, h⟩ <;> rw [h]
    | validate => rfl
    | order => rw [next_order]
  | _ => rfl

theorem step (h : Reached r past s) (step : Step) : Reached r (past ++ [step]) (s.next step) := by
  obtain ⟨hactions, hsource⟩ := s.sources_next step
  refine ⟨hactions.trans h.actions_eq, hsource.trans h.source_eq, ?_⟩
  by_cases hs : step = .phase .bindings
  · have hmap : Phase.bindingMap? s.request =
        r.bindings.map fun source => BindingMap.ofLines source.lines := by
      unfold Phase.bindingMap?
      rw [h.source_eq]
    rw [hs, next_bindings, if_pos (by simp)]
    dsimp only
    rw [hmap, h.bindings_eq]
    split <;> cases r.bindings <;> rfl
  · have hmem : .phase .bindings ∈ past ++ [step] ↔ .phase .bindings ∈ past := by
      simp [Ne.symm hs]
    rw [bindings_next hs, h.bindings_eq]
    simp only [hmem]

theorem stateBehind (r : Request) (past : List Step) : Reached r past (r.stateBehind past) := by
  induction past using List.reverseRecOn with
  | nil => exact ⟨rfl, rfl, rfl⟩
  | append_singleton past step ih =>
    rw [stateBehind_concat]
    exact ih.step step

theorem style_eq (h : Reached r past s) : s.request.style = r.style := by
  unfold style
  rw [h.source_eq]

/-- A scan fails if references are to be read and no bindings step came before, and else finds what
the sources hold. -/
theorem scan_run (h : Reached r past s) : Phase.scan.run s =
    if r.bindings.isSome ∧ .phase .bindings ∉ past then .error .bindingsNotRead s
    else .ok () { s with entries := r.found.entries, unresolved := r.found.unresolved } := by
  have hbindings := h.bindings_eq
  unfold found Phase.bindingMap?
  change Step.run (.phase .scan) s = _
  rw [run_scan, h.source_eq, h.actions_eq]
  cases hb : r.bindings with
  | none => simp
  | some source =>
    rw [hb] at hbindings
    by_cases hm : .phase .bindings ∈ past
    · rw [if_pos hm] at hbindings
      rw [hbindings, if_neg (by simp [hm])]
      rfl
    · rw [if_neg hm] at hbindings
      rw [hbindings, if_pos ⟨rfl, hm⟩]

end Reached

theorem scan_run_eq_ok {r : Request} {past : List Step} {s' : RunState}
    (h : Phase.scan.run (r.stateBehind past) = .ok () s') :
    s' = { r.stateBehind past with
      entries := r.found.entries, unresolved := r.found.unresolved } := by
  rw [(Reached.stateBehind r past).scan_run] at h
  split at h
  next => cases h
  next => cases h; rfl

/-- A scan fails where the bindings that it needs are missing, with everything as it was. -/
theorem scan_run_eq_error_iff {r : Request} {past : List Step} {e : PhaseFailure} {s' : RunState} :
    Phase.scan.run (r.stateBehind past) = .error e s' ↔
      e = .bindingsNotRead ∧ s' = r.stateBehind past ∧ r.bindings.isSome ∧
        .phase .bindings ∉ past := by
  rw [(Reached.stateBehind r past).scan_run]
  split
  next hmissing => simp [hmissing, eq_comm]
  next hfound => exact iff_of_false (fun h => nomatch h) fun h => hfound ⟨h.2.2.1, h.2.2.2⟩

/-- The entries behind a scan and an order, wherever the entries in between and behind came from. -/
theorem entries_behind_scan {r : Request} {past earlier later : List Step} {s' : RunState}
    (h : Phase.scan.run (r.stateBehind past) = .ok () s') (hearlier : .phase .scan ∉ earlier)
    (hlater : .phase .scan ∉ later) (horder : .phase .order ∉ later) :
    (r.stateBehind (past ++ .phase .scan :: (earlier ++ .phase .order :: later))).entries =
      r.style.arrange (r.found.entries ++ earlier.filterMap Step.entry?) ++
        later.filterMap Step.entry? := by
  have hnext : (r.stateBehind past).next (.phase .scan) = s' := next_of_ok h
  have hstate : r.stateBehind (past ++ .phase .scan :: (earlier ++ .phase .order :: later)) =
      s'.after (earlier ++ .phase .order :: later) := by
    rw [← hnext]
    exact after_append _ _ _
  have hs := scan_run_eq_ok h
  have hstyle : s'.request.style = r.style := by
    rw [hs]
    exact (Reached.stateBehind r past).style_eq
  rw [hstate, entries_after_order hearlier hlater horder, hstyle, hs]

/-- A split at the last of several occurrences. -/
theorem exists_last_split {step : Step} {steps : List Step} (h : step ∈ steps) :
    ∃ earlier later, steps = earlier ++ step :: later ∧ step ∉ later := by
  obtain ⟨as, bs, hs, hn⟩ := List.eq_append_cons_of_mem (List.mem_reverse.mpr h)
  refine ⟨bs.reverse, as.reverse, ?_, by simpa using hn⟩
  rw [← List.reverse_reverse steps, hs]
  simp

/-- Steps that add no entries leave the table of a full run, if an order is among them. -/
theorem table_behind_scan {r : Request} {past later : List Step} {s' : RunState}
    (h : Phase.scan.run (r.stateBehind past) = .ok () s') (hscan : .phase .scan ∉ later)
    (horder : .phase .order ∈ later) (hentry : later.filterMap Step.entry? = []) :
    (r.stateBehind (past ++ .phase .scan :: later)).table = r.finished.table := by
  obtain ⟨earlier, rest, rfl, hrest⟩ := exists_last_split horder
  rw [List.mem_append, List.mem_cons, not_or, not_or] at hscan
  rw [List.filterMap_append, List.append_eq_nil_iff] at hentry
  have hentries := entries_behind_scan h hscan.1 hscan.2.2 hrest
  have hlater : rest.filterMap Step.entry? = [] := hentry.2
  rw [hentry.1, hlater, List.append_nil, List.append_nil] at hentries
  have hstyle := (Reached.stateBehind r
    (past ++ .phase .scan :: (earlier ++ .phase .order :: rest))).style_eq
  unfold RunState.table
  rw [hentries, hstyle]
  rfl

/-- Phases and other steps may come in any order. A step starts from what the steps before it left,
and one that fails has changed nothing. Behind any steps, the bindings are those of the request's
source if a bindings step came before; a scan fails exactly where these are missing, and no other
phase fails; diagnostics stay and others follow; a scan that does not fail finds what the sources
hold. If orders follow the last scan, entries that other steps add are put in order by the last of
them or stand behind it; if there are no such entries, the table is that of a full run. -/
theorem steps_in_any_order (r : Request) (past : List Step) :
    (∀ step later, (RunState.start r).trail (past ++ step :: later) =
      (RunState.start r).trail past ++ step.run (r.stateBehind past) ::
        (r.stateBehind (past ++ [step])).trail later) ∧
    (r.stateBehind past).bindings = (if .phase .bindings ∈ past then
      r.bindings.map fun source => BindingMap.ofLines source.lines else none) ∧
    (∀ e s', Phase.scan.run (r.stateBehind past) = .error e s' ↔
      e = .bindingsNotRead ∧ s' = r.stateBehind past ∧ r.bindings.isSome ∧
        .phase .bindings ∉ past) ∧
    (∀ step e s', step.run (r.stateBehind past) = .error e s' →
      s' = r.stateBehind past ∧ r.stateBehind (past ++ [step]) = s') ∧
    (∀ p, p ≠ Phase.scan → ∃ s', p.run (r.stateBehind past) = .ok () s') ∧
    (∀ later, (r.stateBehind past).diagnostics <+: (r.stateBehind (past ++ later)).diagnostics) ∧
    ∀ s', Phase.scan.run (r.stateBehind past) = .ok () s' →
      r.stateBehind (past ++ [.phase .scan]) = s' ∧
      s'.entries = r.found.entries ∧ s'.unresolved = r.found.unresolved ∧
      (∀ earlier later, .phase .scan ∉ earlier → .phase .scan ∉ later → .phase .order ∉ later →
        (r.stateBehind (past ++ .phase .scan :: (earlier ++ .phase .order :: later))).entries =
          r.style.arrange (r.found.entries ++ earlier.filterMap Step.entry?) ++
            later.filterMap Step.entry?) ∧
      ∀ later, .phase .scan ∉ later → .phase .order ∈ later → later.filterMap Step.entry? = [] →
        ∃ full, r.run = .ok full ∧
          (r.stateBehind (past ++ .phase .scan :: later)).table = full.table := by
  have hreached := Reached.stateBehind r past
  refine ⟨?_, hreached.bindings_eq, fun e s' => scan_run_eq_error_iff, ?_, ?_, ?_, ?_⟩
  · intro step later
    rw [trail_append, trail_cons, stateBehind_concat]
    rfl
  · intro step e s' h
    refine ⟨left_eq_of_error h, ?_⟩
    rw [stateBehind_concat]
    unfold next
    rw [h]
    rfl
  · exact fun p hp => exists_run_eq_ok hp _
  · intro later
    have hlater : r.stateBehind (past ++ later) = (r.stateBehind past).after later :=
      after_append _ _ _
    rw [hlater]
    exact diagnostics_prefix_after _ later
  · intro s' h
    have hs := scan_run_eq_ok h
    refine ⟨?_, by rw [hs], by rw [hs], ?_, ?_⟩
    · rw [stateBehind_concat]
      exact next_of_ok h
    · exact fun earlier later he hl ho => entries_behind_scan h he hl ho
    · exact fun later hscan horder hentry =>
        ⟨r.finished, r.run_eq, table_behind_scan h hscan horder hentry⟩

def unsortedDoors : Request := ⟨⟨"a.c", Text.ofLines Table.unsortedDoorLines⟩, none, false⟩

/-- A reference to a bound name. -/
def boundDoor : Request where
  actions := ⟨"a.c", "// Implements Door(tag)\n"⟩
  bindings := some ⟨"b.c", "ev_binding_t HexenBindings[] =\nLINESPECNAMED(1, A, \"Door\")\n"⟩
  denyEmpty := false

/-- A scan that comes too early changes nothing. An entry added before a scan is lost, one added
between the scan and an order stands behind what the scan found, and the order sorts the entries of
blocks. -/
theorem doors_behind_steps :
    Phase.scan.run (boundDoor.stateBehind [.entry ⟨⟨"7"⟩, "Gate", 1⟩]) =
        .error .bindingsNotRead (boundDoor.stateBehind [.entry ⟨⟨"7"⟩, "Gate", 1⟩]) ∧
      (boundDoor.stateBehind [.entry ⟨⟨"7"⟩, "Gate", 1⟩]).entries = [⟨⟨"7"⟩, "Gate", 1⟩] ∧
      (boundDoor.stateBehind ([.phase .scan, .entry ⟨⟨"7"⟩, "Gate", 1⟩, .phase .bindings] ++
        .phase .scan :: ([.entry ⟨⟨"8"⟩, "Lift", 0⟩] ++ .phase .order :: []))).entries =
          [⟨⟨"1"⟩, "Door", 1⟩, ⟨⟨"8"⟩, "Lift", 0⟩] ∧
      ∃ full, unsortedDoors.run = .ok full ∧ full.table = ⟨.sorted, Table.sortedDoors⟩ ∧
        (unsortedDoors.stateBehind ([.entry ⟨⟨"7"⟩, "Gate", 1⟩, .phase .order, .fail "stop"] ++
          .phase .scan :: [.phase .validate, .phase .order, .denyEmpty true])).table =
            full.table := by
  obtain ⟨-, -, hearly, -⟩ := boundDoor.steps_in_any_order [.entry ⟨⟨"7"⟩, "Gate", 1⟩]
  obtain ⟨-, -, -, -, -, -, hbound⟩ := boundDoor.steps_in_any_order
    [.phase .scan, .entry ⟨⟨"7"⟩, "Gate", 1⟩, .phase .bindings]
  obtain ⟨-, -, -, -, -, -, hunsorted⟩ := unsortedDoors.steps_in_any_order
    [.entry ⟨⟨"7"⟩, "Gate", 1⟩, .phase .order, .fail "stop"]
  refine ⟨(hearly _ _).mpr ⟨rfl, rfl, rfl, by decide⟩, rfl, ?_, ?_⟩
  · rw [(hbound _ rfl).2.2.2.1 [.entry ⟨⟨"8"⟩, "Lift", 0⟩] [] (by decide) (by decide) (by decide)]
    decide +kernel
  · obtain ⟨full, hrun, htable⟩ := (hunsorted _ rfl).2.2.2.2
      [.phase .validate, .phase .order, .denyEmpty true] (by decide) (by decide) (by decide)
    refine ⟨full, hrun, ?_, htable⟩
    have hfull := Except.ok.inj (hrun.symm.trans unsortedDoors.run_eq)
    rw [hfull]
    exact congrArg (Table.mk .sorted) Table.sort_unsortedDoors

end Request

end LineSpecials
