import LineSpecials.Run

namespace LineSpecials.Request

/-- What the action source of a request holds, by the request's binding map if it has one. -/
def found (r : Request) : ScanResult := ScanResult.ofSource (Phase.bindingMap? r) r.actions

/-- The state in which a run reports its findings. -/
def scanned (r : Request) : RunState :=
  ⟨r, Phase.bindingMap? r, r.found.entries, r.found.unresolved, []⟩

/-- The state at the end of a run. -/
def finished (r : Request) : RunState :=
  { r.scanned with
    entries := if r.style.isSorted then Entry.sort r.found.entries else r.found.entries
    diagnostics := Phase.findings r.scanned }

theorem run_eq (r : Request) : r.run = .ok r.finished := by
  obtain ⟨actions, bindings, denyEmpty⟩ := r
  cases bindings with
  | none => rfl
  | some source => rfl

theorem mem_entries_finished {r : Request} {e : Entry} :
    e ∈ r.finished.entries ↔ e ∈ r.found.entries := by
  unfold finished
  dsimp only
  split
  next => exact List.mem_mergeSort
  next => exact Iff.rfl

/-- The diagnostics at the end of a run are told by the paths of the sources and by what was read. -/
theorem diagnostics_finished (r : Request) : r.finished.diagnostics =
    (match r.bindings.map (·.path), Phase.bindingMap? r with
      | some path, some m => m.repeated.map (Phase.repeatedRow path)
      | _, _ => []) ++
    r.found.unresolved.map (Phase.unboundName r.actions.path) ++
    (if r.found.entries.isEmpty then [Phase.emptyTable r] else []) := by
  obtain ⟨actions, bindings, denyEmpty⟩ := r
  cases bindings <;> rfl

end LineSpecials.Request
