import LineSpecials.Proofs.RunOutcome
import LineSpecials.Proofs.TableState
import LineSpecials.Proofs.Text.Splitting

namespace LineSpecials

/-- The wording of the warning about a repeated row. -/
def repeatedMessage (name code : Text) : Text :=
  "'".toList ++ name ++ "' is bound more than once, using code ".toList ++ code

theorem repeatedMessage_inj {name code name' code' : Text} (hname : '\'' ∉ name)
    (hcode : '\'' ∉ code) (h : repeatedMessage name code = repeatedMessage name' code') :
    name = name' ∧ code = code' := by
  have hmiddle : "' is bound more than once, using code ".toList =
      '\'' :: " is bound more than once, using code ".toList := by decide
  have hform : ∀ n c : Text, repeatedMessage n c =
      '\'' :: (n ++ '\'' :: (" is bound more than once, using code ".toList ++ c)) := by
    intro n c
    unfold repeatedMessage
    rw [hmiddle]
    simp
  have hname' : '\'' ∉ name' := by
    apply List.count_eq_zero.mp
    have hcount := congrArg (List.count '\'') h
    have hphrase : (" is bound more than once, using code ".toList).count '\'' = 0 := by decide
    simp only [hform, List.count_cons_self, List.count_append, hphrase,
      List.count_eq_zero.mpr hname, List.count_eq_zero.mpr hcode] at hcount
    omega
  rw [hform, hform] at h
  have hcut := congrArg (Text.splitOnce '\'') (List.cons.inj h).2
  rw [Text.splitOnce_append hname, Text.splitOnce_append hname'] at hcut
  obtain ⟨hn, hrest⟩ := Prod.mk.inj (Option.some.inj hcut)
  exact ⟨hn, List.append_cancel_left hrest⟩

theorem repeatedRow_message (path : Text) (b : Binding) :
    (Phase.repeatedRow path b).message = repeatedMessage b.name b.code.text := rfl

namespace BindingMap

theorem mem_repeated_of_sublist {rows : List Binding} {a b : Binding}
    (h : [a, b].Sublist rows) (hn : a.name = b.name) : b ∈ (ofRows rows).repeated := by
  obtain ⟨before, rest, rfl, ha, hb⟩ := List.cons_sublist_iff.mp h
  obtain ⟨between, after, rfl⟩ := List.append_of_mem (List.singleton_sublist.mp hb)
  refine mem_repeated_iff.mpr ⟨before ++ between, after, by simp, a, ?_, hn⟩
  exact List.mem_append_left between ha

/-- The code in use for a name is that of any of its rows or of one that comes later. -/
theorem code?_of_split {before after : List Binding} {b : Binding} :
    (ofRows (before ++ b :: after)).code? b.name = some b.code ∨
      ∃ c ∈ after, c.name = b.name ∧
        (ofRows (before ++ b :: after)).code? b.name = some c.code := by
  unfold code?
  rw [get?_ofRows]
  simp only [List.reverse_append, List.reverse_cons, List.append_assoc, List.singleton_append,
    List.find?_append]
  cases hf : after.reverse.find? (·.name == b.name) with
  | none => exact Or.inl (by simp)
  | some c =>
    have hname := List.find?_some hf
    refine Or.inr ⟨c, List.mem_reverse.mp (List.mem_of_find?_eq_some hf), by simpa using hname, ?_⟩
    simp

/-- Each repeated row has the code in use if and only if, of the rows of a name, all but the first
have the same code. -/
theorem code?_repeated_iff (rows : List Binding) :
    (∀ b ∈ (ofRows rows).repeated, (ofRows rows).code? b.name = some b.code) ↔
      ∀ a b c, [a, b, c].Sublist rows → a.name = b.name → b.name = c.name → b.code = c.code := by
  constructor
  · intro h a b c hs hab hbc
    have hb : [a, b].Sublist rows := (List.prefix_append [a, b] [c]).sublist.trans hs
    have hc : [b, c].Sublist rows := (List.sublist_cons_self a [b, c]).trans hs
    have hcodeb := h b (mem_repeated_of_sublist hb hab)
    have hcodec := h c (mem_repeated_of_sublist hc hbc)
    rw [hbc, hcodec] at hcodeb
    exact (Option.some.inj hcodeb).symm
  · intro h b hb
    obtain ⟨before, after, rfl, a, ha, hab⟩ := mem_repeated_iff.mp hb
    rcases code?_of_split with hcode | ⟨c, hc, hcb, hcode⟩
    · exact hcode
    · have hs : [a, b, c].Sublist (before ++ b :: after) :=
        (List.singleton_sublist.mpr ha).append ((List.singleton_sublist.mpr hc).cons_cons b)
      rw [hcode, h a b c hs hab hcb.symm]

end BindingMap

namespace Request

theorem quote_notin_of_mem_repeated {lines : List Text} {b : Binding}
    (h : b ∈ (BindingMap.ofLines lines).repeated) : '\'' ∉ b.name ∧ '\'' ∉ b.code.text := by
  have hrow : b ∈ (BindingMap.ofLines lines).rows := by
    unfold BindingMap.ofLines at h ⊢
    obtain ⟨before, after, hrows, -⟩ := BindingMap.mem_repeated_iff.mp h
    rw [BindingMap.rows_ofRows, hrows]
    simp
  have hb := BindingMap.wellFormed_of_mem_rows hrow
  exact ⟨fun hq => absurd (hb.name_chars _ hq) (by decide),
    fun hq => absurd (hb.code_digits _ hq) (by decide)⟩

/-- The diagnostics of a run that read as warnings about repeated rows are just these. -/
theorem warning_iff_mem_repeated {actions source : Source} {denyEmpty : Bool} {name code : Text} :
    (∃ d ∈ (finished ⟨actions, some source, denyEmpty⟩).diagnostics,
      d.severity = .warning ∧ d.message = repeatedMessage name code) ↔
    ∃ b ∈ (BindingMap.ofLines source.lines).repeated, b.name = name ∧ b.code.text = code := by
  constructor
  · rintro ⟨d, hd, hs, hm⟩
    rcases List.mem_append.mp hd with hd | hd
    · rcases List.mem_append.mp hd with hd | hd
      · obtain ⟨b, hb, rfl⟩ := List.mem_map.mp hd
        obtain ⟨hn, hc⟩ := quote_notin_of_mem_repeated hb
        rw [repeatedRow_message] at hm
        exact ⟨b, hb, repeatedMessage_inj hn hc hm⟩
      · obtain ⟨u, -, rfl⟩ := List.mem_map.mp hd
        cases hs
    · split at hd
      next =>
        rw [List.mem_singleton.mp hd] at hm
        simpa [Phase.emptyTable, repeatedMessage] using congrArg List.head? hm
      next => simp at hd
  · rintro ⟨b, hb, rfl, rfl⟩
    refine ⟨Phase.repeatedRow source.path b, ?_, rfl, rfl⟩
    exact List.mem_append_left _ (List.mem_append_left _ (List.mem_map_of_mem hb))

theorem code?_of_mem_entries {actions source : Source} {denyEmpty : Bool} {e : Entry}
    (h : e ∈ (finished ⟨actions, some source, denyEmpty⟩).entries) :
    (BindingMap.ofLines source.lines).code? e.name = some e.code := by
  obtain ⟨⟨n, ref⟩, -, he⟩ := List.mem_filterMap.mp h
  obtain ⟨code, hcode, rfl⟩ := Option.map_eq_some_iff.mp he
  exact hcode

/-- Entries carry the code in use for their name; the warnings about repeated rows name the code in
use if and only if, of the rows of a name, all but the first have the same code. -/
theorem repeated_warnings_truthful_iff (actions source : Source) (denyEmpty : Bool) :
    ∃ s m, run ⟨actions, some source, denyEmpty⟩ = .ok s ∧ s.bindings = some m ∧
      (∀ e ∈ s.entries, m.code? e.name = some e.code) ∧
      ((∀ d ∈ s.diagnostics, d.severity = .warning → ∀ name code,
          d.message = repeatedMessage name code → m.code? name = some ⟨code⟩) ↔
        ∀ a b c, [a, b, c].Sublist m.rows → a.name = b.name → b.name = c.name →
          b.code = c.code) := by
  refine ⟨_, BindingMap.ofLines source.lines, run_eq _, rfl, fun e he => code?_of_mem_entries he,
    ?_⟩
  have hrows := BindingMap.code?_repeated_iff
    ((tableEvents source.lines).filterMap (·.row?))
  unfold BindingMap.ofLines
  rw [BindingMap.rows_ofRows, ← hrows]
  constructor
  · intro h b hb
    obtain ⟨d, hd, hs, hm⟩ := warning_iff_mem_repeated.mpr ⟨b, hb, rfl, rfl⟩
    exact h d hd hs b.name b.code.text hm
  · intro h d hd hs name code hm
    obtain ⟨b, hb, rfl, rfl⟩ := warning_iff_mem_repeated.mp ⟨d, hd, hs, hm⟩
    exact h b hb

/-- A source that binds one name three times. -/
def boundThrice : Request where
  actions := ⟨"ev_actions.cpp", "// Implements Door(tag)\n"⟩
  bindings := some ⟨"ev_bindings.cpp", "ev_binding_t HexenBindings[] =\n" ++
    "LINESPECNAMED(1, A, \"Door\")\nLINESPECNAMED(2, B, \"Door\")\nLINESPECNAMED(3, C, \"Door\")\n"⟩
  denyEmpty := false

theorem boundThrice_warns_of_unused_code :
    ∃ s m, run boundThrice = .ok s ∧ s.bindings = some m ∧
      (∃ d ∈ s.diagnostics, d.severity = .warning ∧
        d.message = repeatedMessage "Door".toList "2".toList) ∧
      m.code? "Door".toList = some ⟨"3".toList⟩ := by
  exact ⟨_, _, run_eq _, rfl, by decide +kernel, by decide +kernel⟩

end Request

end LineSpecials
