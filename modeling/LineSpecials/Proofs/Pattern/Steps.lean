import LineSpecials.Proofs.Pattern.Leads
import Mathlib.Data.Set.Basic

namespace LineSpecials.Pattern

namespace Marks

/-- The marked places. -/
def set (m : Marks) : Set Nat := {i | m[i]? = some true}

/-- No mark lies behind `bound`. -/
def Within (bound : Nat) (m : Marks) : Prop := ∀ i ∈ m.set, i ≤ bound

variable {m n : Marks} {i j : Nat}

theorem mem_set_iff : i ∈ m.set ↔ m[i]? = some true := Iff.rfl

theorem notMem_set_nil : i ∉ set [] := by simp [mem_set_iff]

theorem inhabited_iff : m.inhabited = true ↔ ∃ i, i ∈ m.set := by
  simp only [inhabited, List.any_eq_true, id, exists_eq_right, mem_set_iff]
  exact List.mem_iff_getElem?

theorem set_eq_empty (h : ¬ m.inhabited = true) : m.set = ∅ :=
  Set.eq_empty_of_forall_notMem fun i hi => h (inhabited_iff.mpr ⟨i, hi⟩)

theorem mem_either_iff : i ∈ (m.either n).set ↔ i ∈ m.set ∨ i ∈ n.set := by
  fun_induction either m n generalizing i with
  | case1 n => simp [notMem_set_nil]
  | case2 m => simp [notMem_set_nil]
  | case3 b m c n ih =>
    cases i with
    | zero => simp [mem_set_iff]
    | succ i => simpa [mem_set_iff] using ih

theorem mem_without_iff : i ∈ (m.without n).set ↔ i ∈ m.set ∧ i ∉ n.set := by
  fun_induction without m n generalizing i with
  | case1 n => simp [notMem_set_nil]
  | case2 m => simp [notMem_set_nil]
  | case3 b m c n ih =>
    cases i with
    | zero => simp [mem_set_iff]
    | succ i => simpa [mem_set_iff] using ih

theorem Within.without (h : m.Within i) (n : Marks) : (m.without n).Within i :=
  fun _ hj => h _ (mem_without_iff.mp hj).1

theorem set_either : (m.either n).set = m.set ∪ n.set := Set.ext fun _ => mem_either_iff

theorem set_without : (m.without n).set = m.set \ n.set := Set.ext fun _ => mem_without_iff

theorem mem_zipWith_and_iff :
    i ∈ set (List.zipWith (· && ·) m n) ↔ i ∈ m.set ∧ i ∈ n.set := by
  simp only [mem_set_iff, List.getElem?_zipWith_eq_some, Bool.and_eq_true]
  constructor
  · rintro ⟨b, c, hb, hc, rfl, rfl⟩
    exact ⟨hb, hc⟩
  · rintro ⟨hb, hc⟩
    exact ⟨true, true, hb, hc, rfl, rfl⟩

end Marks

variable {t : Text} {i j : Nat} {m : Marks}

theorem mem_places_iff {a : Anchor} :
    i ∈ (places a t).set ↔ i ≤ t.length ∧ a.holds (t.take i).getLast? t[i]? := by
  have hbefore : i ≤ t.length →
      (none :: t.map some : List (Option Char))[i]? = some (t.take i).getLast? := by
    intro hi
    cases i with
    | zero => rfl
    | succ i =>
      rw [List.take_succ_eq_append_getElem (by omega), List.getLast?_concat,
        List.getElem?_cons_succ, List.getElem?_map, List.getElem?_eq_getElem (by omega),
        Option.map_some]
  have hafter : i ≤ t.length → (t.map some ++ [none])[i]? = some t[i]? := by
    intro hi
    rcases Nat.eq_or_lt_of_le hi with rfl | hlt
    · simp
    · rw [List.getElem?_append_left (by simpa using hlt), List.getElem?_map,
        List.getElem?_eq_getElem hlt, Option.map_some]
  simp only [places, Marks.mem_set_iff, List.getElem?_zipWith_eq_some]
  constructor
  · rintro ⟨before, after, hb, ha, hholds⟩
    have hi : i ≤ t.length := by
      have := (List.getElem?_eq_some_iff.mp hb).1
      simp only [List.length_cons, List.length_map] at this
      omega
    obtain rfl := Option.some.inj (hb.symm.trans (hbefore hi))
    obtain rfl := Option.some.inj (ha.symm.trans (hafter hi))
    exact ⟨hi, hholds⟩
  · rintro ⟨hi, hholds⟩
    exact ⟨_, _, hbefore hi, hafter hi, hholds⟩

theorem cons_prefix_drop_iff {c : Char} {w : Text} :
    c :: w <+: t.drop i ↔ t[i]? = some c ∧ w <+: t.drop (i + 1) := by
  rw [← List.head?_drop, ← List.tail_drop]
  cases t.drop i with
  | nil => simp
  | cons d r => simp [List.cons_prefix_cons, eq_comm]

theorem mem_advance_iff {p : Char → Bool} :
    j ∈ (advance t p m).set ↔ ∃ i c, i ∈ m.set ∧ t[i]? = some c ∧ p c ∧ j = i + 1 := by
  cases j with
  | zero => simp [advance, Marks.mem_set_iff]
  | succ j =>
    simp only [advance, Marks.mem_set_iff, List.getElem?_cons_succ, List.getElem?_zipWith_eq_some,
      Bool.and_eq_true, Nat.add_right_cancel_iff]
    constructor
    · rintro ⟨b, c, hb, hc, rfl, hp⟩
      exact ⟨j, c, hb, hc, hp, rfl⟩
    · rintro ⟨i, c, hi, hc, hp, rfl⟩
      exact ⟨true, c, hi, hc, rfl, hp⟩

theorem mem_foldl_advance_iff {w : Text} :
    j ∈ Marks.set (w.foldl (fun m c => advance t (· == c) m) m) ↔
      ∃ i, i ∈ m.set ∧ w <+: t.drop i ∧ j = i + w.length := by
  induction w generalizing m with
  | nil => simp
  | cons c w ih =>
    rw [List.foldl_cons, ih]
    simp only [mem_advance_iff, cons_prefix_drop_iff, List.length_cons]
    constructor
    · rintro ⟨_, ⟨i, d, hi, hd, hdc, rfl⟩, hw, rfl⟩
      obtain rfl := beq_iff_eq.mp hdc
      exact ⟨i, hi, ⟨hd, hw⟩, by omega⟩
    · rintro ⟨i, hi, ⟨hd, hw⟩, rfl⟩
      exact ⟨i + 1, ⟨i, c, hi, hd, by simp, rfl⟩, hw, by omega⟩

/-- What a step remembers, here a state of `σ`, knows places that the step has gone on from. What
these lead to may be left out from then on, and nothing else. -/
structure Remembers {σ : Type} (bound : Nat) (step : σ → Marks → Marks × σ)
    (R : Nat → Nat → Prop) (Knows : σ → Set Nat → Prop) : Prop where
  knows : ∀ {s seen m}, Knows s seen → m.Within bound → Knows (step s m).2 (seen ∪ m.set)
  reaches : ∀ {s seen m i j}, Knows s seen → m.Within bound → i ∈ m.set → R i j →
    j ∈ (step s m).1.set ∨ ∃ k ∈ seen, R k j

/-- A step leads where a relation does, as far as it has not led there before. -/
structure Follows {σ : Type} (bound : Nat) (start : σ) (step : σ → Marks → Marks × σ)
    (R : Nat → Nat → Prop) : Prop where
  sound : ∀ {s m j}, m.Within bound → j ∈ (step s m).1.set → ∃ i ∈ m.set, R i j
  complete : ∃ Knows, Knows start ∅ ∧ Remembers bound step R Knows

namespace Follows

section

variable {σ : Type} {bound : Nat} {start : σ} {step : σ → Marks → Marks × σ}
  {R Q : Nat → Nat → Prop}

theorem within (h : Follows bound start step R) (hR : Onward bound R) {s : σ}
    (hm : m.Within bound) : (step s m).1.Within bound := by
  intro j hj
  obtain ⟨i, hi, hij⟩ := h.sound hm hj
  exact (hR hij (hm i hi)).2

/-- A step that leads everywhere each time has nothing to remember. -/
theorem of_forall_iff
    (h : ∀ {s m j}, m.Within bound → (j ∈ (step s m).1.set ↔ ∃ i ∈ m.set, R i j)) :
    Follows bound start step R where
  sound hm := (h hm).mp
  complete := by
    refine ⟨fun _ _ => True, trivial, fun _ _ => trivial, ?_⟩
    intro s seen m i j _ hm hi hij
    exact .inl ((h hm).mpr ⟨i, hi, hij⟩)

theorem congr (h : Follows bound start step R) (hRQ : ∀ i j, i ≤ bound → (R i j ↔ Q i j)) :
    Follows bound start step Q where
  sound {s m j} hm hj := by
    obtain ⟨i, hi, hij⟩ := h.sound hm hj
    exact ⟨i, hi, (hRQ i j (hm i hi)).mp hij⟩
  complete := by
    obtain ⟨K, hstart, hK⟩ := h.complete
    refine ⟨fun s seen => K s seen ∧ ∀ i ∈ seen, i ≤ bound, ⟨hstart, by simp⟩, ?_, ?_⟩
    · rintro s seen m ⟨hk, hseen⟩ hm
      exact ⟨hK.knows hk hm, fun i hi => hi.elim (hseen i) (hm i)⟩
    · rintro s seen m i j ⟨hk, hseen⟩ hm hi hij
      refine (hK.reaches hk hm hi ((hRQ i j (hm i hi)).mpr hij)).imp_right ?_
      rintro ⟨k, hk, hkj⟩
      exact ⟨k, hk, (hRQ k j (hseen k hk)).mp hkj⟩

/-- A step that may as well not be taken. -/
theorem orStay (h : Follows bound start step R) :
    Follows bound start
      (fun s m => let (further, s) := step s m
        (m.either further, s)) (fun i j => i = j ∨ R i j) where
  sound {s m j} hm hj := by
    rcases Marks.mem_either_iff.mp hj with hj | hj
    · exact ⟨j, hj, .inl rfl⟩
    · obtain ⟨i, hi, hij⟩ := h.sound hm hj
      exact ⟨i, hi, .inr hij⟩
  complete := by
    obtain ⟨K, hstart, hK⟩ := h.complete
    refine ⟨K, hstart, hK.knows, ?_⟩
    rintro s seen m i j hk hm hi (rfl | hij)
    · exact .inl (Marks.mem_either_iff.mpr (.inl hi))
    · rcases hK.reaches hk hm hi hij with hj | ⟨k, hk, hkj⟩
      · exact .inl (Marks.mem_either_iff.mpr (.inr hj))
      · exact .inr ⟨k, hk, .inr hkj⟩

end

variable {bound : Nat} {step : Step} {rest : List Trace → Marks → Marks × List Trace}
  {R Q : Nat → Nat → Prop}

/-- What a step and the steps that take on from it remember, where these have gone on from places
that the step led to. -/
def KnowsFirst (R : Nat → Nat → Prop) (K : Trace → Set Nat → Prop)
    (L : List Trace → Set Nat → Prop) (traces : List Trace) (seen : Set Nat) : Prop :=
  K (traces.headD .start) seen ∧ ∃ later, (∀ k ∈ later, ∃ i ∈ seen, R i k) ∧ L traces.tail later

theorem from_union (h : Follows bound Trace.start step R) (hm : m.Within bound) {s : Trace}
    {seen later next : Set Nat} (hlater : ∀ k ∈ later, ∃ i ∈ seen, R i k)
    (hnext : next ⊆ (step s m).1.set) : ∀ k ∈ later ∪ next, ∃ i ∈ seen ∪ m.set, R i k := by
  rintro k (hk | hk)
  · obtain ⟨i, hi, hik⟩ := hlater k hk
    exact ⟨i, .inl hi, hik⟩
  · obtain ⟨i, hi, hik⟩ := h.sound hm (hnext hk)
    exact ⟨i, .inr hi, hik⟩

theorem followed (h : Follows bound Trace.start step R) (hR : Onward bound R)
    (hrest : Follows bound [] rest Q) :
    Follows bound [] (step.followed rest) (Relation.Comp R Q) where
  sound {traces m j} hm hj := by
    by_cases hne : m.inhabited
    · rw [Step.followed, if_pos hne] at hj
      obtain ⟨k, hk, hkj⟩ := hrest.sound (h.within hR hm) hj
      obtain ⟨i, hi, hik⟩ := h.sound hm hk
      exact ⟨i, hi, k, hik, hkj⟩
    · rw [Step.followed, if_neg hne] at hj
      exact absurd hj Marks.notMem_set_nil
  complete := by
    obtain ⟨K, hstart, hK⟩ := h.complete
    obtain ⟨L, hstart', hL⟩ := hrest.complete
    refine ⟨KnowsFirst R K L, ⟨hstart, ∅, by simp, hstart'⟩, ?_, ?_⟩
    · rintro traces seen m ⟨hk, later, hlater, hl⟩ hm
      by_cases hne : m.inhabited
      · rw [Step.followed, if_pos hne]
        exact ⟨hK.knows hk hm, _, h.from_union hm hlater subset_rfl,
          hL.knows hl (h.within hR hm)⟩
      · rw [Step.followed, if_neg hne, Marks.set_eq_empty hne, Set.union_empty]
        exact ⟨hk, later, hlater, hl⟩
    · rintro traces seen m i j ⟨hk, later, hlater, hl⟩ hm hi ⟨k, hik, hkj⟩
      rw [Step.followed, if_pos (Marks.inhabited_iff.mpr ⟨i, hi⟩)]
      rcases hK.reaches hk hm hi hik with hreached | ⟨x, hx, hxk⟩
      · refine (hL.reaches hl (h.within hR hm) hreached hkj).imp_right ?_
        rintro ⟨y, hy, hyj⟩
        obtain ⟨x, hx, hxy⟩ := hlater y hy
        exact ⟨x, hx, y, hxy, hyj⟩
      · exact .inr ⟨x, hx, k, hxk, hkj⟩

theorem steps (h : Follows bound Trace.start step R) (hR : Onward bound R)
    (hrest : Follows bound [] rest Q) (n : Nat) :
    Follows bound [] (steps step rest n) (Relation.Comp (Iterated R n) Q) := by
  induction n with
  | zero => rw [Iterated, Relation.eq_comp]; exact hrest
  | succ n ih => rw [Iterated, Relation.comp_assoc]; exact h.followed hR ih

/-- A step that remembers itself under the first of several traces. -/
theorem first (h : Follows bound Trace.start step R) :
    Follows bound []
      (fun traces m => let (further, trace) := step (traces.headD .start) m
        (further, trace :: traces.tail)) R where
  sound hm hj := h.sound hm hj
  complete := by
    obtain ⟨K, hstart, hK⟩ := h.complete
    exact ⟨fun traces seen => K (traces.headD .start) seen, hstart, hK.knows, hK.reaches⟩

/-- Steps that remember themselves as the parts of one trace. -/
theorem parts (h : Follows bound [] rest Q) :
    Follows bound Trace.start (fun ⟨passed, traces⟩ m => let (m, traces) := rest traces m
      (m, ⟨passed, traces⟩)) Q where
  sound {trace m j} hm hj := by
    obtain ⟨passed, traces⟩ := trace
    exact h.sound hm hj
  complete := by
    obtain ⟨K, hstart, hK⟩ := h.complete
    refine ⟨fun | ⟨_, traces⟩, seen => K traces seen, hstart, ?_, ?_⟩
    · rintro ⟨passed, traces⟩ seen m hk hm
      exact hK.knows hk hm
    · rintro ⟨passed, traces⟩ seen m i j hk hm hi hij
      exact hK.reaches hk hm hi hij

/-- A step next to others from the same places. -/
theorem either (h : Follows bound Trace.start step R) (hrest : Follows bound [] rest Q) :
    Follows bound [] (fun traces m =>
      let (reached, trace) := step (traces.headD .start) m
      let (others, rest) := rest traces.tail m
      (reached.either others, trace :: rest)) (fun i j => R i j ∨ Q i j) where
  sound {traces m j} hm hj := by
    rcases Marks.mem_either_iff.mp hj with hj | hj
    · obtain ⟨i, hi, hij⟩ := h.sound hm hj
      exact ⟨i, hi, .inl hij⟩
    · obtain ⟨i, hi, hij⟩ := hrest.sound hm hj
      exact ⟨i, hi, .inr hij⟩
  complete := by
    obtain ⟨K, hstart, hK⟩ := h.complete
    obtain ⟨L, hstart', hL⟩ := hrest.complete
    refine ⟨fun traces seen => K (traces.headD .start) seen ∧ L traces.tail seen,
      ⟨hstart, hstart'⟩, fun ⟨hk, hl⟩ hm => ⟨hK.knows hk hm, hL.knows hl hm⟩, ?_⟩
    rintro traces seen m i j ⟨hk, hl⟩ hm hi (hij | hij)
    · rcases hK.reaches hk hm hi hij with hj | ⟨x, hx, hxj⟩
      · exact .inl (Marks.mem_either_iff.mpr (.inl hj))
      · exact .inr ⟨x, hx, .inl hxj⟩
    · rcases hL.reaches hl hm hi hij with hj | ⟨x, hx, hxj⟩
      · exact .inl (Marks.mem_either_iff.mpr (.inr hj))
      · exact .inr ⟨x, hx, .inr hxj⟩

end Follows

end LineSpecials.Pattern
