import LineSpecials.Proofs.Pattern.Steps
import Mathlib.Data.Finset.Card
import Mathlib.Data.Finset.Range
import Mathlib.Data.Nat.Find

namespace LineSpecials.Pattern

namespace Follows

variable {bound : Nat} {step : Step} {R : Nat → Nat → Prop}

/-- What at most `n` steps remember. -/
def KnowsAtMost (R : Nat → Nat → Prop) (K : Trace → Set Nat → Prop) :
    Nat → List Trace → Set Nat → Prop
  | 0 => fun _ _ => True
  | n + 1 => KnowsFirst R K (KnowsAtMost R K n)

theorem knowsAtMost_start {K : Trace → Set Nat → Prop} (hstart : K .start ∅) (n : Nat) :
    KnowsAtMost R K n [] ∅ := by
  induction n with
  | zero => trivial
  | succ n ih => exact ⟨hstart, ∅, by simp, ih⟩

theorem atMost_sound (h : Follows bound Trace.start step R) (hR : Onward bound R) {n j : Nat}
    {reached m : Marks} {traces : List Trace} (hm : m.Within bound)
    (hj : j ∈ (atMost step reached n traces m).1.set) :
    j ∈ reached.set ∨ ∃ i ∈ m.set, ∃ k ≤ n, Iterated R k i j := by
  induction n generalizing reached m traces with
  | zero => exact .inl hj
  | succ n ih =>
    by_cases hne : m.inhabited
    · rw [atMost, if_pos hne] at hj
      rcases ih ((h.within hR hm).without reached) hj with hj | ⟨x, hx, k, hk, hxj⟩
      · refine (Marks.mem_either_iff.mp hj).imp_right fun hj => ?_
        obtain ⟨i, hi, hij⟩ := h.sound hm hj
        exact ⟨i, hi, 1, by omega, j, hij, rfl⟩
      · obtain ⟨i, hi, hix⟩ := h.sound hm (Marks.mem_without_iff.mp hx).1
        exact .inr ⟨i, hi, k + 1, by omega, x, hix, hxj⟩
    · rw [atMost, if_neg hne] at hj
      exact .inl hj

theorem reached_subset_atMost {n : Nat} {reached m : Marks} {traces : List Trace} :
    reached.set ⊆ (atMost step reached n traces m).1.set := by
  induction n generalizing reached m traces with
  | zero => exact subset_rfl
  | succ n ih =>
    rw [atMost]
    split
    · exact fun i hi => ih (Marks.mem_either_iff.mpr (.inl hi))
    · exact subset_rfl

theorem atMost_knows (h : Follows bound Trace.start step R) (hR : Onward bound R)
    {K : Trace → Set Nat → Prop} (hK : Remembers bound step R K) {n : Nat} {reached m : Marks}
    {traces : List Trace} {seen : Set Nat} (hk : KnowsAtMost R K n traces seen)
    (hm : m.Within bound) :
    KnowsAtMost R K n (atMost step reached n traces m).2 (seen ∪ m.set) := by
  induction n generalizing reached m traces seen with
  | zero => trivial
  | succ n ih =>
    obtain ⟨hk, later, hlater, hl⟩ := hk
    by_cases hne : m.inhabited
    · rw [atMost, if_pos hne]
      refine ⟨hK.knows hk hm, _, h.from_union (s := traces.headD .start) hm hlater ?_,
        ih hl ((h.within hR hm).without reached)⟩
      exact fun i hi => (Marks.mem_without_iff.mp hi).1
    · rw [atMost, if_neg hne, Marks.set_eq_empty hne, Set.union_empty]
      exact ⟨hk, later, hlater, hl⟩

/-- A place is left out only if fewer steps have led to it, so a shortest walk goes through no place
that is left out. -/
theorem atMost_reaches (h : Follows bound Trace.start step R) (hR : Onward bound R)
    {K : Trace → Set Nat → Prop} (hK : Remembers bound step R K) {n k i j : Nat}
    {reached m : Marks} {traces : List Trace} {seen : Set Nat}
    (hknows : KnowsAtMost R K n traces seen) (hm : m.Within bound) (hsub : m.set ⊆ reached.set)
    (hkn : k ≤ n) (hi : i ∈ m.set) (hij : Iterated R k i j)
    (hleast : ∀ x ∈ reached.set, ∀ l < k, ¬ Iterated R l x j) :
    j ∈ (atMost step reached n traces m).1.set ∨ ∃ x ∈ seen, ∃ l ≤ n, Iterated R l x j := by
  induction n generalizing reached m traces seen i k with
  | zero =>
    obtain rfl : k = 0 := by omega
    obtain rfl : i = j := hij
    exact .inl (hsub hi)
  | succ n ih =>
    obtain ⟨hk, later, hlater, hl⟩ := hknows
    cases k with
    | zero =>
      obtain rfl : i = j := hij
      exact .inl (reached_subset_atMost (hsub hi))
    | succ k =>
      obtain ⟨y, hiy, hyj⟩ := hij
      rcases hK.reaches hk hm hi hiy with hy | ⟨x, hx, hxy⟩
      -- From a place that is left out, a shorter walk would lead to the same end.
      · have hfresh := Marks.mem_without_iff.mpr ⟨hy, fun hyr => hleast y hyr k (by omega) hyj⟩
        have hleast' : ∀ x ∈ (reached.either (step (traces.headD .start) m).1).set, ∀ l < k,
            ¬ Iterated R l x j := by
          intro x hx l hl hxj
          rcases Marks.mem_either_iff.mp hx with hx | hx
          · exact hleast x hx l (by omega) hxj
          · obtain ⟨z, hz, hzx⟩ := h.sound hm hx
            exact hleast z (hsub hz) (l + 1) (by omega) ⟨x, hzx, hxj⟩
        rw [atMost, if_pos (Marks.inhabited_iff.mpr ⟨i, hi⟩)]
        refine (ih hl ((h.within hR hm).without reached) ?_ (by omega) hfresh hyj
          hleast').imp_right ?_
        · exact fun x hx => Marks.mem_either_iff.mpr (.inr (Marks.mem_without_iff.mp hx).1)
        · rintro ⟨x, hx, l, hln, hxj⟩
          obtain ⟨z, hz, hzx⟩ := hlater x hx
          exact ⟨z, hz, l + 1, by omega, x, hzx, hxj⟩
      · exact .inr ⟨x, hx, k + 1, hkn, y, hxy, hyj⟩

theorem atMost (h : Follows bound Trace.start step R) (hR : Onward bound R) (n : Nat) :
    Follows bound [] (fun traces m => atMost step m n traces m)
      (fun i j => ∃ k ≤ n, Iterated R k i j) where
  sound {traces m j} hm hj := by
    rcases h.atMost_sound hR hm hj with hj | hreached
    · exact ⟨j, hj, 0, by omega, rfl⟩
    · exact hreached
  complete := by
    classical
    obtain ⟨K, hstart, hK⟩ := h.complete
    refine ⟨KnowsAtMost R K n, knowsAtMost_start hstart n, h.atMost_knows hR hK, ?_⟩
    intro traces seen m i j hk hm hi ⟨k, hkn, hij⟩
    have hwalk : ∃ k, ∃ x ∈ m.set, Iterated R k x j := ⟨k, i, hi, hij⟩
    obtain ⟨x, hx, hxj⟩ := Nat.find_spec hwalk
    exact h.atMost_reaches hR hK hk hm subset_rfl ((Nat.find_min' hwalk ⟨i, hi, hij⟩).trans hkn)
      hx hxj fun y hy l hl hyj => Nat.find_min hwalk hl ⟨y, hy, hyj⟩

theorem onceOrMoreOf_sound (h : Follows bound Trace.start step R) (hR : Onward bound R) {n j : Nat}
    {trace : Trace} {m : Marks} (hm : m.Within bound)
    (hj : j ∈ (onceOrMoreOf step n trace m).1.set) : ∃ i ∈ m.set, Relation.TransGen R i j := by
  induction n generalizing trace m with
  | zero => exact absurd hj Marks.notMem_set_nil
  | succ n ih =>
    obtain ⟨passed, traces⟩ := trace
    have hfresh := hm.without passed
    by_cases hne : (m.without passed).inhabited
    · rw [onceOrMoreOf, if_pos hne] at hj
      rcases Marks.mem_either_iff.mp hj with hj | hj
      · obtain ⟨i, hi, hij⟩ := h.sound hfresh hj
        exact ⟨i, (Marks.mem_without_iff.mp hi).1, .single hij⟩
      · obtain ⟨k, hk, hkj⟩ := ih (h.within hR hfresh) hj
        obtain ⟨i, hi, hik⟩ := h.sound hfresh hk
        exact ⟨i, (Marks.mem_without_iff.mp hi).1, .head hik hkj⟩
    · rw [onceOrMoreOf, if_neg hne] at hj
      exact absurd hj Marks.notMem_set_nil

/-- The places up to `bound` that are not marked. -/
def unmarked (bound : Nat) (m : Marks) : Finset Nat :=
  (Finset.range (bound + 1)).filter fun i => m[i]? ≠ some true

theorem mem_unmarked_iff {i : Nat} {m : Marks} : i ∈ unmarked bound m ↔ i ≤ bound ∧ i ∉ m.set := by
  rw [unmarked, Finset.mem_filter, Finset.mem_range, Nat.lt_succ_iff, Marks.mem_set_iff]

theorem card_unmarked_either_lt {passed m : Marks} (hm : m.Within bound)
    (hne : (m.without passed).inhabited) :
    (unmarked bound (passed.either (m.without passed))).card < (unmarked bound passed).card := by
  obtain ⟨i, hi⟩ := Marks.inhabited_iff.mp hne
  obtain ⟨him, hip⟩ := Marks.mem_without_iff.mp hi
  refine Finset.card_lt_card (Finset.ssubset_iff_of_subset ?_ |>.mpr ⟨i, ?_, ?_⟩)
  · intro k hk
    obtain ⟨hle, hk⟩ := mem_unmarked_iff.mp hk
    exact mem_unmarked_iff.mpr ⟨hle, fun hkp => hk (Marks.mem_either_iff.mpr (.inl hkp))⟩
  · exact mem_unmarked_iff.mpr ⟨hm i him, hip⟩
  · exact fun hk => (mem_unmarked_iff.mp hk).2 (Marks.mem_either_iff.mpr (.inr hi))

/-- What a repetition comes to when it has no more places to go on from: `gone`, from which it has
gone on, is closed under steps, and where these lead it has led now or has led before. -/
structure Closes (R : Nat → Nat → Prop) (K : Trace → Set Nat → Prop) (passed m out gone : Marks)
    (traces : List Trace) : Prop where
  knows : K (traces.headD .start) gone.set
  subset : passed.set ∪ m.set ⊆ gone.set
  reached : ∀ i ∈ gone.set, i ∈ passed.set ∨ ∃ k ∈ m.set, Relation.ReflTransGen R k i
  closed : ∀ i ∈ gone.set, ∀ j, R i j → j ∈ gone.set
  led : ∀ i ∈ gone.set, ∀ j, R i j → j ∈ out.set ∨ ∃ k ∈ passed.set, R k j

section

variable {K : Trace → Set Nat → Prop} {passed m : Marks} {traces : List Trace}

theorem closes_of_subset (hk : K (traces.headD .start) passed.set) (hsub : m.set ⊆ passed.set)
    (hpassed : ∀ i ∈ passed.set, ∀ j, R i j → j ∈ passed.set ∪ m.set) :
    Closes R K passed m [] passed traces where
  knows := hk
  subset := Set.union_subset subset_rfl hsub
  reached _ hi := .inl hi
  closed i hi j hij := (hpassed i hi j hij).elim id fun hj => hsub hj
  led i hi _ hij := .inr ⟨i, hi, hij⟩

/-- One step of a repetition, which has then gone on from `passed'`. -/
theorem Closes.ofStep {passed' next out gone : Marks}
    (h : Closes R K passed' next out gone traces) (hpassed' : passed'.set = passed.set ∪ m.set)
    (hfrom : ∀ k ∈ next.set, ∃ i ∈ m.set, R i k)
    (hled : ∀ i ∈ passed.set ∪ m.set, ∀ j, R i j → j ∈ next.set ∨ ∃ k ∈ passed.set, R k j) :
    Closes R K passed m (next.either out) gone traces where
  knows := h.knows
  subset i hi := h.subset (.inl (hpassed' ▸ hi))
  reached i hi := by
    rcases h.reached i hi with hi | ⟨k, hk, hki⟩
    · rw [hpassed'] at hi
      exact hi.imp_right fun him => ⟨i, him, .refl⟩
    · obtain ⟨x, hx, hxk⟩ := hfrom k hk
      exact .inr ⟨x, hx, .head hxk hki⟩
  closed := h.closed
  led i hi j hij := by
    rcases h.led i hi j hij with hj | ⟨k, hk, hkj⟩
    · exact .inl (Marks.mem_either_iff.mpr (.inr hj))
    · rw [hpassed'] at hk
      exact (hled k hk j hkj).imp_left fun hj => Marks.mem_either_iff.mpr (.inl hj)

theorem exists_of_mem_fresh_step (h : Follows bound Trace.start step R) (s : Trace)
    (passed : Marks) (hm : m.Within bound) :
    ∀ k ∈ (step s (m.without passed)).1.set, ∃ i ∈ m.set, R i k := by
  intro k hk
  obtain ⟨i, hi, hik⟩ := h.sound (hm.without passed) hk
  exact ⟨i, (Marks.mem_without_iff.mp hi).1, hik⟩

theorem led_by_fresh_step (hK : Remembers bound step R K) (hm : m.Within bound) {s : Trace}
    (hk : K s passed.set) : ∀ i ∈ passed.set ∪ m.set, ∀ j, R i j →
      j ∈ (step s (m.without passed)).1.set ∨ ∃ k ∈ passed.set, R k j := by
  intro i hi j hij
  by_cases hip : i ∈ passed.set
  · exact .inr ⟨i, hip, hij⟩
  · have hfresh := Marks.mem_without_iff.mpr ⟨hi.resolve_left hip, hip⟩
    exact hK.reaches hk (hm.without passed) hfresh hij

/-- Each round marks a new place, so the rounds end when nothing is left to go on from. Before each,
what `passed` leads to is in `passed` or waits in `m`. -/
theorem onceOrMoreOf_closes (h : Follows bound Trace.start step R) (hR : Onward bound R)
    (hK : Remembers bound step R K) {n : Nat} (hk : K (traces.headD .start) passed.set)
    (hm : m.Within bound) (hn : (unmarked bound passed).card < n)
    (hpassed : ∀ i ∈ passed.set, ∀ j, R i j → j ∈ passed.set ∪ m.set) :
    ∃ gone traces', (onceOrMoreOf step n ⟨passed, traces⟩ m).2 = ⟨gone, traces'⟩ ∧
      Closes R K passed m (onceOrMoreOf step n ⟨passed, traces⟩ m).1 gone traces' := by
  induction n generalizing passed m traces with
  | zero => omega
  | succ n ih =>
    by_cases hne : (m.without passed).inhabited
    · have hfrom := h.exists_of_mem_fresh_step (traces.headD .start) passed hm
      have hled := led_by_fresh_step hK hm hk
      have hwithin := h.within hR (s := traces.headD .start) (hm.without passed)
      have hknows := hK.knows hk (hm.without passed)
      generalize hnext : step (traces.headD .start) (m.without passed) = next at *
      rw [← Marks.set_either] at hknows
      have hpassed' : (passed.either (m.without passed)).set = passed.set ∪ m.set := by
        rw [Marks.set_either, Marks.set_without, Set.union_sdiff_self]
      have hahead : ∀ i ∈ (passed.either (m.without passed)).set, ∀ j, R i j →
          j ∈ (passed.either (m.without passed)).set ∪ next.1.set := by
        rw [hpassed']
        intro i hi j hij
        rcases hled i hi j hij with hj | ⟨k, hk, hkj⟩
        · exact .inr hj
        · exact .inl (hpassed k hk j hkj)
      have hcard := card_unmarked_either_lt hm hne
      have hlater : K (List.headD [next.2] .start) _ := hknows
      obtain ⟨gone, traces', heq, hcloses⟩ := ih hlater hwithin (by omega) hahead
      rw [onceOrMoreOf, if_pos hne, hnext]
      exact ⟨gone, traces', heq, hcloses.ofStep hpassed' hfrom hled⟩
    · rw [onceOrMoreOf, if_neg hne]
      refine ⟨passed, traces, rfl, closes_of_subset hk ?_ hpassed⟩
      rw [← Set.sdiff_eq_empty, ← Marks.set_without, Marks.set_eq_empty hne]

end

/-- What a repetition remembers of places `seen`: those that it has gone on from, which are closed
under steps and lie on walks from places seen. -/
def KnowsClosure (R : Nat → Nat → Prop) (K : Trace → Set Nat → Prop) :
    Trace → Set Nat → Prop
  | ⟨passed, traces⟩, seen => K (traces.headD .start) passed.set ∧
      (∀ i ∈ passed.set, ∃ k ∈ seen, Relation.ReflTransGen R k i) ∧
      ∀ i ∈ passed.set, ∀ j, R i j → j ∈ passed.set

theorem onceOrMore (h : Follows bound Trace.start step R) (hR : Onward bound R) :
    Follows bound Trace.start (onceOrMoreOf step (bound + 2)) (Relation.TransGen R) where
  sound hm hj := h.onceOrMoreOf_sound hR hm hj
  complete := by
    obtain ⟨K, hstart, hK⟩ := h.complete
    have hcard : ∀ passed, (unmarked bound passed).card < bound + 2 := fun passed =>
      (Finset.card_filter_le _ _).trans_lt (by rw [Finset.card_range]; omega)
    have hloop : ∀ {passed traces seen m}, KnowsClosure R K ⟨passed, traces⟩ seen →
        m.Within bound → ∃ gone traces',
          (onceOrMoreOf step (bound + 2) ⟨passed, traces⟩ m).2 = ⟨gone, traces'⟩ ∧
          Closes R K passed m (onceOrMoreOf step (bound + 2) ⟨passed, traces⟩ m).1 gone traces' :=
      fun ⟨hk, _, hclosed⟩ hm => h.onceOrMoreOf_closes hR hK hk hm (hcard _)
        fun i hi j hij => .inl (hclosed i hi j hij)
    refine ⟨KnowsClosure R K, ?_, ?_, ?_⟩
    · have hnone : Marks.set [] = ∅ := Marks.set_eq_empty (by decide)
      simp only [Trace.start, KnowsClosure, hnone]
      exact ⟨hstart, by simp, by simp⟩
    · rintro ⟨passed, traces⟩ seen m hk hm
      obtain ⟨gone, traces', heq, hcloses⟩ := hloop hk hm
      rw [heq]
      refine ⟨hcloses.knows, ?_, hcloses.closed⟩
      intro i hi
      rcases hcloses.reached i hi with hi | ⟨k, hk, hki⟩
      · obtain ⟨k, hk, hki⟩ := hk.2.1 i hi
        exact ⟨k, .inl hk, hki⟩
      · exact ⟨k, .inr hk, hki⟩
    · rintro ⟨passed, traces⟩ seen m i j hk hm hi hij
      obtain ⟨gone, traces', -, hcloses⟩ := hloop hk hm
      -- Every place of the walk but its end is one that the repetition has gone on from.
      obtain ⟨x, hix, hxj⟩ := Relation.TransGen.tail'_iff.mp hij
      have hx : x ∈ gone.set := by
        clear hxj
        induction hix with
        | refl => exact hcloses.subset (.inr hi)
        | tail _ hyx ih => exact hcloses.closed _ ih _ hyx
      refine (hcloses.led x hx j hxj).imp_right ?_
      rintro ⟨y, hy, hyj⟩
      obtain ⟨z, hz, hzy⟩ := hk.2.1 y hy
      exact ⟨z, hz, .tail' hzy hyj⟩

end Follows

section

variable {bound least i j : Nat} {R : Nat → Nat → Prop}

/-- Steps up to some number, and then more of them. -/
theorem comp_atMost_iff (hR : Onward bound R) (most : Nat) (hi : i ≤ bound) :
    Relation.Comp (Iterated R (min least (bound + 1)))
        (fun i j => ∃ k ≤ min (most - least) (bound + 1), Iterated R k i j) i j ↔
      ∃ more ≤ most - least, Iterated R (least + more) i j := by
  simp only [← iterated_comp_iterated]
  constructor
  · rintro ⟨x, hix, k, hk, hxj⟩
    exact ⟨k, by omega, x, (hR.iterated_min_iff hi).mp hix, hxj⟩
  · rintro ⟨k, hk, x, hix, hxj⟩
    have hx : x ≤ bound := (hR.iterated least hix hi).2
    exact ⟨x, (hR.iterated_min_iff hi).mpr hix, min k (bound + 1), by omega,
      (hR.iterated_min_iff hx).mpr hxj⟩

/-- Steps up to some number, and then one or more. -/
theorem comp_transGen_iff (hR : Onward bound R) (hi : i ≤ bound) :
    Relation.Comp (Iterated R (min least (bound + 1))) (Relation.TransGen R) i j ↔
      ∃ more, Iterated R (least + 1 + more) i j := by
  have hcount : ∀ n, least + 1 + n = least + (n + 1) := fun n => by omega
  simp only [hcount, ← iterated_comp_iterated, Relation.Comp, transGen_iff_iterated,
    hR.iterated_min_iff hi]
  exact ⟨fun ⟨x, hix, n, hxj⟩ => ⟨n, x, hix, hxj⟩, fun ⟨n, x, hix, hxj⟩ => ⟨x, hix, n, hxj⟩⟩

end

theorem Follows.repeatedly {t : Text} {step : Step} {R : Nat → Nat → Prop}
    (h : Follows t.length Trace.start step R) (hR : Onward t.length R) (least : Nat)
    (most : Option Nat) :
    Follows t.length [] (repeatedly t step least most) (fun i j =>
      ∃ more, (∀ n ∈ most, more ≤ n - least) ∧ Iterated R (least + more) i j) := by
  cases most with
  | some most =>
    refine (h.steps hR (h.atMost hR (min (most - least) (t.length + 1)))
      (min least (t.length + 1))).congr fun i j hi => ?_
    rw [comp_atMost_iff hR most hi]
    simp
  | none =>
    cases least with
    | zero =>
      refine (h.onceOrMore hR).first.orStay.congr fun i j _ => ?_
      rw [eq_comm (a := i), ← Relation.reflTransGen_iff_eq_or_transGen, reflTransGen_iff_iterated]
      simp
    | succ least =>
      refine (h.steps hR (h.onceOrMore hR).first (min least (t.length + 1))).congr fun i j hi => ?_
      rw [comp_transGen_iff hR hi]
      simp

mutual

theorem follows_walk (t : Text) : ∀ p, Follows t.length .start (walk t p) (Leads t p)
  | literal w => .of_forall_iff fun _ => mem_foldl_advance_iff
  | char s => .of_forall_iff fun _ => by
    rw [walk, mem_advance_iff]
    simp [Leads]
  | anchor a => .of_forall_iff fun hm => by
    rw [walk, Marks.mem_zipWith_and_iff, mem_places_iff]
    simp only [Leads]
    constructor
    · rintro ⟨hj, -, hholds⟩
      exact ⟨_, hj, hholds, rfl⟩
    · rintro ⟨i, hi, hholds, rfl⟩
      exact ⟨hi, hm _ hi, hholds⟩
  | repeated p least most _ =>
    ((follows_walk t p).repeatedly (onward_leads t p) least most).parts
  | capture _ p => follows_walk t p
  | row ps => (follows_walkRow t ps).parts
  | choice ps => (follows_walkChoice t ps).parts

theorem follows_walkRow (t : Text) : ∀ ps, Follows t.length [] (walkRow t ps) (LeadsRow t ps)
  | [] => .of_forall_iff fun _ => by simp [walkRow, LeadsRow]
  | p :: ps => (follows_walk t p).followed (onward_leads t p) (follows_walkRow t ps)

theorem follows_walkChoice (t : Text) :
    ∀ ps, Follows t.length [] (walkChoice t ps) (LeadsChoice t ps)
  | [] => .of_forall_iff fun _ => by simp [walkChoice, LeadsChoice, Marks.notMem_set_nil]
  | p :: ps => (follows_walk t p).either (follows_walkChoice t ps)

end

/-- A search finds a pattern exactly where it stands in the text. -/
theorem occursIn_iff (p : Pattern) (t : Text) :
    p.occursIn t = true ↔ ∃ i j, i ≤ t.length ∧ Leads t p i j := by
  have hmarks : ∀ i, i ∈ Marks.set (List.replicate (t.length + 1) true) ↔ i ≤ t.length := by
    intro i
    simp only [Marks.mem_set_iff, List.getElem?_replicate, Nat.lt_succ_iff]
    simp
  have hwithin : Marks.Within t.length (List.replicate (t.length + 1) true) :=
    fun i hi => (hmarks i).mp hi
  have hwalk := follows_walk t p
  obtain ⟨K, hstart, hK⟩ := hwalk.complete
  rw [occursIn, Marks.inhabited_iff]
  constructor
  · rintro ⟨j, hj⟩
    obtain ⟨i, hi, hij⟩ := hwalk.sound hwithin hj
    exact ⟨i, j, (hmarks i).mp hi, hij⟩
  · rintro ⟨i, j, hi, hij⟩
    exact ⟨j, (hK.reaches hstart hwithin ((hmarks i).mpr hi) hij).resolve_right (by simp)⟩

end LineSpecials.Pattern
