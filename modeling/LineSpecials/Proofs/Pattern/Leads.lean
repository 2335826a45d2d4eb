import LineSpecials.Pattern.Search
import Mathlib.Logic.Relation

namespace LineSpecials.Pattern

/-- So many steps along a relation. -/
def Iterated (R : Nat → Nat → Prop) : Nat → Nat → Nat → Prop
  | 0 => (· = ·)
  | n + 1 => Relation.Comp R (Iterated R n)

mutual

/-- A pattern leads from one place of a text to another if it matches what stands between them. -/
def Leads (t : Text) : Pattern → Nat → Nat → Prop
  | literal w => fun i j => w <+: t.drop i ∧ j = i + w.length
  | char s => fun i j => ∃ c, t[i]? = some c ∧ s.has c ∧ j = i + 1
  | anchor a => fun i j => a.holds (t.take i).getLast? t[i]? ∧ j = i
  | repeated p least most _ => fun i j =>
    ∃ more, (∀ n ∈ most, more ≤ n - least) ∧ Iterated (Leads t p) (least + more) i j
  | capture _ p => Leads t p
  | row ps => LeadsRow t ps
  | choice ps => LeadsChoice t ps

/-- Patterns one behind the other. -/
def LeadsRow (t : Text) : List Pattern → Nat → Nat → Prop
  | [] => (· = ·)
  | p :: ps => Relation.Comp (Leads t p) (LeadsRow t ps)

/-- One of some patterns. -/
def LeadsChoice (t : Text) : List Pattern → Nat → Nat → Prop
  | [] => fun _ _ => False
  | p :: ps => fun i j => Leads t p i j ∨ LeadsChoice t ps i j

end

/-- A relation that leads from the places up to `bound` only on to such places. -/
def Onward (bound : Nat) (R : Nat → Nat → Prop) : Prop :=
  ∀ ⦃i j⦄, R i j → i ≤ bound → i ≤ j ∧ j ≤ bound

section Relations

variable {bound m n i j : Nat} {R Q : Nat → Nat → Prop}

theorem onward_eq : Onward bound (· = ·) := by
  rintro i j rfl hi
  exact ⟨Nat.le_refl i, hi⟩

theorem Onward.comp (hR : Onward bound R) (hQ : Onward bound Q) :
    Onward bound (Relation.Comp R Q) := by
  rintro i j ⟨k, hik, hkj⟩ hi
  obtain ⟨hle, hk⟩ := hR hik hi
  obtain ⟨hle', hj⟩ := hQ hkj hk
  exact ⟨Nat.le_trans hle hle', hj⟩

theorem Onward.iterated (hR : Onward bound R) (n : Nat) : Onward bound (Iterated R n) := by
  induction n with
  | zero => exact onward_eq
  | succ n ih => exact hR.comp ih

theorem iterated_comp_iterated :
    Relation.Comp (Iterated R m) (Iterated R n) = Iterated R (m + n) := by
  induction m with
  | zero => rw [Nat.zero_add]; exact Relation.eq_comp
  | succ m ih => rw [Nat.succ_add, Iterated, Iterated, Relation.comp_assoc, ih]

/-- A walk of more steps than there are places ahead stays somewhere, and may stay there for a step
more or less. -/
theorem Onward.iterated_succ_iff (hR : Onward bound R) (hi : i ≤ bound) (hn : bound < i + n) :
    Iterated R (n + 1) i j ↔ Iterated R n i j := by
  induction n generalizing i with
  | zero => omega
  | succ n ih =>
    constructor
    · rintro ⟨k, hik, hkj⟩
      obtain ⟨hle, hk⟩ := hR hik hi
      rcases Nat.eq_or_lt_of_le hle with rfl | hlt
      · exact hkj
      · exact ⟨k, hik, (ih hk (by omega)).mp hkj⟩
    · rintro ⟨k, hik, hkj⟩
      obtain ⟨hle, hk⟩ := hR hik hi
      rcases Nat.eq_or_lt_of_le hle with rfl | hlt
      · exact ⟨i, hik, i, hik, hkj⟩
      · exact ⟨k, hik, (ih hk (by omega)).mpr hkj⟩

theorem Onward.iterated_min_iff (hR : Onward bound R) (hi : i ≤ bound) :
    Iterated R (min n (bound + 1)) i j ↔ Iterated R n i j := by
  rcases Nat.le_total n (bound + 1) with hn | hn
  · rw [Nat.min_eq_left hn]
  · rw [Nat.min_eq_right hn]
    induction hn with
    | refl => rfl
    | @step n hn ih =>
      have hlong : bound < i + n := Nat.lt_of_lt_of_le hn (Nat.le_add_left n i)
      rw [ih, hR.iterated_succ_iff hi hlong]

theorem reflTransGen_iff_iterated : Relation.ReflTransGen R i j ↔ ∃ n, Iterated R n i j := by
  constructor
  · intro h
    induction h using Relation.ReflTransGen.head_induction_on with
    | refl => exact ⟨0, rfl⟩
    | head hik _ ih =>
      obtain ⟨n, hn⟩ := ih
      exact ⟨n + 1, _, hik, hn⟩
  · rintro ⟨n, h⟩
    induction n generalizing i with
    | zero => exact h ▸ .refl
    | succ n ih =>
      obtain ⟨k, hik, hkj⟩ := h
      exact .head hik (ih hkj)

theorem transGen_iff_iterated : Relation.TransGen R i j ↔ ∃ n, Iterated R (n + 1) i j := by
  rw [Relation.TransGen.head'_iff]
  simp only [reflTransGen_iff_iterated]
  exact ⟨fun ⟨k, hik, n, hkj⟩ => ⟨n, k, hik, hkj⟩, fun ⟨n, k, hik, hkj⟩ => ⟨k, hik, n, hkj⟩⟩

end Relations

mutual

theorem onward_leads (t : Text) : ∀ p, Onward t.length (Leads t p)
  | literal w => by
    rintro i j ⟨hstands, rfl⟩ hi
    have := hstands.length_le
    rw [List.length_drop] at this
    omega
  | char s => by
    rintro i j ⟨c, hc, -, rfl⟩ hi
    have := (List.getElem?_eq_some_iff.mp hc).1
    omega
  | anchor a => by
    rintro i j ⟨-, rfl⟩ hi
    exact onward_eq rfl hi
  | repeated p least most _ => by
    rintro i j ⟨more, -, h⟩ hi
    exact (onward_leads t p).iterated (least + more) h hi
  | capture _ p => onward_leads t p
  | row ps => onward_leadsRow t ps
  | choice ps => onward_leadsChoice t ps

theorem onward_leadsRow (t : Text) : ∀ ps, Onward t.length (LeadsRow t ps)
  | [] => onward_eq
  | p :: ps => (onward_leads t p).comp (onward_leadsRow t ps)

theorem onward_leadsChoice (t : Text) : ∀ ps, Onward t.length (LeadsChoice t ps)
  | [] => fun _ _ h => h.elim
  | p :: ps => by
    rintro i j (h | h) hi
    · exact onward_leads t p h hi
    · exact onward_leadsChoice t ps h hi

end

end LineSpecials.Pattern
