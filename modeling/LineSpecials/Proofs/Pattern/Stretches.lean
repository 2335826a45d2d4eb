import LineSpecials.Pattern.Reduced
import LineSpecials.Proofs.Pattern.Steps

namespace LineSpecials.Pattern

mutual

theorem eq_of_same : ∀ {p q : Pattern}, same p q = true → p = q
  | literal t, literal u, h => by
    simp only [same, beq_iff_eq] at h
    rw [h]
  | char s, char u, h => by
    simp only [same, beq_iff_eq] at h
    rw [h]
  | anchor a, anchor b, h => by
    simp only [same, beq_iff_eq] at h
    rw [h]
  | repeated p least most isLazy, repeated q least' most' isLazy', h => by
    simp only [same, Bool.and_eq_true, beq_iff_eq] at h
    obtain ⟨⟨⟨hp, rfl⟩, rfl⟩, rfl⟩ := h
    rw [eq_of_same hp]
  | capture n p, capture k q, h => by
    simp only [same, Bool.and_eq_true, beq_iff_eq] at h
    obtain ⟨rfl, hp⟩ := h
    rw [eq_of_same hp]
  | row ps, row qs, h => by rw [eq_of_sameAll h]
  | choice ps, choice qs, h => by rw [eq_of_sameAll h]

theorem eq_of_sameAll : ∀ {ps qs : List Pattern}, sameAll ps qs = true → ps = qs
  | [], [], _ => rfl
  | p :: ps, q :: qs, h => by
    simp only [sameAll, Bool.and_eq_true] at h
    rw [eq_of_same h.1, eq_of_sameAll h.2]

end

/-- A stretch of a text between two places. -/
def Reads (t : Text) (i : Nat) (w : Text) (j : Nat) : Prop := w <+: t.drop i ∧ j = i + w.length

/-- Characters of a set, so many at least. -/
def run (s : CharSet) (least : Nat) : Pattern := repeated (char s) least none false

section Stretches

variable {t w u : Text} {s : CharSet} {i j k : Nat}

theorem reads_append_iff : Reads t i (w ++ u) j ↔ ∃ k, Reads t i w k ∧ Reads t k u j := by
  unfold Reads
  constructor
  · rintro ⟨⟨r, hr⟩, rfl⟩
    have hdrop : t.drop (i + w.length) = u ++ r := by
      rw [← List.drop_drop, ← hr, List.append_assoc, List.drop_left]
    refine ⟨i + w.length, ⟨⟨u ++ r, by rw [← hr, List.append_assoc]⟩, rfl⟩, ?_, ?_⟩
    · exact hdrop ▸ List.prefix_append u r
    · rw [List.length_append, Nat.add_assoc]
  · rintro ⟨_, ⟨⟨r, hr⟩, rfl⟩, ⟨v, hv⟩, rfl⟩
    rw [← List.drop_drop, ← hr, List.drop_left] at hv
    exact ⟨⟨v, by rw [List.append_assoc, hv, hr]⟩, by rw [List.length_append, Nat.add_assoc]⟩

theorem Reads.drop_eq (h : Reads t i w j) : t.drop i = w ++ t.drop j := by
  obtain ⟨⟨r, hr⟩, rfl⟩ := h
  rw [← List.drop_drop, ← hr, List.drop_left]

theorem Reads.take_eq (h : Reads t i w j) : t.take j = t.take i ++ w := by
  obtain ⟨⟨r, hr⟩, rfl⟩ := h
  rw [List.take_add, ← hr, List.take_left]

theorem reads_of_drop_eq {v : Text} (h : t.drop i = w ++ v) :
    Reads t i w (i + w.length) ∧ t.drop (i + w.length) = v := by
  refine ⟨⟨h ▸ List.prefix_append w v, rfl⟩, ?_⟩
  rw [← List.drop_drop, h, List.drop_left]

theorem leads_char_iff : Leads t (char s) i j ↔ ∃ c, s.has c ∧ Reads t i [c] j := by
  simp only [Leads, Reads, cons_prefix_drop_iff, List.nil_prefix, and_true, List.length_singleton]
  constructor
  · rintro ⟨c, hc, hs, hj⟩
    exact ⟨c, hs, hc, hj⟩
  · rintro ⟨c, hs, hc, hj⟩
    exact ⟨c, hc, hs, hj⟩

theorem iterated_char_iff {n : Nat} : Iterated (Leads t (char s)) n i j ↔
    ∃ w : Text, w.length = n ∧ (∀ c ∈ w, s.has c) ∧ Reads t i w j := by
  induction n generalizing i with
  | zero =>
    constructor
    · rintro rfl
      exact ⟨[], rfl, by simp, List.nil_prefix, rfl⟩
    · rintro ⟨w, hlength, -, -, rfl⟩
      rw [hlength]
      rfl
  | succ n ih =>
    constructor
    · rintro ⟨k, hik, hkj⟩
      obtain ⟨c, hc, hik⟩ := leads_char_iff.mp hik
      obtain ⟨w, rfl, hw, hkj⟩ := ih.mp hkj
      exact ⟨c :: w, rfl, List.forall_mem_cons.mpr ⟨hc, hw⟩,
        reads_append_iff.mpr ⟨k, hik, hkj⟩⟩
    · rintro ⟨w, hlength, hw, hij⟩
      obtain ⟨c, w, rfl⟩ := List.exists_cons_of_length_eq_add_one hlength
      obtain ⟨hc, hw⟩ := List.forall_mem_cons.mp hw
      obtain ⟨k, hik, hkj⟩ := reads_append_iff (w := [c]).mp hij
      exact ⟨k, leads_char_iff.mpr ⟨c, hc, hik⟩, ih.mpr ⟨w, Nat.succ.inj hlength, hw, hkj⟩⟩

theorem leads_run_iff {least : Nat} : Leads t (run s least) i j ↔
    ∃ w : Text, least ≤ w.length ∧ (∀ c ∈ w, s.has c) ∧ Reads t i w j := by
  rw [run, Leads]
  constructor
  · rintro ⟨more, -, h⟩
    obtain ⟨w, hlength, hw, hij⟩ := iterated_char_iff.mp h
    exact ⟨w, by omega, hw, hij⟩
  · rintro ⟨w, hlength, hw, hij⟩
    exact ⟨w.length - least, by simp, iterated_char_iff.mpr ⟨w, by omega, hw, hij⟩⟩

end Stretches

end LineSpecials.Pattern
