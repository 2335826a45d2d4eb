import LineSpecials.Text.Utf8
import Mathlib.Data.List.Infix

namespace LineSpecials.Text

/-- The bytes of a text in UTF-8. -/
def bytes (t : Text) : List Nat := t.flatMap fun c => utf8Bytes c.toNat

@[simp] theorem bytes_nil : bytes [] = [] := rfl

@[simp] theorem bytes_cons (c : Char) (t : Text) :
    bytes (c :: t) = utf8Bytes c.toNat ++ bytes t := rfl

theorem utf8Bytes_of_ascii {n : Nat} (h : n < 0x80) : utf8Bytes n = [n] := by
  simp [utf8Bytes, h]

theorem le_of_mem_utf8Bytes {n b : Nat} (h : 0x80 ≤ n) (hb : b ∈ utf8Bytes n) : 0x80 ≤ b := by
  unfold utf8Bytes at hb
  rw [if_neg (by omega)] at hb
  split at hb
  next =>
    rcases (by simpa using hb : b = _ ∨ b = _) with rfl | rfl <;> omega
  next =>
    split at hb
    next => rcases (by simpa using hb : b = _ ∨ b = _ ∨ b = _) with rfl | rfl | rfl <;> omega
    next =>
      rcases (by simpa using hb : b = _ ∨ b = _ ∨ b = _ ∨ b = _) with rfl | rfl | rfl | rfl <;>
        omega

theorem length_utf8Bytes (c : Char) : (utf8Bytes c.toNat).length = c.utf8Size := by
  unfold utf8Bytes
  rcases c.utf8Size_eq with h | h | h | h
  · have hle : c.toNat ≤ 127 := UInt32.le_iff_toNat_le.mp (Char.utf8Size_eq_one_iff.mp h)
    rw [h, if_pos (by omega)]
    rfl
  · obtain ⟨hlt, hle⟩ := Char.utf8Size_eq_two_iff.mp h
    have hlt : 127 < c.toNat := UInt32.lt_iff_toNat_lt.mp hlt
    have hle : c.toNat ≤ 2047 := UInt32.le_iff_toNat_le.mp hle
    rw [h, if_neg (by omega), if_pos (by omega)]
    rfl
  · obtain ⟨hlt, hle⟩ := Char.utf8Size_eq_three_iff.mp h
    have hlt : 2047 < c.toNat := UInt32.lt_iff_toNat_lt.mp hlt
    have hle : c.toNat ≤ 65535 := UInt32.le_iff_toNat_le.mp hle
    rw [h, if_neg (by omega), if_neg (by omega), if_pos (by omega)]
    rfl
  · have hlt : 65535 < c.toNat := UInt32.lt_iff_toNat_lt.mp (Char.utf8Size_eq_four_iff.mp h)
    rw [h, if_neg (by omega), if_neg (by omega), if_neg (by omega)]
    rfl

theorem length_bytes (t : Text) : t.bytes.length = t.byteLength := by
  induction t with
  | nil => rfl
  | cons c r ih => simp [length_utf8Bytes, ih]

theorem dropBytes_append (a b : Text) : dropBytes a.byteLength (a ++ b) = some b := by
  induction a with
  | nil => exact dropBytes.eq_1 b
  | cons c a ih =>
    obtain ⟨n, hn⟩ : ∃ n, c.utf8Size + byteLength a = n + 1 :=
      Nat.exists_eq_add_one.mpr (Nat.add_pos_left c.utf8Size_pos _)
    have hrest : n + 1 - c.utf8Size = byteLength a := by omega
    rw [byteLength_cons, List.cons_append, hn, dropBytes, if_pos (by omega), hrest, ih]

/-- A cut behind some bytes is a cut between two characters. -/
theorem dropBytes_eq_some_iff {n : Nat} {t r : Text} :
    dropBytes n t = some r ↔ ∃ p : Text, t = p ++ r ∧ p.byteLength = n := by
  constructor
  · intro h
    fun_induction dropBytes n t with
    | case1 t => exact ⟨[], by simpa using h, rfl⟩
    | case2 n => cases h
    | case3 n c s hfit ih =>
      obtain ⟨p, rfl, hp⟩ := ih h
      exact ⟨c :: p, rfl, by rw [byteLength_cons]; omega⟩
    | case4 n c s hfit => cases h
  · rintro ⟨p, rfl, rfl⟩
    exact dropBytes_append p r

theorem length_le_byteLength (t : Text) : t.length ≤ t.byteLength := by
  induction t with
  | nil => exact Nat.le_refl 0
  | cons c r ih =>
    have hc := c.utf8Size_pos
    rw [List.length_cons, byteLength_cons]
    omega

/-- A text has as many bytes as characters if these are ASCII. -/
theorem byteLength_eq_length_iff {t : Text} :
    t.byteLength = t.length ↔ ∀ c ∈ t, c.toNat < 0x80 := by
  induction t with
  | nil => simp
  | cons c r ih =>
    have hc : c.utf8Size = 1 ↔ c.toNat < 0x80 := by
      rw [Char.utf8Size_eq_one_iff, UInt32.le_iff_toNat_le]
      exact Nat.lt_succ_iff.symm
    have hpos := c.utf8Size_pos
    have hle := length_le_byteLength r
    rw [List.forall_mem_cons, ← ih, ← hc, byteLength_cons, List.length_cons]
    omega

/-- A text begins with a word of ASCII characters if its bytes do. -/
theorem take_bytes_iff {w : Text} (hw : ∀ c ∈ w, c.toNat < 0x80) (t : Text) :
    t.bytes.take w.length = w.bytes ↔ w <+: t := by
  induction w generalizing t with
  | nil => simp
  | cons x w ih =>
    have hx := hw x (by simp)
    rw [bytes_cons, utf8Bytes_of_ascii hx]
    cases t with
    | nil => simp
    | cons c r =>
      rw [bytes_cons]
      by_cases hc : c.toNat < 0x80
      · rw [utf8Bytes_of_ascii hc, List.cons_prefix_cons,
          ← ih (fun d hd => hw d (List.mem_cons_of_mem x hd)) r]
        simp only [List.singleton_append, List.length_cons, List.take_succ_cons, List.cons.injEq,
          Char.toNat_inj]
        exact and_congr_left fun _ => eq_comm
      · obtain ⟨b, bs, hbs⟩ := List.exists_cons_of_length_pos
          (show 0 < (utf8Bytes c.toNat).length by rw [length_utf8Bytes]; exact c.utf8Size_pos)
        have hb : 0x80 ≤ b := le_of_mem_utf8Bytes (n := c.toNat) (by omega) (by simp [hbs])
        rw [hbs, List.cons_prefix_cons]
        constructor
        · intro h
          have := (List.cons.inj h).1
          omega
        · rintro ⟨rfl, -⟩
          omega

/-- The bytes from a column on spell a word of ASCII characters if a character begins in that
column and the word there. -/
theorem take_drop_bytes_iff {w : Text} (hw : ∀ c ∈ w, c.toNat < 0x80) (hne : w ≠ []) (n : Nat)
    (t : Text) :
    (t.bytes.drop n).take w.length = w.bytes ↔ ∃ r, dropBytes n t = some r ∧ w <+: r := by
  obtain ⟨x, w', rfl⟩ := List.exists_cons_of_ne_nil hne
  have hx := hw x (by simp)
  fun_induction dropBytes n t with
  | case1 t => simpa using take_bytes_iff hw t
  | case2 n => simp [utf8Bytes_of_ascii hx]
  | case3 n c r hfit ih =>
    have hdrop : (bytes (c :: r)).drop (n + 1) = (bytes r).drop (n + 1 - c.utf8Size) := by
      rw [bytes_cons, List.drop_append, length_utf8Bytes,
        List.drop_eq_nil_of_le (by rw [length_utf8Bytes]; exact hfit), List.nil_append]
    rw [hdrop]
    exact ih
  | case4 n c r hfit =>
    -- The column lies inside a character, whose bytes from the second on are not ASCII.
    have hlong : n + 1 < (utf8Bytes c.toNat).length := by rw [length_utf8Bytes]; omega
    have hc : 0x80 ≤ c.toNat := by
      by_contra hc
      rw [utf8Bytes_of_ascii (by omega), List.length_singleton] at hlong
      omega
    have hin : (utf8Bytes c.toNat)[n + 1] ∈ utf8Bytes c.toNat := List.getElem_mem hlong
    have hb := le_of_mem_utf8Bytes hc hin
    constructor
    · intro h
      rw [bytes_cons, List.drop_append_of_le_length (by omega), List.drop_eq_getElem_cons hlong,
        bytes_cons, utf8Bytes_of_ascii hx] at h
      have := (List.cons.inj h).1
      omega
    · rintro ⟨r', h, -⟩
      simp at h

end LineSpecials.Text
