import LineSpecials.Proofs.AssignmentLines
import LineSpecials.Proofs.Text.Words
import LineSpecials.Toml.Document
import Mathlib.Data.List.TakeDrop

namespace LineSpecials.Toml

open Config (Ahead BeginsAssignment)

variable {t rest r s key u : Text} {c : Char}

theorem not_blank_of_isKeyChar (h : isKeyChar c) : isBlank c = false := by
  rcases Bool.or_eq_true_iff.mp h with h | h
  · exact not_blank_of_nameChar h
  · rw [beq_iff_eq.mp h]
    rfl

theorem ne_newline_of_isPlain (h : isPlain c) : c ≠ '\n' := by
  rintro rfl
  cases h

theorem ne_newline_of_isSpace (h : isSpace c) : c ≠ '\n' := by
  rintro rfl
  cases h

/-- What is left of a text behind a part of its first line. -/
def SameLine (t rest : Text) : Prop := ∃ w, t = w ++ rest ∧ '\n' ∉ w

namespace SameLine

theorem refl (t : Text) : SameLine t t := ⟨[], rfl, by simp⟩

theorem trans (h : SameLine t r) (h' : SameLine r rest) : SameLine t rest := by
  obtain ⟨w, rfl, hw⟩ := h
  obtain ⟨w', rfl, hw'⟩ := h'
  exact ⟨w ++ w', (List.append_assoc ..).symm, by simp [hw, hw']⟩

theorem cons (hc : c ≠ '\n') (h : SameLine t rest) : SameLine (c :: t) rest :=
  trans ⟨[c], rfl, by simp [hc.symm]⟩ h

theorem suffix (h : SameLine t rest) : rest <:+ t := by
  obtain ⟨w, rfl, _⟩ := h
  exact List.suffix_append w rest

theorem dropWhile {p : Char → Bool} (hp : ∀ c, p c → c ≠ '\n') (t : Text) :
    SameLine t (t.dropWhile p) := by
  refine ⟨t.takeWhile p, List.takeWhile_append_dropWhile.symm, fun hn => ?_⟩
  exact hp _ (List.all_eq_true.mp List.all_takeWhile _ hn) rfl

theorem skipBlanks (t : Text) : SameLine t (skipBlanks t) :=
  .dropWhile (fun _ => ne_newline_of_isSpace) t

end SameLine

section Strings

theorem andThen_eq_some {o : Option (Text × Text)} (h : andThen c o = some (s, rest)) :
    ∃ s', o = some (s', rest) := by
  obtain ⟨⟨s', _⟩, ho, he⟩ := Option.map_eq_some_iff.mp h
  cases he
  exact ⟨s', ho⟩

/-- A string behind an escape. -/
theorem of_escape {o : Option (Text × Text)} {x : Option Char}
    (h : (do let x ← x; andThen x o) = some (s, rest)) :
    (∃ y, x = some y) ∧ ∃ s', o = some (s', rest) := by
  obtain ⟨y, hy, h⟩ := Option.bind_eq_some_iff.mp h
  exact ⟨⟨y, hy⟩, andThen_eq_some h⟩

theorem newline_notin_of_scalar? {digits : Text} (h : ∃ x, scalar? digits = some x) :
    '\n' ∉ digits := by
  obtain ⟨x, h⟩ := h
  obtain ⟨ds, hds, -⟩ := Option.bind_eq_some_iff.mp h
  clear h
  induction digits generalizing ds with
  | nil => simp
  | cons c digits ih =>
    rw [List.mapM_cons] at hds
    obtain ⟨d, hd, hds⟩ := Option.bind_eq_some_iff.mp hds
    obtain ⟨ds', hds', -⟩ := Option.bind_eq_some_iff.mp hds
    rintro (_ | ⟨_, hn⟩)
    · cases hd
    · exact ih ds' hds' hn

theorem ne_newline_of_escaped? (h : ∃ x, escaped? c = some x) : c ≠ '\n' := by
  rintro rfl
  obtain ⟨x, h⟩ := h
  cases h

theorem sameLine_basic (h : basic t = some (s, rest)) : SameLine t rest := by
  fun_induction basic t generalizing s with
  | case1 => cases h
  | case2 r => cases h; exact .cons (by decide) (.refl _)
  | case3 a b r ih =>
    obtain ⟨hx, s', h⟩ := of_escape h
    have hn := newline_notin_of_scalar? hx
    exact .trans ⟨['\\', 'x', a, b], rfl, by simpa using hn⟩ (ih h)
  | case4 a b c d r ih =>
    obtain ⟨hx, s', h⟩ := of_escape h
    have hn := newline_notin_of_scalar? hx
    exact .trans ⟨['\\', 'u', a, b, c, d], rfl, by simpa using hn⟩ (ih h)
  | case5 a b c d e f g i r ih =>
    obtain ⟨hx, s', h⟩ := of_escape h
    have hn := newline_notin_of_scalar? hx
    exact .trans ⟨['\\', 'U', a, b, c, d, e, f, g, i], rfl, by simpa using hn⟩ (ih h)
  | case6 c r _ _ _ ih =>
    obtain ⟨hx, s', h⟩ := of_escape h
    exact .cons (by decide) (.cons (ne_newline_of_escaped? hx) (ih h))
  | case7 => cases h
  | case8 c r _ _ _ _ _ _ hplain ih =>
    obtain ⟨s', h⟩ := andThen_eq_some h
    exact .cons (ne_newline_of_isPlain hplain) (ih h)
  | case9 => cases h

theorem sameLine_literal (h : literal t = some (s, rest)) : SameLine t rest := by
  fun_induction literal t generalizing s with
  | case1 => cases h
  | case2 r => cases h; exact .cons (by decide) (.refl _)
  | case3 c r _ hplain ih =>
    obtain ⟨s', h⟩ := andThen_eq_some h
    exact .cons (ne_newline_of_isPlain hplain) (ih h)
  | case4 => cases h

theorem suffix_basicLines {skipping : Bool} (h : basicLines skipping t = some (s, rest)) :
    rest <:+ t := by
  fun_induction basicLines skipping t generalizing s with
  | case1 => cases h
  | case2 skipping r => cases h; exact List.suffix_append ['"', '"', '"', '"', '"'] _
  | case3 skipping r => cases h; exact List.suffix_append ['"', '"', '"', '"'] _
  | case4 skipping r => cases h; exact List.suffix_append ['"', '"', '"'] _
  | case5 skipping a b r ih =>
    obtain ⟨-, s', h⟩ := of_escape h
    exact (ih h).trans (List.suffix_append ['\\', 'x', a, b] r)
  | case6 skipping a b c d r ih =>
    obtain ⟨-, s', h⟩ := of_escape h
    exact (ih h).trans (List.suffix_append ['\\', 'u', a, b, c, d] r)
  | case7 skipping a b c d e f g i r ih =>
    obtain ⟨-, s', h⟩ := of_escape h
    exact (ih h).trans (List.suffix_append ['\\', 'U', a, b, c, d, e, f, g, i] r)
  | case8 skipping c r _ _ _ _ ih => exact (ih h).trans (List.suffix_cons _ _)
  | case9 skipping c r _ _ _ _ ih =>
    obtain ⟨-, s', h⟩ := of_escape h
    exact (ih h).trans (List.suffix_append ['\\', c] r)
  | case10 r ih => exact (ih h).trans (List.suffix_append ['\r', '\n'] r)
  | case11 skipping r _ ih =>
    obtain ⟨_, h⟩ := andThen_eq_some h
    obtain ⟨s', h⟩ := andThen_eq_some h
    exact (ih h).trans (List.suffix_append ['\r', '\n'] r)
  | case12 skipping c r _ _ _ _ _ _ _ _ _ ih => exact (ih h).trans (List.suffix_cons _ _)
  | case13 => cases h
  | case14 skipping c r _ _ _ _ _ _ _ _ _ _ _ ih =>
    obtain ⟨s', h⟩ := andThen_eq_some h
    exact (ih h).trans (List.suffix_cons _ _)
  | case15 => cases h

theorem suffix_literalLines (h : literalLines t = some (s, rest)) : rest <:+ t := by
  fun_induction literalLines t generalizing s with
  | case1 => cases h
  | case2 r => cases h; exact List.suffix_append ['\'', '\'', '\'', '\'', '\''] _
  | case3 r => cases h; exact List.suffix_append ['\'', '\'', '\'', '\''] _
  | case4 r => cases h; exact List.suffix_append ['\'', '\'', '\''] _
  | case5 r ih =>
    obtain ⟨_, h⟩ := andThen_eq_some h
    obtain ⟨s', h⟩ := andThen_eq_some h
    exact (ih h).trans (List.suffix_append ['\r', '\n'] r)
  | case6 c r _ _ _ _ _ ih =>
    obtain ⟨s', h⟩ := andThen_eq_some h
    exact (ih h).trans (List.suffix_cons _ _)
  | case7 => cases h

theorem suffix_dropLineBreak (t : Text) : dropLineBreak t <:+ t := by
  unfold dropLineBreak
  split
  · exact List.suffix_cons _ _
  · exact List.suffix_append ['\r', '\n'] _
  · exact List.suffix_rfl

theorem suffix_string? (h : string? t = some (s, rest)) : rest <:+ t := by
  unfold string? at h
  split at h
  next r =>
    exact (suffix_basicLines h).trans
      ((suffix_dropLineBreak r).trans (List.suffix_append ['"', '"', '"'] r))
  next r => exact (sameLine_basic h).suffix.trans (List.suffix_cons _ _)
  next r =>
    exact (suffix_literalLines h).trans
      ((suffix_dropLineBreak r).trans (List.suffix_append ['\'', '\'', '\''] r))
  next r => exact (sameLine_literal h).suffix.trans (List.suffix_cons _ _)
  next => cases h

end Strings

theorem suffix_scalarWord (t : Text) : (scalarWord t).2 <:+ t := by
  have hspan (t : Text) : (t.span isScalarChar).2 <:+ t := by
    rw [List.span_eq_takeWhile_dropWhile]
    exact List.dropWhile_suffix _
  unfold scalarWord
  split
  next word c r hword =>
    have hr := hspan t
    rw [hword] at hr
    split
    · exact (hspan (c :: r)).trans ((List.suffix_cons ' ' _).trans hr)
    · exact hr
  next => exact hspan t

section Keys

/-- A word that may stand for a key without quotes. -/
structure IsBareKey (key : Text) : Prop where
  ne_nil : key ≠ []
  chars : ∀ c ∈ key, isKeyChar c

/-- What is left of a text behind a part of its first line that begins with no blank. -/
def ReadsLine (t rest : Text) : Prop :=
  ∃ c r, t = c :: r ∧ isBlank c = false ∧ SameLine r rest

namespace ReadsLine

theorem trans (h : ReadsLine t r) (h' : SameLine r rest) : ReadsLine t rest := by
  obtain ⟨c, x, rfl, hc, hx⟩ := h
  exact ⟨c, x, rfl, hc, hx.trans h'⟩

theorem sameLine (h : ReadsLine t rest) : SameLine t rest := by
  obtain ⟨c, r, rfl, hc, hr⟩ := h
  refine hr.cons ?_
  rintro rfl
  cases hc

/-- Only at its front may such a part be an assignment. -/
theorem ahead (h : ReadsLine t rest) (hu : Ahead key t u) : u = t ∨ Ahead key rest u := by
  obtain ⟨c, r, rfl, hc, w, rfl, hw⟩ := h
  refine hu.of_line hc ?_
  rintro (_ | ⟨_, hn⟩)
  · cases hc
  · exact hw hn

theorem byteLength_lt (h : ReadsLine t rest) : rest.byteLength < t.byteLength := by
  obtain ⟨c, r, rfl, -, w, rfl, -⟩ := h
  have hc := c.utf8Size_pos
  rw [Text.byteLength_cons, Text.byteLength_append]
  omega

end ReadsLine

theorem readsLine_keyText {name : Text} (h : keyText t = some (name, rest)) :
    ReadsLine t rest := by
  unfold keyText at h
  split at h
  next r => exact ⟨_, r, rfl, rfl, sameLine_basic h⟩
  next r => exact ⟨_, r, rfl, rfl, sameLine_literal h⟩
  next =>
    cases t with
    | nil => cases h
    | cons c r =>
      cases hc : isKeyChar c with
      | false =>
        rw [List.takeWhile_cons_of_neg (by simp [hc])] at h
        cases h
      | true =>
        rw [List.takeWhile_cons_of_pos hc, List.dropWhile_cons_of_pos hc] at h
        cases h
        refine ⟨c, r, rfl, not_blank_of_isKeyChar hc, .dropWhile (fun _ h => ?_) r⟩
        rintro rfl
        cases h

variable {size limit : Nat} {path : List (Located Text)} {k : Located Text}

theorem readsLine_keyParts (h : keyParts size limit t = some (path, k, rest)) :
    ReadsLine t rest := by
  induction limit generalizing t path with
  | zero => cases h
  | succ limit ih =>
    obtain ⟨⟨part, mid⟩, hpart, h⟩ := Option.bind_eq_some_iff.mp h
    obtain ⟨⟨name, _⟩, hname, he⟩ := Option.map_eq_some_iff.mp hpart
    cases he
    have hmid := (readsLine_keyText hname).trans (.skipBlanks mid)
    dsimp only at h
    split at h
    next r hr =>
      obtain ⟨⟨path', _⟩, hrest, he⟩ := Option.bind_eq_some_iff.mp h
      cases he
      rw [hr] at hmid
      have hdot : SameLine ('.' :: r) (skipBlanks r) := .cons (by decide) (.skipBlanks r)
      exact hmid.trans (hdot.trans (ih hrest).sameLine)
    next =>
      cases h
      exact hmid

/-- The last part of a key begins within the key. -/
theorem start_keyParts (ht : t.byteLength ≤ size)
    (h : keyParts size limit t = some (path, k, rest)) :
    size - t.byteLength ≤ k.span.start ∧ k.span.start < size - rest.byteLength := by
  induction limit generalizing t path with
  | zero => cases h
  | succ limit ih =>
    have hrest := (readsLine_keyParts h).byteLength_lt
    obtain ⟨⟨part, mid⟩, hpart, h⟩ := Option.bind_eq_some_iff.mp h
    obtain ⟨⟨name, _⟩, hname, he⟩ := Option.map_eq_some_iff.mp hpart
    cases he
    have hmid := (readsLine_keyText hname).trans (.skipBlanks mid)
    dsimp only at h
    split at h
    next r hr =>
      obtain ⟨⟨path', _⟩, hkeys, he⟩ := Option.bind_eq_some_iff.mp h
      cases he
      rw [hr] at hmid
      have hdot : SameLine ('.' :: r) (skipBlanks r) := .cons (by decide) (.skipBlanks r)
      have hlt := (hmid.trans hdot).byteLength_lt
      have := ih (by omega) hkeys
      omega
    next =>
      cases h
      simp only [spanBetween]
      omega

theorem isKeyChar_of_begins (hkey : IsBareKey key) (h : BeginsAssignment key (c :: r)) :
    isKeyChar c := by
  obtain ⟨w, hw, -⟩ := h
  cases key with
  | nil => exact absurd rfl hkey.ne_nil
  | cons d key =>
    obtain ⟨rfl, -⟩ := List.cons.inj hw
    exact hkey.chars c List.mem_cons_self

theorem keyText_of_begins {w : Text} (hkey : IsBareKey key) (hw : w.trimStart.head? = some '=') :
    keyText (key ++ w) = some (key, w) := by
  have hbegins : BeginsAssignment key (key ++ w) := ⟨w, rfl, hw⟩
  have hstop : w.takeWhile isKeyChar = [] ∧ w.dropWhile isKeyChar = w := by
    cases w with
    | nil => cases hw
    | cons c w =>
      have hc : isKeyChar c = false := by
        by_contra hc
        have hblank := not_blank_of_isKeyChar (by simpa using hc)
        unfold Text.trimStart at hw
        rw [List.dropWhile_cons_of_neg (by simp [hblank])] at hw
        cases hw
        exact hc rfl
      rw [List.takeWhile_cons_of_neg (by simp [hc]), List.dropWhile_cons_of_neg (by simp [hc])]
      exact ⟨rfl, rfl⟩
  unfold keyText
  split
  next ht => rw [ht] at hbegins; exact absurd (isKeyChar_of_begins hkey hbegins) (by decide)
  next ht => rw [ht] at hbegins; exact absurd (isKeyChar_of_begins hkey hbegins) (by decide)
  next =>
    rw [List.takeWhile_append_of_pos hkey.chars, List.dropWhile_append_of_pos hkey.chars, hstop.1,
      hstop.2, List.append_nil]
    split
    next hnil => exact absurd rfl hkey.ne_nil
    next => rfl

/-- In front of an assignment the key is read as it stands. -/
theorem keyParts_of_begins (hkey : IsBareKey key) (hbegins : BeginsAssignment key t)
    (h : keyParts size limit t = some (path, k, rest)) :
    path = [] ∧ k = ⟨key, size - t.byteLength, key.byteLength⟩ := by
  obtain ⟨w, rfl, hw⟩ := hbegins
  have hblanks : (skipBlanks w).trimStart = w.trimStart := by
    have hspace : ∀ c ∈ w.takeWhile isSpace, isBlank c := fun c hc => by
      rcases Bool.or_eq_true_iff.mp (List.all_eq_true.mp List.all_takeWhile c hc) with hc | hc <;>
        rw [beq_iff_eq.mp hc] <;> rfl
    conv => rhs; rw [← List.takeWhile_append_dropWhile (p := isSpace) (l := w)]
    exact (List.dropWhile_append_of_pos hspace).symm
  cases limit with
  | zero => cases h
  | succ limit =>
    unfold keyParts keyPart at h
    rw [keyText_of_begins hkey hw] at h
    dsimp only [Option.map_some, Option.bind_eq_bind, Option.bind_some] at h
    split at h
    next r hr =>
      rw [← hblanks, hr] at hw
      cases hw
    next =>
      cases h
      simp [spanBetween]

end Keys

/-- What is left of a text behind a part in which no line begins with a key. -/
structure Skips (t rest : Text) : Prop where
  suffix : rest <:+ t
  ahead : ∀ {key u : Text}, IsBareKey key → Ahead key t u → Ahead key rest u

namespace Skips

theorem refl (t : Text) : Skips t t := ⟨List.suffix_rfl, fun _ h => h⟩

theorem trans (h : Skips t r) (h' : Skips r rest) : Skips t rest :=
  ⟨h'.suffix.trans h.suffix, fun hkey hu => h'.ahead hkey (h.ahead hkey hu)⟩

theorem cons (hc : isKeyChar c = false) (h : Skips t rest) : Skips (c :: t) rest := by
  refine ⟨h.suffix.trans (List.suffix_cons c t), fun hkey hu => ?_⟩
  rcases hu.of_cons with rfl | hu
  · rw [isKeyChar_of_begins hkey hu.begins] at hc
    cases hc
  · exact h.ahead hkey hu

/-- The rest of a line whose first character is neither blank nor part of a key. -/
theorem of_sameLine (hc : isKeyChar c = false) (hblank : isBlank c = false)
    (h : SameLine r rest) : Skips (c :: r) rest := by
  have hline : ReadsLine (c :: r) rest := ⟨c, r, rfl, hblank, h⟩
  refine ⟨hline.sameLine.suffix, fun hkey hu => ?_⟩
  rcases hline.ahead hu with rfl | hu
  · rw [isKeyChar_of_begins hkey hu.begins] at hc
    cases hc
  · exact hu

theorem skipBlanks (t : Text) : Skips t (skipBlanks t) := by
  unfold Toml.skipBlanks
  induction t with
  | nil => exact .refl []
  | cons c t ih =>
    cases hc : isSpace c with
    | false => rw [List.dropWhile_cons_of_neg (by simp [hc])]; exact .refl _
    | true =>
      rw [List.dropWhile_cons_of_pos hc]
      refine ih.cons ?_
      rcases Bool.or_eq_true_iff.mp hc with hc | hc <;> rw [beq_iff_eq.mp hc] <;> rfl

theorem skipSpace (t : Text) : Skips t (skipSpace t) := by
  -- A comment is taken off in two parts: what belongs to the line of its hash, and what follows.
  refine (skipSpace.mutual_induct (fun t => Skips t (Toml.skipSpace t))
    (fun t => ∃ mid, SameLine t mid ∧ Skips mid (skipComment t))
    ?_ ?_ ?_ ?_ ?_ ?_ ?_ ?_).1 t
  · exact .refl []
  · intro c r hc ih
    have hkey : isKeyChar c = false := by
      simp only [isSpace, Bool.or_eq_true, Bool.and_eq_true, beq_iff_eq] at hc
      rcases hc with ((rfl | rfl) | rfl) | ⟨rfl, -⟩ <;> rfl
    rw [Toml.skipSpace, if_pos hc]
    exact ih.cons hkey
  · rintro r hc ⟨mid, hline, hmid⟩
    rw [Toml.skipSpace, if_neg hc, if_pos rfl]
    exact (of_sameLine rfl rfl hline).trans hmid
  · intro c r hc hhash
    rw [Toml.skipSpace, if_neg hc, if_neg hhash]
    exact .refl _
  · exact ⟨[], .refl [], .refl []⟩
  · rintro c r hc ⟨mid, hline, hmid⟩
    rw [skipComment, if_pos hc]
    exact ⟨mid, hline.cons (ne_newline_of_isPlain hc), hmid⟩
  · intro c r hc hbreak ih
    have hkey : isKeyChar c = false := by
      unfold atLineBreak at hbreak
      split at hbreak
      next h => cases h; rfl
      next h => cases h; rfl
      next => cases hbreak
    rw [skipComment, if_neg hc, if_pos hbreak]
    exact ⟨c :: r, .refl _, ih.cons hkey⟩
  · intro c r hc hbreak
    rw [skipComment, if_neg hc, if_neg hbreak]
    exact ⟨c :: r, .refl _, .refl _⟩

theorem afterStatement (h : afterStatement t = some rest) : Skips t rest := by
  refine (skipBlanks t).trans ?_
  unfold Toml.afterStatement at h
  split at h
  next hnil => cases h; rw [hnil]; exact .refl []
  next c r hc =>
    split at h
    next => cases h; rw [hc]; exact skipSpace _
    next => cases h

theorem dropMark (t : Text) : Skips t (dropMark t) := by
  unfold Toml.dropMark
  split
  next r => exact .cons (by decide) (.refl r)
  next => exact .refl t

end Skips

end LineSpecials.Toml
