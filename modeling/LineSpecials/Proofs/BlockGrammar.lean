import LineSpecials.Block
import LineSpecials.Proofs.Text.Bytes
import LineSpecials.Proofs.Text.Trimming

namespace LineSpecials.Block

/-- Exactly two tokens. -/
def fitsAction (line : Text) : Bool := line.tokens.length == 2

/-- At least three tokens, of which the second is the keyword and the third has a parenthesis. -/
def fitsSignature (line : Text) : Bool :=
  match line.tokens with
  | _ :: word :: third :: _ => word == "Implements".toList && third.contains '('
  | _ => false

/-- At least 15 bytes, nine of which from the sixth on spell the marker. -/
def fitsMarker (line : Text) : Bool :=
  decide (15 ≤ line.trim.bytes.length) &&
    (line.trim.bytes.drop 5).take 9 == Text.bytes "ExtraData".toList

/-- Exactly one colon. -/
def fitsCode (line : Text) : Bool := line.count ':' == 1

/-- The shapes of the lines of a block. -/
def shapes : List (Text → Bool) :=
  [fun line => line.trim == "//".toList, fitsAction, fun line => line.trim == "//".toList,
    fitsSignature, fitsMarker, fitsCode]

/-- How many lines in a row fit shapes in turn. -/
def fitting : List (Text → Bool) → List Text → Nat
  | shape :: rest, line :: lines => if shape line then fitting rest lines + 1 else 0
  | _, _ => 0

/-- What stands before the first parenthesis of the third token. -/
def nameOn (line : Text) : Text := (line.tokens.getD 2 []).takeWhile (· != '(')

/-- One more than there are commas. -/
def arityOn (line : Text) : Nat := line.trim.count ',' + 1

/-- What stands behind the first colon, trimmed. -/
def codeOn (line : Text) : Code := ⟨Text.trim (line.dropWhile (· != ':')).tail⟩

/-- What a block that begins at a position says. -/
def entryAt (lines : List Text) (i : Nat) : Entry :=
  ⟨codeOn (lines.getD (i + 5) []), nameOn (lines.getD (i + 3) []),
    arityOn (lines.getD (i + 3) [])⟩

/-- A position where a divider stands, and how many lines from there on fit the shapes. -/
structure Attempt where
  start : Nat
  fits : Nat
  deriving DecidableEq

/-- Where reading goes on: behind the block, or behind the line that did not fit. -/
def Attempt.next (a : Attempt) : Nat :=
  if a.fits = 6 then a.start + 6 else a.start + a.fits + 1

theorem Attempt.start_lt_next (a : Attempt) : a.start < a.next := by
  unfold next
  split <;> omega

/-- The attempts at blocks from a position on. -/
def attempts (lines : List Text) (i : Nat) : List Attempt :=
  if h : i < lines.length then
    if lines[i].trim = "//".toList then
      ⟨i, fitting shapes (lines.drop i)⟩ ::
        attempts lines (Attempt.next ⟨i, fitting shapes (lines.drop i)⟩)
    else attempts lines (i + 1)
  else []
termination_by lines.length - i
decreasing_by
  · have := Attempt.start_lt_next ⟨i, fitting shapes (lines.drop i)⟩
    dsimp only at this
    omega
  · omega

/-- Where blocks begin. -/
def starts (lines : List Text) : List Nat :=
  ((attempts lines 0).filter (·.fits == 6)).map (·.start)

theorem fitting_le_length (ss : List (Text → Bool)) (ls : List Text) :
    fitting ss ls ≤ ss.length ∧ fitting ss ls ≤ ls.length := by
  fun_induction fitting ss ls with
  | case1 shape rest line lines h ih => simp only [List.length_cons]; omega
  | case2 => simp
  | case3 => simp

theorem action?_isSome (line : Text) : (action? line).isSome = fitsAction line := by
  unfold action? fitsAction
  rw [Text.tokens_trim]
  split
  next h => simp [h]
  next h =>
    symm
    rw [Option.isSome_none, beq_eq_false_iff_ne]
    intro hl
    obtain ⟨a, b, hab⟩ := List.length_eq_two.mp hl
    exact h a b hab

theorem signature?_eq (line : Text) :
    signature? line = if fitsSignature line then some (nameOn line, arityOn line) else none := by
  have hkeyword : signatureWord = "Implements".toList := rfl
  unfold signature? fitsSignature nameOn
  rw [Text.tokens_trim, hkeyword]
  rcases line.tokens with _ | ⟨first, _ | ⟨word, _ | ⟨third, rest⟩⟩⟩
  · rfl
  · rfl
  · rfl
  · dsimp only
    by_cases hw : word = "Implements".toList
    · rw [if_pos hw, Text.splitOnce_eq_if]
      by_cases hp : '(' ∈ third
      · simp [hw, hp, arityOn, Text.segmentCount]
      · simp [hp]
    · rw [if_neg hw, if_neg]
      rw [Bool.and_eq_true, beq_iff_eq]
      exact fun h => hw h.1

theorem isMarker_eq (line : Text) : isMarker line = fitsMarker line := by
  have hall : markerWord.all (·.toNat < 0x80) = true := by decide
  have hascii : ∀ c ∈ markerWord, c.toNat < 0x80 := by simpa using hall
  have hcolumn := Text.take_drop_bytes_iff hascii (by decide) markerColumn line.trim
  unfold isMarker fitsMarker
  rw [Text.length_bytes]
  congr 1
  apply Bool.eq_iff_iff.mpr
  rw [beq_iff_eq]
  refine Iff.trans ?_ hcolumn.symm
  cases Text.dropBytes markerColumn line.trim <;> simp

theorem code?_eq (line : Text) :
    code? line = if fitsCode line then some (codeOn line) else none := by
  have hcount : line.trim.count ':' = line.count ':' := Text.count_trim (by decide) line
  unfold code? fitsCode codeOn
  by_cases h : line.count ':' = 1
  · rw [Text.splitWhen_of_count_one (hcount.trans h), if_pos (by simpa using h)]
    dsimp only
    rw [Text.trim_after_trim (by decide)]
  · rw [if_neg (by simpa using h)]
    split
    next a b hs =>
      have := Text.length_splitWhen ':' line.trim
      rw [hs, hcount, List.length_cons, List.length_singleton] at this
      omega
    next => rfl

namespace Cursor

/-- The shapes of the lines that the block under way still needs. -/
def ahead : Cursor → List (Text → Bool)
  | opening => shapes
  | action => shapes.drop 1
  | closing _ => shapes.drop 2
  | signature _ => shapes.drop 3
  | marker _ _ => shapes.drop 4
  | code _ _ => shapes.drop 5

/-- What the block under way says if its other lines follow. -/
def completed : Cursor → List Text → Entry
  | opening, ls => entryAt ls 0
  | action, ls => ⟨codeOn (ls.getD 4 []), nameOn (ls.getD 2 []), arityOn (ls.getD 2 [])⟩
  | closing _, ls => ⟨codeOn (ls.getD 3 []), nameOn (ls.getD 1 []), arityOn (ls.getD 1 [])⟩
  | signature _, ls => ⟨codeOn (ls.getD 2 []), nameOn (ls.getD 0 []), arityOn (ls.getD 0 [])⟩
  | marker name arity, ls => ⟨codeOn (ls.getD 1 []), name, arity⟩
  | code name arity, ls => ⟨codeOn (ls.getD 0 []), name, arity⟩

/-- Whether a line is one that the block under way needs next. -/
def expects (cur : Cursor) (line : Text) : Bool := fitting cur.ahead [line] == 1

theorem fitting_ahead_cons (cur : Cursor) (line : Text) (ls : List Text) :
    fitting cur.ahead (line :: ls) =
      if cur.expects line then fitting cur.ahead.tail ls + 1 else 0 := by
  unfold expects
  cases cur <;> simp [ahead, shapes, fitting]

/-- A line that the block does not need ends it. -/
theorem step_of_not_expects {cur : Cursor} {line : Text} (h : cur.expects line = false) :
    cur.step line = (opening, none) := by
  cases cur with
  | opening => simp_all [expects, ahead, shapes, fitting, step, isDivider, divider]
  | action =>
    have hf : fitsAction line = false := by simpa [expects, ahead, shapes, fitting] using h
    rw [← action?_isSome, Option.isSome_eq_false_iff, Option.isNone_iff_eq_none] at hf
    simp [step, hf]
  | closing handler => simp_all [expects, ahead, shapes, fitting, step, isDivider, divider]
  | signature handler =>
    have hf : fitsSignature line = false := by simpa [expects, ahead, shapes, fitting] using h
    simp [step, signature?_eq, hf]
  | marker name arity =>
    have hf : fitsMarker line = false := by simpa [expects, ahead, shapes, fitting] using h
    simp [step, isMarker_eq, hf]
  | code name arity =>
    have hf : fitsCode line = false := by simpa [expects, ahead, shapes, fitting] using h
    simp [step, code?_eq, hf]

/-- A line that the block needs either leaves a block under way that needs the other lines and
says the same, or completes it. -/
theorem step_of_expects {cur : Cursor} {line : Text} (h : cur.expects line) :
    (∃ next : Cursor, cur.step line = (next, none) ∧ next.ahead = cur.ahead.tail ∧
      ∀ ls, next.completed ls = cur.completed (line :: ls)) ∨
    (cur.ahead.tail = [] ∧
      ∀ ls, cur.step line = (opening, some (cur.completed (line :: ls)))) := by
  cases cur with
  | opening =>
    refine Or.inl ⟨action, ?_, rfl, fun ls => rfl⟩
    simp_all [expects, ahead, shapes, fitting, step, isDivider, divider]
  | action =>
    have hf : fitsAction line = true := by simpa [expects, ahead, shapes, fitting] using h
    rw [← action?_isSome] at hf
    obtain ⟨handler, hh⟩ := Option.isSome_iff_exists.mp hf
    refine Or.inl ⟨closing handler, ?_, rfl, fun ls => rfl⟩
    simp [step, hh]
  | closing handler =>
    refine Or.inl ⟨signature handler, ?_, rfl, fun ls => rfl⟩
    simp_all [expects, ahead, shapes, fitting, step, isDivider, divider]
  | signature handler =>
    have hf : fitsSignature line = true := by simpa [expects, ahead, shapes, fitting] using h
    refine Or.inl ⟨marker (nameOn line) (arityOn line), ?_, rfl, fun ls => rfl⟩
    simp [step, signature?_eq, hf]
  | marker name arity =>
    have hf : fitsMarker line = true := by simpa [expects, ahead, shapes, fitting] using h
    refine Or.inl ⟨code name arity, ?_, rfl, fun ls => rfl⟩
    simp [step, isMarker_eq, hf]
  | code name arity =>
    have hf : fitsCode line = true := by simpa [expects, ahead, shapes, fitting] using h
    refine Or.inr ⟨rfl, fun ls => ?_⟩
    simp [step, code?_eq, hf, completed]

/-- From any cursor on, the lines are tried against what the block under way needs; then reading
starts anew, behind the block or behind the line that ended it. -/
theorem entries_eq (cur : Cursor) (ls : List Text) :
    cur.entries ls =
      if fitting cur.ahead ls = cur.ahead.length then
        cur.completed ls :: opening.entries (ls.drop cur.ahead.length)
      else opening.entries (ls.drop (fitting cur.ahead ls + 1)) := by
  have hpos : ∀ c : Cursor, c.ahead.length = c.ahead.tail.length + 1 := by
    intro c
    cases c <;> rfl
  induction ls generalizing cur with
  | nil =>
    have hf : fitting cur.ahead [] = 0 := Nat.le_zero.mp (fitting_le_length cur.ahead []).2
    rw [hf, if_neg (by have := hpos cur; omega), List.drop_nil]
    cases cur <;> rfl
  | cons line ls ih =>
    rw [fitting_ahead_cons, hpos cur]
    by_cases h : cur.expects line
    · rw [if_pos h]
      rcases step_of_expects h with ⟨next, hs, ha, hc⟩ | ⟨ht, hs⟩
      · rw [entries, hs, Option.toList_none, List.nil_append, ih next, ha, hc]
        simp only [Nat.add_right_cancel_iff, List.drop_succ_cons]
      · rw [entries, hs ls, ht]
        simp [fitting]
    · rw [if_neg h, if_neg (by omega), entries, step_of_not_expects (by simpa using h)]
      rfl

end Cursor

theorem entryAt_zero_drop (lines : List Text) (i : Nat) :
    entryAt (lines.drop i) 0 = entryAt lines i := by
  simp [entryAt, List.getD_eq_getElem?_getD, List.getElem?_drop]

/-- Reading on from a position finds the blocks that attempts from there on find. -/
theorem entries_drop_eq (lines : List Text) (i : Nat) :
    Cursor.opening.entries (lines.drop i) =
      (((attempts lines i).filter (·.fits == 6)).map (·.start)).map (entryAt lines) := by
  fun_induction attempts lines i with
  | case1 i hi hd ih =>
    rw [Cursor.entries_eq]
    change (if fitting shapes (lines.drop i) = 6 then
        entryAt (lines.drop i) 0 :: Cursor.opening.entries ((lines.drop i).drop 6)
      else Cursor.opening.entries ((lines.drop i).drop (fitting shapes (lines.drop i) + 1))) = _
    rw [List.drop_drop, List.drop_drop, entryAt_zero_drop]
    by_cases h : fitting shapes (lines.drop i) = 6
    · have hn : Attempt.next ⟨i, fitting shapes (lines.drop i)⟩ = i + 6 := if_pos h
      rw [hn] at ih ⊢
      rw [if_pos h, List.filter_cons_of_pos (by simpa using h), ih]
      rfl
    · have hn : Attempt.next ⟨i, fitting shapes (lines.drop i)⟩ =
          i + (fitting shapes (lines.drop i) + 1) := if_neg h
      rw [hn] at ih ⊢
      rw [if_neg h, List.filter_cons_of_neg (by simpa using h), ih]
  | case2 i hi hd ih =>
    have hf : fitting shapes (lines.drop i) = 0 := by
      rw [List.drop_eq_getElem_cons hi]
      unfold shapes fitting
      rw [if_neg (by simpa using hd)]
    rw [Cursor.entries_eq, ← ih]
    change (if fitting shapes (lines.drop i) = 6 then _ else
      Cursor.opening.entries ((lines.drop i).drop (fitting shapes (lines.drop i) + 1))) = _
    rw [hf, if_neg (by decide), List.drop_drop]
  | case3 i hi =>
    rw [List.drop_eq_nil_of_le (by omega)]
    rfl

/-- Each attempt begins where the one before goes on, or later. -/
theorem le_start_of_mem_attempts {lines : List Text} {i : Nat} {a : Attempt}
    (h : a ∈ attempts lines i) : i ≤ a.start := by
  fun_induction attempts lines i with
  | case1 i hi hd ih =>
    rcases List.mem_cons.mp h with rfl | h
    · exact Nat.le_refl i
    · have hlt := Attempt.start_lt_next ⟨i, fitting shapes (lines.drop i)⟩
      exact (Nat.le_of_lt hlt).trans (ih h)
  | case2 i hi hd ih => exact (Nat.le_succ i).trans (ih h)
  | case3 => simp at h

theorem attempts_pairwise (lines : List Text) (i : Nat) :
    (attempts lines i).Pairwise fun a b => a.next ≤ b.start := by
  fun_induction attempts lines i with
  | case1 i hi hd ih =>
    exact List.pairwise_cons.mpr ⟨fun b hb => le_start_of_mem_attempts hb, ih⟩
  | case2 i hi hd ih => exact ih
  | case3 => exact List.Pairwise.nil

theorem fits_of_mem_attempts {lines : List Text} {i : Nat} {a : Attempt}
    (h : a ∈ attempts lines i) : a.fits = fitting shapes (lines.drop a.start) := by
  fun_induction attempts lines i with
  | case1 i hi hd ih =>
    rcases List.mem_cons.mp h with rfl | h
    · rfl
    · exact ih h
  | case2 i hi hd ih => exact ih h
  | case3 => simp at h

theorem fitting_of_mem_starts {lines : List Text} {i : Nat} (h : i ∈ starts lines) :
    fitting shapes (lines.drop i) = 6 := by
  obtain ⟨a, ha, rfl⟩ := List.mem_map.mp h
  obtain ⟨ha, hf⟩ := List.mem_filter.mp ha
  rw [← fits_of_mem_attempts ha]
  simpa using hf

theorem add_le_length_of_mem_starts {lines : List Text} {i : Nat} (h : i ∈ starts lines) :
    i + 6 ≤ lines.length := by
  have := (fitting_le_length shapes (lines.drop i)).2
  rw [fitting_of_mem_starts h, List.length_drop] at this
  omega

theorem starts_pairwise (lines : List Text) : (starts lines).Pairwise fun i j => i + 6 ≤ j := by
  unfold starts
  rw [List.pairwise_map, List.pairwise_filter]
  refine (attempts_pairwise lines 0).imp ?_
  intro a b hab ha hb
  unfold Attempt.next at hab
  rw [if_pos (by simpa using ha)] at hab
  exact hab

theorem fits_getElem? {ss : List (Text → Bool)} {ls : List Text}
    (h : fitting ss ls = ss.length) {j : Nat} {shape : Text → Bool} (hj : ss[j]? = some shape) :
    ∃ line, ls[j]? = some line ∧ shape line := by
  fun_induction fitting ss ls generalizing j with
  | case1 first rest line lines hfirst ih =>
    cases j with
    | zero =>
      cases Option.some.inj hj
      exact ⟨line, rfl, hfirst⟩
    | succ j => exact ih (by simpa using h) hj
  | case2 => simp at h
  | case3 ss ls hnone =>
    have hss : ss = [] := by simpa using h.symm
    simp [hss] at hj

/-- The line at each place of a block fits the shape for that place. -/
theorem fits_of_mem_starts {lines : List Text} {i : Nat} (hi : i ∈ starts lines) {j : Nat}
    {shape : Text → Bool} (hj : shapes[j]? = some shape) :
    ∃ line, lines[i + j]? = some line ∧ shape line := by
  obtain ⟨line, hl, hs⟩ := fits_getElem? (fitting_of_mem_starts hi) hj
  exact ⟨line, by rwa [List.getElem?_drop] at hl, hs⟩

theorem entries_eq_map (lines : List Text) : entries lines = (starts lines).map (entryAt lines) :=
  entries_drop_eq lines 0

/-- The entries of a source are those of its blocks as the grammar finds them by position. A block
is six lines in a row that fit the six shapes; blocks come one behind the other and share no line;
and after an attempt that breaks off, the next one begins behind the line that did not fit. -/
theorem entries_eq_map_starts (lines : List Text) :
    entries lines = (starts lines).map (entryAt lines) ∧
      (∀ i ∈ starts lines, i + 6 ≤ lines.length ∧ fitting shapes (lines.drop i) = 6) ∧
      (starts lines).Pairwise (fun i j => i + 6 ≤ j) ∧
      (attempts lines 0).Pairwise (fun a b => a.next ≤ b.start) := by
  refine ⟨entries_eq_map lines, ?_, starts_pairwise lines, attempts_pairwise lines 0⟩
  intro i hi
  exact ⟨add_le_length_of_mem_starts hi, fitting_of_mem_starts hi⟩

end LineSpecials.Block
