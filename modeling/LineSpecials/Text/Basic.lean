namespace LineSpecials

/-- A text is the list of its characters, so that reading one is recursion on data. -/
abbrev Text := List Char

namespace Text

instance : Coe String Text := ⟨String.toList⟩

/-- The decimal digits of a number, the most significant first and no superfluous zero. -/
def ofNat (n : Nat) : Text := Nat.toDigits 10 n

/-- Blanks in front until the text has `width` characters; a longer text stays as it is. -/
def padLeft (width : Nat) (t : Text) : Text := List.replicate (width - t.length) ' ' ++ t

/-- The number of bytes of the text in UTF-8. -/
def byteLength (t : Text) : Nat := t.foldr (fun c n => c.utf8Size + n) 0

/-- What is left after exactly `n` bytes; `none` if the text is shorter or a character straddles
the cut. -/
def dropBytes : Nat → Text → Option Text
  | 0, t => some t
  | _ + 1, [] => none
  | n + 1, c :: r => if c.utf8Size ≤ n + 1 then dropBytes (n + 1 - c.utf8Size) r else none

/-- The stretches between the characters that satisfy `p`: always one more than there are such
characters. -/
def splitWhen (p : Char → Bool) : Text → List Text
  | [] => [[]]
  | c :: r =>
    if p c then [] :: splitWhen p r
    else match splitWhen p r with
      | [] => [[c]]
      | w :: ws => (c :: w) :: ws

/-- The text before and after the first `sep`. -/
def splitOnce (sep : Char) : Text → Option (Text × Text)
  | [] => none
  | c :: r => if c = sep then some ([], r) else (splitOnce sep r).map fun (a, b) => (c :: a, b)

/-- The rest of a text that begins with `lead`. -/
def dropLead? (t lead : Text) : Option Text :=
  if lead.isPrefixOf t then some (t.drop lead.length) else none

/-- Each line followed by a line break. -/
def ofLines (ls : List Text) : Text := ls.flatMap (· ++ ['\n'])

theorem splitWhen_ne_nil (p : Char → Bool) (t : Text) : splitWhen p t ≠ [] := by
  cases t with
  | nil => simp [splitWhen]
  | cons c r =>
    unfold splitWhen
    split
    · simp
    · split <;> simp

@[simp] theorem byteLength_nil : byteLength [] = 0 := rfl

@[simp] theorem byteLength_cons (c : Char) (t : Text) :
    byteLength (c :: t) = c.utf8Size + byteLength t := rfl

@[simp] theorem byteLength_append (s t : Text) :
    byteLength (s ++ t) = byteLength s + byteLength t := by
  induction s with
  | nil => simp
  | cons c s ih => simp [ih, Nat.add_assoc]

theorem splitOnce_eq_some {sep : Char} {t a b : Text} (h : splitOnce sep t = some (a, b)) :
    t = a ++ sep :: b ∧ sep ∉ a := by
  induction t generalizing a with
  | nil => simp [splitOnce] at h
  | cons c r ih =>
    unfold splitOnce at h
    split at h
    next hc => cases h; simp [hc]
    next hc =>
      obtain ⟨⟨a', b'⟩, hr, he⟩ := Option.map_eq_some_iff.mp h
      cases he
      obtain ⟨rfl, hm⟩ := ih hr
      exact ⟨rfl, by simp [hm, Ne.symm hc]⟩

end Text

end LineSpecials
