import LineSpecials.Text.Basic

namespace LineSpecials

/-- Membership in the Unicode property `White_Space`. Zero-width spaces and the byte order mark
are not in it. -/
def isBlank (c : Char) : Bool :=
  let n := c.toNat
  (0x9 ≤ n && n ≤ 0xD) || n == 0x20 || n == 0x85 || n == 0xA0 || n == 0x1680 ||
    (0x2000 ≤ n && n ≤ 0x200A) || n == 0x2028 || n == 0x2029 || n == 0x202F || n == 0x205F ||
    n == 0x3000

namespace Text

/-- The text without the blanks at its front. -/
def trimStart (t : Text) : Text := t.dropWhile isBlank

/-- The text without the blanks at its end. -/
def trimEnd (t : Text) : Text := (t.reverse.dropWhile isBlank).reverse

/-- The text without the blanks at either end. -/
def trim (t : Text) : Text := t.trimStart.trimEnd

/-- The maximal stretches without a blank. -/
def tokens (t : Text) : List Text := (t.splitWhen isBlank).filter (! ·.isEmpty)

/-- True of a text that holds nothing but blanks. -/
def isAllBlank (t : Text) : Bool := t.all isBlank

end Text

end LineSpecials
