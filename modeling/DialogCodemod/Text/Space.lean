import DialogCodemod.Text.Basic

/-!
# White space

The characters with the Unicode property White_Space, and trimming by them. They are more than the
blanks: the line breaks and the no-break space count, the zero width space does not.
-/

namespace DialogCodemod

/-- White space: the Unicode property White_Space. -/
def isSpace (char : Char) : Bool :=
  let code := char.toNat
  (0x9 ≤ code && code ≤ 0xD) || code == 0x20 || code == 0x85 || code == 0xA0 || code == 0x1680 ||
    (0x2000 ≤ code && code ≤ 0x200A) || code == 0x2028 || code == 0x2029 || code == 0x202F ||
    code == 0x205F || code == 0x3000

/-- Every blank is white space. -/
theorem isSpace_of_isBlank {char : Char} (blank : isBlank char = true) : isSpace char = true := by
  rcases isBlank_eq_true_iff.1 blank with rfl | rfl <;> rfl

namespace Text

/-- Drop white space at the start. -/
def trimStart (text : Text) : Text :=
  text.dropWhile isSpace

/-- Drop white space at both ends. -/
def trim (text : Text) : Text :=
  (text.trimStart.reverse.dropWhile isSpace).reverse

end Text

end DialogCodemod
