import Handclap.Text.Ranges

/-!
# White space

The code points with the Unicode White_Space property (Unicode 17.0). These are the characters
trimmed from both ends of a clock setting: the ASCII tab, line feed, vertical tab, form feed,
carriage return and space, the next-line and no-break spaces, and the wider Unicode spaces and
separators. The zero-width space and the byte-order mark are not among them.
-/

namespace Handclap.Text

/-- Code points with the White_Space property. -/
def whiteSpaceRanges : CodeRanges := [
  (0x9, 0xD), (0x20, 0x20), (0x85, 0x85), (0xA0, 0xA0), (0x1680, 0x1680), (0x2000, 0x200A),
  (0x2028, 0x2029), (0x202F, 0x202F), (0x205F, 0x205F), (0x3000, 0x3000)]

theorem whiteSpaceRanges_ascending : whiteSpaceRanges.ascending = true := by decide +kernel

def isWhiteSpace (c : Char) : Bool := whiteSpaceRanges.contains c.toNat

/-- The ASCII white space that core knows is White_Space too. -/
theorem isWhiteSpace_of_isWhitespace (c : Char) (h : c.isWhitespace = true) :
    isWhiteSpace c = true := by
  simp only [Char.isWhitespace, Bool.or_eq_true, decide_eq_true_eq] at h
  rcases h with ((h | h) | h) | h <;> subst h <;> rfl

end Handclap.Text
