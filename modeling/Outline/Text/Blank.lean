import Outline.Text.Ranges

/-!
# Blank characters

The characters that count as white space at the ends of a text and between the words of a line.
-/

namespace Outline.Text

/-- The controls of layout, the spaces of every width and the line and paragraph separators. -/
def blankRanges : List (Nat × Nat) := [
  (0x09, 0x0d), (0x1c, 0x20), (0x85, 0x85), (0xa0, 0xa0), (0x1680, 0x1680), (0x2000, 0x200a),
  (0x2028, 0x2029), (0x202f, 0x202f), (0x205f, 0x205f), (0x3000, 0x3000)]

/-- Whether a character is white space. -/
def isBlank (c : Char) : Bool :=
  inRanges blankRanges c.toNat

/-- Drops the white space that a list of characters ends in. -/
def stripEnd (cs : List Char) : List Char :=
  (cs.reverse.dropWhile isBlank).reverse

/-- Drops the white space at both ends of a text. -/
def strip (text : String) : String :=
  String.ofList (stripEnd (text.toList.dropWhile isBlank))

end Outline.Text
