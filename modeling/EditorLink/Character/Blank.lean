import EditorLink.Character.Ranges
import EditorLink.Text.Pieces
/-!
# Blank characters

The spaces, the line and paragraph separators, and the control characters that
separate text: tab to carriage return, the four information separators and the
next-line character. A zero-width space is not blank.
-/
namespace EditorLink.Character

def blankRanges : CodeRanges := [
  (0x9, 0xD), (0x1C, 0x20), (0x85, 0x85), (0xA0, 0xA0), (0x1680, 0x1680), (0x2000, 0x200A),
  (0x2028, 0x2029), (0x202F, 0x202F), (0x205F, 0x205F), (0x3000, 0x3000)]

def isBlank (c : Char) : Bool := blankRanges.contains c.toNat

example : (isBlank ' ' && isBlank '\n' && isBlank '\x1c' && isBlank '\u3000') = true := by decide
example : (isBlank 'a' || isBlank '\u200b') = false := by decide

def trim (s : List Char) : List Char :=
  ((s.dropWhile isBlank).reverse.dropWhile isBlank).reverse

/-- The maximal runs of characters that are not blank, in order. -/
def splitBlank (s : List Char) : List (List Char) :=
  (Text.pieces isBlank s).filter (· ≠ [])

example : splitBlank " a  bc ".toList = [['a'], ['b', 'c']] := by decide

end EditorLink.Character
