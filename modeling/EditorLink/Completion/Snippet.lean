import EditorLink.Character.Decimal
/-!
# Snippets

A snippet of a server marks places to fill in by a dollar sign and a number. The
editor expects the number in curly brackets, and no escaped backslashes.
-/
namespace EditorLink.Snippet
open Character

/-- Drops pairs of backslashes from left to right. -/
def dropBackslashPairs : List Char → List Char
  | [] => []
  | '\\' :: '\\' :: rest => dropBackslashPairs rest
  | c :: rest => c :: dropBackslashPairs rest

/-- Puts the numbers behind dollar signs into curly brackets. -/
def bracket (s : List Char) : List Char :=
  match s with
  | [] => []
  | c :: rest =>
    if c = '$' && rest.takeWhile isDecimal ≠ [] then
      '$' :: '\x7b' :: rest.takeWhile isDecimal ++ '\x7d' :: bracket (rest.dropWhile isDecimal)
    else c :: bracket rest
termination_by s.length
decreasing_by
  · exact Nat.lt_succ_of_le (List.dropWhile_sublist isDecimal).length_le
  · simp

/-- A snippet in the form that editors expect. -/
def convert (s : List Char) : List Char := bracket (dropBackslashPairs s)

end EditorLink.Snippet
