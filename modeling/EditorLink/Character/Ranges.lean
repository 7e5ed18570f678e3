/-!
# Sets of code points

A character class of a standard is held as its ranges of code points, sorted and
disjoint. Membership walks the ranges and stops at the first one that begins
after the character.
-/
namespace EditorLink.Character

abbrev CodeRanges := List (Nat × Nat)

def CodeRanges.contains : CodeRanges → Nat → Bool
  | [], _ => false
  | (first, last) :: rest, n =>
    if n < first then false else n ≤ last || CodeRanges.contains rest n

/-- A run of code points, every `stride`-th of which is moved by `shift`. -/
structure Shift where
  first : Nat
  last : Nat
  stride : Nat
  shift : Int

/-- Moves a code point by the first run that holds it; all others stay. -/
def shiftBy : List Shift → Nat → Nat
  | [], n => n
  | s :: rest, n =>
    if s.first ≤ n && n ≤ s.last && (n - s.first) % s.stride == 0 then (n + s.shift).toNat
    else shiftBy rest n

end EditorLink.Character
