import EditorLink.Character.Case
/-!
# Characters up to case

Two characters count as the same up to case if their lower-case forms have the same
upper case. The characters that are the same as a given one are found by running the
tables of case backwards.
-/
namespace EditorLink.Character

def lowerOf (c : Char) : Char :=
  if c = 'İ' then 'i' else Char.ofNat (shiftBy lowerShifts c.toNat)

/-- The code points that some shifts move to a code point. -/
def sourcesOf (shifts : List Shift) (n : Nat) : List Nat :=
  (shifts.map fun s => ((n : Int) - s.shift).toNat).filter fun m => shiftBy shifts m = n

/-- The characters whose upper case is a text. -/
def withUpper (upper : List Char) : List Char :=
  let expanded := upperExpansions.filterMap fun (n, codes) =>
    if codes.map Char.ofNat = upper then some (Char.ofNat n) else none
  match upper with
  | [u] => u :: (sourcesOf upperShifts u.toNat).map Char.ofNat ++ expanded
  | _ => expanded

/-- The characters that are the same as a character up to case. -/
def caseMates (c : Char) : List Char :=
  (lowerOf c :: withUpper (upperOf (lowerOf c))).flatMap fun low =>
    let capitals := (sourcesOf lowerShifts low.toNat).map Char.ofNat
    if low = 'i' then 'İ' :: low :: capitals else low :: capitals

/-- The ASCII characters that are the same as a character up to case, and that character. -/
def plainCaseMates (c : Char) : List Char := [c, c.toLower, c.toUpper]

example : (plainCaseMates 'k').contains 'K' = true := by decide

end EditorLink.Character
