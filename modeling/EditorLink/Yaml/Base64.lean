/-!
# Bytes in base sixty-four

Four characters stand for three bytes. Characters that are no digits do not count. Equals
signs fill up the last four characters and end the bytes.
-/
namespace EditorLink.Yaml.Base64

/-- The value of a digit in base sixty-four. -/
def digit? (c : Char) : Option Nat :=
  if 'A' ≤ c && c ≤ 'Z' then some (c.toNat - 65)
  else if 'a' ≤ c && c ≤ 'z' then some (c.toNat - 71)
  else if c.isDigit then some (c.toNat + 4)
  else if c = '+' then some 62
  else if c = '/' then some 63
  else none

/-- How far some bytes have been read: how many digits of the last four there are, what
is left of the last one, and how many equals signs have come since. -/
structure Progress where
  place : Nat
  left : Nat
  signs : Nat

/-- The byte that a digit completes, and what is left of it. -/
def take (p : Progress) (d : Nat) : List UInt8 × Progress :=
  match p.place with
  | 0 => ([], ⟨1, d, 0⟩)
  | 1 => ([.ofNat (p.left * 4 + d / 16)], ⟨2, d % 16, 0⟩)
  | 2 => ([.ofNat (p.left * 16 + d / 4)], ⟨3, d % 4, 0⟩)
  | _ => ([.ofNat (p.left * 64 + d)], ⟨0, 0, 0⟩)

/-- The bytes from some place on; `none` if the last four characters are not complete. -/
def decodeFrom (p : Progress) : List Char → Option (List UInt8)
  | [] => if p.place = 0 then some [] else none
  | c :: rest =>
    if c = '=' then
      let signs := if 2 ≤ p.place then p.signs + 1 else p.signs
      if 2 ≤ p.place && 4 ≤ p.place + signs then some [] else decodeFrom { p with signs := signs } rest
    else match digit? c with
      | none => decodeFrom p rest
      | some d =>
        let (bytes, p) := take p d
        (decodeFrom p rest).map (bytes ++ ·)

def decode? (s : List Char) : Option (List UInt8) := decodeFrom ⟨0, 0, 0⟩ s

example : decode? "aGk=".toList = some [104, 105] := by decide +kernel
example : decode? "aGk".toList = none := by decide +kernel

end EditorLink.Yaml.Base64
