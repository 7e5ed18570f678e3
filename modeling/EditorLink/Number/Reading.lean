import EditorLink.Character.Blank
import EditorLink.Character.Decimal
import EditorLink.Number.Binary
/-!
# Reading a number from text

The digits may come from any script, single underscores may stand between
digits, and white space around the number does not count. A whole number may be
written in another base, behind the mark of that base or without it.
-/
namespace EditorLink.Number
open EditorLink.Character

/-- White space around a number. In a text of ASCII characters the four information
separators do not count as such. -/
def isPadding (isPlain : Bool) (c : Char) : Bool :=
  isBlank c && !(isPlain && '\x1c' ≤ c && c ≤ '\x1f')

/-- The text of a number without white space around it. -/
def unpadded (s : List Char) : List Char :=
  let isPlain := s.all fun c => c.toNat < 128
  ((s.dropWhile (isPadding isPlain)).reverse.dropWhile (isPadding isPlain)).reverse

/-- Replaces a digit of any script by the ASCII digit of the same value. -/
def plainDigit (c : Char) : Char :=
  match digitValue? c with
  | some v => Char.ofNat (48 + v)
  | none => c

/-- Drops the underscores between digits; `none` if one stands anywhere else. -/
def dropUnderscores (isDigit : Char → Bool) : List Char → Option (List Char)
  | [] => some []
  | '_' :: _ => none
  | [c] => some [c]
  | c :: '_' :: next :: rest =>
    if isDigit c && isDigit next then (dropUnderscores isDigit (next :: rest)).map (c :: ·)
    else none
  | c :: rest => (dropUnderscores isDigit rest).map (c :: ·)

/-- The value of a hexadecimal digit. -/
def hexValue? (c : Char) : Option Nat :=
  if c.isDigit then some (c.toNat - 48)
  else if 'a' ≤ c && c ≤ 'f' then some (c.toNat - 87)
  else if 'A' ≤ c && c ≤ 'F' then some (c.toNat - 55)
  else none

def valueIn (base : Nat) (digits : List Nat) : Nat := digits.foldl (fun n d => base * n + d) 0

def digitsValue (digits : List Char) : Nat :=
  digits.foldl (fun n c => 10 * n + (c.toNat - 48)) 0

/-- Splits off a sign; the first component tells whether it is a minus. -/
def splitSign : List Char → Bool × List Char
  | '-' :: rest => (true, rest)
  | '+' :: rest => (false, rest)
  | s => (false, s)

/-- The value of an exponent part, which must be empty or complete. -/
def readExponent : List Char → Option Int
  | [] => some 0
  | c :: rest =>
    if c = 'e' || c = 'E' then
      let (negative, digits) := splitSign rest
      if digits ≠ [] && digits.all Char.isDigit then
        let value : Int := digitsValue digits
        some (if negative then -value else value)
      else none
    else none

/-- Reads digits with an optional point and an optional exponent. -/
def readMagnitude (s : List Char) : Option Double :=
  let whole := s.takeWhile Char.isDigit
  let rest := s.dropWhile Char.isDigit
  let (fraction, tail) := match rest with
    | '.' :: r => (r.takeWhile Char.isDigit, r.dropWhile Char.isDigit)
    | r => ([], r)
  if whole = [] && fraction = [] then none
  else (readExponent tail).map fun e =>
    ofDecimal (digitsValue (whole ++ fraction)) (e - fraction.length)

/-- Reads a double: a decimal number, or the word for infinity or for no number. -/
def readFloat? (s : List Char) : Option Double :=
  (dropUnderscores Char.isDigit ((unpadded s).map plainDigit)).bind fun text =>
    let (negative, magnitude) := splitSign text
    let word := magnitude.map Char.toLower
    let value :=
      if word = "inf".toList || word = "infinity".toList then some .infinity
      else if word = "nan".toList then some .undefined
      else readMagnitude magnitude
    value.map fun x => if negative then -x else x

/-- The digits with which a text begins behind white space and a sign. -/
def leadingDigits (s : List Char) : List Char :=
  (splitSign ((unpadded s).map plainDigit)).2.takeWhile Char.isDigit

def baseMark? (base : Nat) : Option Char :=
  [(2, 'b'), (8, 'o'), (16, 'x')].lookup base

/-- Drops the mark of a base, behind which an underscore may stand. -/
def dropBaseMark (base : Nat) (s : List Char) : List Char :=
  match s with
  | '0' :: c :: rest =>
    if baseMark? base = some c.toLower then
      match rest with
      | '_' :: rest => rest
      | _ => rest
    else s
  | _ => s

/-- Reads a whole number in a base of at most sixteen. -/
def readInt? (base : Nat) (s : List Char) : Option Int :=
  let (negative, digits) := splitSign ((unpadded s).map plainDigit)
  (dropUnderscores (fun c => (hexValue? c).isSome) (dropBaseMark base digits)).bind fun text =>
    let values := text.filterMap hexValue?
    if text ≠ [] && values.length = text.length && values.all (· < base) then
      let magnitude : Int := valueIn base values
      some (if negative then -magnitude else magnitude)
    else none

example : readInt? 10 " -1_0 ".toList = some (-10) ∧ readInt? 16 "0x_fF".toList = some 255 := by
  decide +kernel
example : readInt? 10 "1__0".toList = none ∧ readInt? 8 "8".toList = none := by decide +kernel

end EditorLink.Number
