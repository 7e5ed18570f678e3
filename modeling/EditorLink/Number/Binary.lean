import EditorLink.Number.Double
/-!
# Double-precision numbers as exact fractions

A finite double is a whole number times a power of two. Everything that writes a
double works on that exact value in natural-number arithmetic.
-/
namespace EditorLink.Number

def twoTo (e : Nat) : Nat := Nat.pow 2 e

def tenTo (e : Nat) : Nat := Nat.pow 10 e

/-- The parts of a double; the magnitude of a finite one is `significand * 2 ^ exponent`. -/
inductive Parts where
  | finite (negative : Bool) (significand : Nat) (exponent : Int)
  | infinite (negative : Bool)
  | undefined

/-- Reads the sign, exponent and fraction fields of a double. -/
def parts (x : Double) : Parts :=
  let bits := x.bits.toNat
  let negative := bits / twoTo 63 == 1
  let exponent : Nat := bits / twoTo 52 % twoTo 11
  let fraction : Nat := bits % twoTo 52
  if exponent == 2047 then
    if fraction == 0 then .infinite negative else .undefined
  else if exponent == 0 then .finite negative fraction (-1074)
  else .finite negative (twoTo 52 + fraction) ((exponent : Int) - 1075)

/-- A fraction `n * 2 ^ e` as a pair of naturals, the second of them positive. -/
def scaled (n : Nat) (e : Int) : Nat × Nat :=
  if 0 ≤ e then (n * twoTo e.toNat, 1) else (n, twoTo (-e).toNat)

/-- How many decimal digits a number has; zero has one. -/
def digitCount (n : Nat) : Nat := (Nat.toDigits 10 n).length

/-- The most decimal digits with which a whole number is read or written. -/
def maxDigits : Nat := 4300

/-- Whether a whole number does not have too many digits to be written. -/
def isWritable (n : Int) : Bool := n.natAbs < tenTo maxDigits

/-- The decimal exponent of a positive fraction: the least `e` with `num / den < 10 ^ e`. -/
def decimalExponent (num den : Nat) : Int :=
  if den ≤ num then digitCount (num / den)
  else
    let inverse := (den + num - 1) / num
    let shift : Int := 1 - digitCount inverse
    if num * tenTo (-shift).toNat < den then shift else shift + 1

def overTen (num den : Nat) (e : Int) : Nat × Nat :=
  if 0 ≤ e then (num, den * tenTo e.toNat) else (num * tenTo (-e).toNat, den)

/-- A quotient rounded to the nearest whole number; a half goes to the even neighbour. -/
def roundDiv (num den : Nat) : Nat :=
  let low := num / den
  let twice := 2 * (num % den)
  if twice < den then low else if den < twice then low + 1 else low + low % 2

def ofInt (n : Int) : Double :=
  let magnitude : Double := .ofFloat (Float.ofScientific n.natAbs false 0)
  if n < 0 then -magnitude else magnitude

/-- The double nearest to `digits * 10 ^ exponent`; far outside the range it is infinite or zero. -/
def ofDecimal (digits : Nat) (exponent : Int) : Double :=
  if digits == 0 then 0.0
  else
    let top := digitCount digits + exponent
    if 400 < top then .infinity
    else if top < -400 then 0.0
    else if 0 ≤ exponent then .ofFloat (Float.ofScientific digits false exponent.toNat)
    else .ofFloat (Float.ofScientific digits true (-exponent).toNat)

end EditorLink.Number
