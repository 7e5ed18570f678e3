import EditorLink.Number.Binary
/-!
# Writing doubles in decimal

Two choices of digits, the fewest that read back to the same double and a fixed
number of significant ones, share one layout: positional while the exponent is
moderate, and scientific outside that range.
-/
namespace EditorLink.Number

/-- How chosen digits are laid out. -/
structure Layout where
  /-- The decimal exponent at which scientific notation takes over. -/
  scientificFrom : Int
  /-- Whether a whole number in positional notation ends in a zero after the point. -/
  keepPoint : Bool

/-- Digits and the exponent of the point: the value is `0.d₁d₂… * 10 ^ point`. -/
structure Decimal where
  digits : List Char
  point : Int

def dropTrailingZeros (digits : List Char) : List Char :=
  match (digits.reverse.dropWhile (· = '0')).reverse with
  | [] => ['0']
  | kept => kept

/-- A number with at least two digits, as exponents are written. -/
def twoDigits (n : Nat) : List Char :=
  let digits := Nat.toDigits 10 n
  if digits.length < 2 then '0' :: digits else digits

/-- Writes chosen digits; positional notation starts at a ten-thousandth. -/
def Layout.write (layout : Layout) (d : Decimal) : List Char :=
  let exponent := d.point - 1
  if exponent < -4 || layout.scientificFrom ≤ exponent then
    let mantissa := match d.digits with
      | [] => []
      | [only] => [only]
      | first :: rest => first :: '.' :: rest
    mantissa ++ ['e', if exponent < 0 then '-' else '+'] ++ twoDigits exponent.natAbs
  else if d.point ≤ 0 then
    ['0', '.'] ++ List.replicate (-d.point).toNat '0' ++ d.digits
  else
    let whole := d.point.toNat
    if d.digits.length ≤ whole then
      d.digits ++ List.replicate (whole - d.digits.length) '0' ++
        (if layout.keepPoint then ['.', '0'] else [])
    else d.digits.take whole ++ '.' :: d.digits.drop whole

/-- The significant digits of a positive fraction, rounded to a fixed number of them. -/
def roundedDecimal (count : Nat) (num den : Nat) : Decimal :=
  let point := decimalExponent num den
  let (n, d) := overTen num den (point - count)
  let value := roundDiv n d
  let digits := Nat.toDigits 10 value
  ⟨dropTrailingZeros digits, if count < digits.length then point + 1 else point⟩

/-- The points halfway to the neighbouring doubles, over a common denominator with the value. -/
structure Interval where
  low : Nat
  high : Nat
  den : Nat
  closed : Bool

/-- The numbers that round to the double `significand * 2 ^ exponent`. -/
def roundingInterval (significand : Nat) (exponent : Int) : Interval :=
  let narrow := significand == twoTo 52 && -1074 < exponent
  let below := if narrow then 4 * significand - 1 else 4 * significand - 2
  let (low, den) := scaled below (exponent - 2)
  let (high, _) := scaled (4 * significand + 2) (exponent - 2)
  ⟨low, high, den, significand % 2 == 0⟩

/-- Whether the fraction `n / d` rounds to the double of the interval. -/
def Interval.holds (i : Interval) (n d : Nat) : Bool :=
  let value := n * i.den
  if i.closed then i.low * d ≤ value && value ≤ i.high * d
  else i.low * d < value && value < i.high * d

/-- Searches the decimal grids from coarse to fine for one with a point in the interval. -/
def shortestFrom (i : Interval) (num den : Nat) (point : Int) : Nat → Nat → Decimal
  | 0, count => roundedDecimal count num den
  | fuel + 1, count =>
    let grid := point - count
    let (n, d) := overTen num den grid
    let low := n / d
    let fits (k : Nat) : Bool :=
      if 0 ≤ grid then i.holds (k * tenTo grid.toNat) 1 else i.holds k (tenTo (-grid).toNat)
    let nearest := roundDiv n d
    let chosen := if fits nearest then some nearest
      else if 0 < low && fits low then some low
      else if fits (low + 1) then some (low + 1)
      else none
    match chosen with
    | some k =>
      let digits := Nat.toDigits 10 k
      ⟨dropTrailingZeros digits, if count < digits.length then point + 1 else point⟩
    | none => shortestFrom i num den point fuel (count + 1)

/-- The fewest digits that read back to `significand * 2 ^ exponent`. -/
def shortestDecimal (significand : Nat) (exponent : Int) : Decimal :=
  let (num, den) := scaled significand exponent
  shortestFrom (roundingInterval significand exponent) num den (decimalExponent num den) 17 1

def signed (negative : Bool) (text : List Char) : List Char :=
  if negative then '-' :: text else text

/-- Writes a double with the digits that `choose` picks for its magnitude. -/
def writeWith (layout : Layout) (choose : Nat → Int → Decimal) (x : Double) : List Char :=
  match parts x with
  | .undefined => "nan".toList
  | .infinite negative => signed negative "inf".toList
  | .finite negative significand exponent =>
    signed negative <| layout.write <|
      if significand == 0 then ⟨['0'], 1⟩ else choose significand exponent

/-- The fewest digits that read back, positional below ten to the sixteenth. -/
def shortest (x : Double) : List Char := writeWith ⟨16, true⟩ shortestDecimal x

/-- At most six significant digits, without a point where none is needed. -/
def sixDigits (x : Double) : List Char :=
  writeWith ⟨6, false⟩ (fun m e => let (n, d) := scaled m e; roundedDecimal 6 n d) x

end EditorLink.Number
