/-!
# Doubles by their bits

A double-precision number is held as its 64 bits, so that the two zeros stay apart and
what is no number keeps its sign. Arithmetic rounds to the nearest double. It hands on
an operand that is no number; an operation without a result has a minus.
-/
namespace EditorLink

/-- A double-precision number: a sign, an exponent and a fraction. -/
structure Double where
  bits : UInt64
deriving DecidableEq, Inhabited

namespace Double

def ofFloat (x : Float) : Double := ⟨x.toBits⟩

def toFloat (x : Double) : Float := .ofBits x.bits

instance : OfScientific Double := ⟨fun m s e => ofFloat (OfScientific.ofScientific m s e)⟩

def signBit : UInt64 := 0x8000000000000000

/-- Infinity; its exponent has all bits and its fraction none. -/
def infinity : Double := ⟨0x7ff0000000000000⟩

def undefined : Double := ⟨0x7ff8000000000000⟩

def neg (x : Double) : Double := ⟨x.bits + signBit⟩

instance : Neg Double := ⟨neg⟩

def magnitude (x : Double) : UInt64 := x.bits % signBit

def isUndefined (x : Double) : Bool := infinity.bits < x.magnitude

def isInfinite (x : Double) : Bool := x.magnitude == infinity.bits

def isZero (x : Double) : Bool := x.magnitude == 0

/-- Whether two doubles are the same number; what is no number is not even the same as itself. -/
def isSame (x y : Double) : Bool := x.toFloat == y.toFloat

def whole? (x : Double) : Option Int :=
  let f := x.toFloat
  if f == f.floor then some f.toInt64.toInt else none

instance : LT Double := ⟨fun x y => x.toFloat < y.toFloat⟩

instance (x y : Double) : Decidable (x < y) := inferInstanceAs (Decidable (x.toFloat < y.toFloat))

/-- The result of an operation on two doubles. -/
def combine (operation : Float → Float → Float) (x y : Double) : Double :=
  if x.isUndefined then x
  else if y.isUndefined then y
  else
    let result := ofFloat (operation x.toFloat y.toFloat)
    if result.isUndefined then -undefined else result

instance : Add Double := ⟨combine (· + ·)⟩

instance : Mul Double := ⟨combine (· * ·)⟩

@[simp] theorem neg_neg (x : Double) : - -x = x := by
  rcases x with ⟨bits⟩
  show Double.mk (bits + signBit + signBit) = ⟨bits⟩
  rw [UInt64.add_assoc, show signBit + signBit = 0 from rfl, UInt64.add_zero]

example : (-undefined).bits = 0xfff8000000000000 := by decide

end Double
end EditorLink
