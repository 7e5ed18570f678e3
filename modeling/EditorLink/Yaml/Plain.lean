import EditorLink.Character.Case
import EditorLink.Value
import EditorLink.Yaml.Base64
import EditorLink.Yaml.Fault
import EditorLink.Yaml.Kind
/-!
# What scalars stand for

A scalar is made into what it is meant for. Underscores in numbers do not count. What is
meant for a number by its tag need not have the form of one.
-/
namespace EditorLink.Yaml
open EditorLink.Number

/-- A number without its sign, which may be missing, and whether it is a minus. -/
def unsigned (s : List Char) : Except Fault (Bool × List Char) :=
  if s = [] then .error .emptyNumber else .ok (splitSign s)

/-- The whole number in a base that a text stands for. In base ten the digits are counted before
it is asked whether anything else follows them. -/
def numberIn (base : Nat) (s : List Char) : Except Fault Int :=
  let digits := (leadingDigits s).length
  if base = 10 && maxDigits < digits then .error (.overlongNumber digits)
  else
    match readInt? base s with
    | some n => .ok n
    | none => .error (.noNumber base s)

def sixtieths (parts : List Int) : Int := parts.foldl (fun n part => 60 * n + part) 0

/-- The whole number that a text stands for. -/
def wholeNumber (s : List Char) : Except Fault Int := do
  let (isNegative, body) ← unsigned (s.filter (· ≠ '_'))
  let magnitude ← match body with
    | [] => .error .emptyNumber
    | ['0'] => .ok 0
    | '0' :: 'b' :: digits => numberIn 2 digits
    | '0' :: 'x' :: digits => numberIn 16 digits
    | '0' :: _ => numberIn 8 body
    | body =>
      if body.contains ':' then ((Text.pieces (· = ':') body).mapM (numberIn 10)).map sixtieths
      else numberIn 10 body
  return if isNegative then -magnitude else magnitude

def doubleOf (s : List Char) : Except Fault Double :=
  match readFloat? s with
  | some x => .ok x
  | none => .error (.noDouble s)

/-- The value of a number in base sixty with a point, starting from its last part. -/
def pointSixtieths (parts : List Double) : Double :=
  (parts.foldl (fun (sum, base) x => (sum + x * ofInt base, 60 * base)) ((0.0 : Double), (1 : Int))).1

/-- The number with a point that a text stands for. What is no number has a minus. -/
def pointNumber (s : List Char) : Except Fault Double := do
  let (isNegative, body) ← unsigned (Character.lowercase (s.filter (· ≠ '_')))
  if body = ".nan".toList then return -Double.undefined
  let magnitude ←
    if body = ".inf".toList then .ok Double.infinity
    else if body.contains ':' then
      ((Text.pieces (· = ':') body).mapM doubleOf).map fun parts => pointSixtieths parts.reverse
    else doubleOf body
  return (if isNegative then -1.0 else 1.0) * magnitude

/-- The date that a text stands for. -/
def momentOf (s : List Char) : Except Fault Moment :=
  match Moment.read? s with
  | none => .error .noMoment
  | some m =>
    match m.fault? with
    | some f => .error (.momentOutside f)
    | none => .ok m

/-- What a text stands for that is meant for something. -/
def scalarValue (kind : Kind) (s : List Char) : Except Fault Value :=
  match kind with
  | .null => .ok .null
  | .truth =>
    let name := Character.lowercase s
    match truth? name with
    | some b => .ok (.bool b)
    | none => .error (.noTruth name)
  | .whole => (wholeNumber s).map .int
  | .point => (pointNumber s).map .float
  | .binary =>
    match if s.all (·.toNat < 128) then Base64.decode? s else none with
    | some bytes => .ok (.bytes bytes)
    | none => .error .malformed
  | .moment => (momentOf s).map fun m => .other m.kind m.text true
  | .text => .ok (.text (String.ofList s))
  | _ => .error .malformed

example : wholeNumber "1:30".toList matches .ok 90 := by decide +kernel
example : wholeNumber "0x_".toList matches .error (.noNumber 16 []) := by decide +kernel

end EditorLink.Yaml
