import EditorLink.Text.Quoted
import EditorLink.Yaml.Moment
/-!
# Faults of YAML texts

Why a text stands for nothing. Most faults are against the form of the language; others
are found when a scalar is made into what its tag calls for.
-/
namespace EditorLink.Yaml

/-- Why a text stands for nothing. -/
inductive Fault where
  /-- The text is not well formed, or has a tag that cannot be used. -/
  | malformed
  /-- An escape stands for a character beyond all code points. -/
  | charOutside
  /-- A text is no whole number in a base. -/
  | noNumber (base : Nat) (text : List Char)
  /-- A whole number has too many digits. -/
  | overlongNumber (digits : Nat)
  | noDouble (text : List Char)
  /-- Nothing stands where a number is called for. -/
  | emptyNumber
  | noTruth (text : List Char)
  | noMoment
  | momentOutside (f : MomentFault)
deriving DecidableEq

namespace Fault
open Text

/-- What is said about a text that stands for nothing. -/
def message : Fault → String
  | malformed => "Invalid YAML"
  | charOutside => "chr() arg not in range(0x110000)"
  | noNumber base text => s!"invalid literal for int() with base {base}: " ++
      String.ofList ((quoted text).take 200)
  | overlongNumber digits =>
    s!"Exceeds the limit ({Number.maxDigits} digits) for integer string conversion: " ++
      s!"value has {digits} digits; use sys.set_int_max_str_digits() to increase the limit"
  | noDouble text => "could not convert string to float: " ++ String.ofList (quoted text)
  | emptyNumber => "string index out of range"
  | noTruth text => String.ofList (quoted text)
  | noMoment => "'NoneType' object has no attribute 'groupdict'"
  | momentOutside f => f.message

end Fault
end EditorLink.Yaml
