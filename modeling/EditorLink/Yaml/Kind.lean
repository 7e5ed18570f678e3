import EditorLink.Number.Reading
import EditorLink.Yaml.Moment
import EditorLink.Yaml.Scalar
/-!
# What scalars and collections are meant for

A tag says what a tree is meant for. A scalar without quotes says it by its form: it
may be the name of a truth value or of nothing, a number or a date. Whole numbers may
be written in base two, eight, ten and sixteen, and in base sixty with colons.
-/
namespace EditorLink.Yaml
open EditorLink.Number

/-- What a tree is meant for. -/
inductive Kind where
  | null
  | truth
  | whole
  | point
  | binary
  | moment
  | text
  | sequence
  | mapping
  | set
  /-- A sequence of mappings with one entry each. -/
  | pairs
  /-- The key that brings in the entries of other mappings. -/
  | merge
  /-- The sign that stands for a default value. -/
  | standard
  /-- Something that nobody knows how to make. -/
  | stranger
deriving DecidableEq

/-- Whether a name is written in lower case, in upper case, or with one capital at the start. -/
def isPlainCase (name : List Char) : Bool :=
  name.all Char.isLower || name.all Char.isUpper ||
    (name.take 1).all Char.isUpper && (name.drop 1).all Char.isLower

/-- The truth value that a name in lower case stands for. -/
def truth? (name : List Char) : Option Bool :=
  if ["yes", "true", "on"].any (·.toList = name) then some true
  else if ["no", "false", "off"].any (·.toList = name) then some false
  else none

def isTruthText (s : List Char) : Bool := isPlainCase s && (truth? (s.map Char.toLower)).isSome

def isNullText (s : List Char) : Bool :=
  ["", "~", "null", "Null", "NULL"].any (·.toList = s)

/-- Whether a character is a digit of a base or an underscore. -/
def isDigitOf (base : Nat) (c : Char) : Bool := c = '_' || (hexValue? c).any (· < base)

/-- Whether a text is made of digits of a base and underscores, and is not empty. -/
def areDigits (base : Nat) (s : List Char) : Bool := s ≠ [] && s.all (isDigitOf base)

/-- Whether a text is the part of a number in base sixty behind a colon. -/
def isSixtieth (s : List Char) : Bool :=
  match s with
  | [d] => d.isDigit
  | [t, d] => '0' ≤ t && t ≤ '5' && d.isDigit
  | _ => false

/-- Whether a text starts with a digit and goes on with digits and underscores. -/
def isWhole (s : List Char) : Bool :=
  s.head?.any Char.isDigit && s.all (isDigitOf 10)

/-- Whether a plain scalar is a whole number. -/
def isWholeText (s : List Char) : Bool :=
  match (splitSign s).2 with
  | '0' :: 'b' :: digits => areDigits 2 digits
  | '0' :: 'x' :: digits => areDigits 16 digits
  | ['0'] => true
  | '0' :: digits => areDigits 8 digits
  | body =>
    match Text.pieces (· = ':') body with
    | first :: rest => isWhole first && rest.all isSixtieth
    | [] => false

/-- Whether a text is empty or an exponent with a sign. -/
def isExponent (s : List Char) : Bool :=
  match s with
  | [] => true
  | e :: sign :: digits =>
    (e = 'e' || e = 'E') && (sign = '+' || sign = '-') && digits ≠ [] && digits.all Char.isDigit
  | _ => false

/-- Whether a plain scalar is a number with a point. -/
def isPointText (s : List Char) : Bool :=
  let (_, body) := splitSign s
  let isSigned := body.length ≠ s.length
  if [".inf", ".Inf", ".INF"].any (·.toList = body) then true
  else if [".nan", ".NaN", ".NAN"].any (·.toList = s) then true
  else
    let whole := body.takeWhile fun c => c ≠ '.'
    match body.dropWhile fun c => c ≠ '.' with
    | [] => false
    | _ :: tail =>
      let fraction := tail.takeWhile (isDigitOf 10)
      let exponent := tail.dropWhile (isDigitOf 10)
      match Text.pieces (· = ':') whole with
      | [] => false
      | [[]] => !isSigned && fraction.head?.any Char.isDigit && isExponent exponent
      | [digits] => isWhole digits && isExponent exponent
      | first :: rest => isWhole first && rest.all isSixtieth && exponent = []

namespace Kind

def tagStart : String := "tag:yaml.org,2002:"

def tags : List (String × Kind) := [("null", null), ("bool", truth), ("int", whole),
  ("float", point), ("binary", binary), ("timestamp", moment), ("str", text), ("seq", sequence),
  ("map", mapping), ("set", set), ("omap", pairs), ("pairs", pairs), ("merge", merge),
  ("value", standard)]

def ofTag (tag : String) : Kind :=
  ((tags.find? fun (name, _) => tagStart ++ name = tag).map (·.2)).getD stranger

/-- What a plain scalar is meant for by its form. A line break at its end does not count. -/
def ofPlain (s : List Char) : Kind :=
  let body := withoutLastBreak s
  if s ≠ [] && body = [] then text
  else if isTruthText body then truth
  else if isNullText body then null
  else if isWholeText body then whole
  else if isPointText body then point
  else if Moment.isPlain body then moment
  else if body = ['<', '<'] then merge
  else if body = ['='] then standard
  else if [['!'], ['&'], ['*']].contains body then stranger
  else text

def isCollection : Kind → Bool
  | sequence | mapping | set | pairs => true
  | _ => false

def loopText : Kind → List Char
  | mapping => "\x7b...\x7d".toList
  | set => "set(...)".toList
  | _ => "[...]".toList

example : (ofPlain "1:30".toList, ofPlain "1e3".toList, ofPlain "~".toList) = (whole, text, null) := by
  decide +kernel

end Kind
end EditorLink.Yaml
