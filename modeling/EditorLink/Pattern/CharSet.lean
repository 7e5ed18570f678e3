import EditorLink.Character.Blank
import EditorLink.Character.Caseless
import EditorLink.Character.Decimal
import EditorLink.Character.Word
/-!
# Character sets

Patterns name characters by ranges of code points and by kinds. A kind may be meant
for all scripts or for ASCII alone, and a set may ignore case.
-/
namespace EditorLink
open Character

/-- A kind of character that a pattern can name. -/
inductive CharKind where
  | word
  | decimal
  | blank
deriving DecidableEq

def CharKind.holdsPlain : CharKind → Char → Bool
  | word, c => c.isAlphanum || c = '_'
  | decimal, c => c.isDigit
  | blank, c => c = ' ' || ('\t' ≤ c && c ≤ '\r')

/-- Whether a character is of a kind, in all scripts or in ASCII alone. -/
def CharKind.holds (k : CharKind) (isPlain : Bool) (c : Char) : Bool :=
  if isPlain then k.holdsPlain c
  else match k with
    | word => isWord c
    | decimal => isDecimal c
    | blank => isBlank c

/-- How far case counts. -/
inductive CaseRule where
  | exact
  /-- The case of ASCII letters does not count. -/
  | plain
  /-- Case does not count. -/
  | caseless
deriving DecidableEq

namespace CaseRule

/-- The characters that count as the same as a character. -/
def mates : CaseRule → Char → List Char
  | exact, c => [c]
  | plain, c => plainCaseMates c
  | caseless, c => caseMates c

/-- The form of a character in which it is compared with others. -/
def fold : CaseRule → Char → Char
  | exact, c => c
  | plain, c => c.toLower
  | caseless, c => lowerOf c

end CaseRule

/-- A part of a character set: a range of code points, or a kind or its complement. -/
inductive CharPart where
  | range (first last : Nat)
  | kind (k : CharKind) (isPlain negated : Bool)
deriving DecidableEq

def CharPart.holds (rule : CaseRule) : CharPart → Char → Bool
  | range first last, c => (rule.mates c).any fun m => first ≤ m.toNat && m.toNat ≤ last
  | kind k isPlain negated, c => k.holds isPlain (rule.fold c) != negated

/-- The characters in one of some parts, or in none of them. -/
structure CharSet where
  rule : CaseRule
  parts : List CharPart
  negated : Bool
deriving DecidableEq

namespace CharSet

def holds (s : CharSet) (c : Char) : Bool := (s.parts.any (·.holds s.rule c)) != s.negated

def single (c : Char) : CharSet := ⟨.exact, [.range c.toNat c.toNat], false⟩

def words : CharSet := ⟨.exact, [.kind .word false false], false⟩

end CharSet
end EditorLink
