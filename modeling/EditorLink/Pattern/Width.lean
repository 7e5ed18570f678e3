import EditorLink.Pattern
/-!
# Widths of patterns

The least and the greatest number of characters that the pieces of a pattern have.
Only a pattern whose two numbers agree can be looked for behind the cursor. A number
without bound counts as one that no count of repetitions reaches.
-/
namespace EditorLink

/-- The least and the greatest width of some pieces. -/
structure Width where
  least : Nat
  most : Nat
deriving DecidableEq

namespace Width

def bound : Nat := 4294967295

def capped (w : Width) : Width := ⟨min w.least (bound - 1), min w.most bound⟩

def add (v w : Width) : Width := ⟨v.least + w.least, v.most + w.most⟩

def either (v w : Width) : Width := ⟨min v.least w.least, max v.most w.most⟩

def fixed? (w : Width) : Option Nat := if w.least = w.most then some w.least else none

end Width

/-- The width of a pattern, given the widths of the groups outside it. -/
def Pattern.width (groups : Nat → Width) : Pattern → Width
  | empty => ⟨0, 0⟩
  | one _ => ⟨1, 1⟩
  | seq p q => ((p.width groups).add (q.width groups)).capped
  | alt p q => (p.width groups).either (q.width groups)
  | times p least most _ =>
    let w := p.width groups
    Width.capped ⟨w.least * least, w.most * most.getD Width.bound⟩
  | place _ => ⟨0, 0⟩
  | group _ p => p.width groups
  | again index _ => groups index
  | given _ yes no => (yes.width groups).either (no.width groups)
  | ahead _ _ => ⟨0, 0⟩
  | behind _ _ _ => ⟨0, 0⟩
  | settled p => p.width groups

end EditorLink
