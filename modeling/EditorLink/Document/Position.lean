import EditorLink.Document
/-!
# Positions and offsets

A position names a line and a character on it; the server speaks in positions,
the editor in offsets. On the lines of a document the two are the same order.
A position in column zero of a line past the end stands for the end.
-/
namespace EditorLink

/-- A place in a document by line and character, both counted from zero. -/
structure Position where
  line : Int
  character : Int
deriving DecidableEq, Inhabited

/-- A stretch of a document between two positions. -/
structure Range where
  start : Position
  stop : Position
deriving DecidableEq, Inhabited

namespace Position

/-- The order of positions in a document. -/
def le (p q : Position) : Bool :=
  p.line < q.line || (p.line = q.line && p.character ≤ q.character)

/-- A position whose numbers can be sent: neither is negative or larger than a 32-bit integer. -/
def sendable (line character : Int) : Except Failure Position :=
  if line < 0 || Failure.maxCoordinate < line then .error (.unsendableLine line)
  else if character < 0 || Failure.maxCoordinate < character then
    .error (.unsendableCharacter character)
  else .ok ⟨line, character⟩

end Position

namespace Document

/-- The offset of a position, or nothing where the document has no such place. -/
def offsetOf? (d : Document) (p : Position) : Option Nat :=
  if p.line < 0 || p.character < 0 then none
  else match lineFrom 0 0 d.lines p.line.toNat with
    | none => if p.character = 0 then some d.length else none
    | some l => if p.character ≤ l.text.length then some (l.start + p.character.toNat) else none

/-- The offset of a position, or zero where the document has no such place. -/
def offsetOrZero (d : Document) (p : Position) : Nat := (d.offsetOf? p).getD 0

/-- The position of an offset. -/
def positionOf (d : Document) (offset : Int) : Except Failure Position := do
  let l ← d.lineAt offset
  Position.sendable l.number (offset - l.start)

/-- The offsets of both ends of a range, if the document has both places. -/
def offsetsOf? (d : Document) (r : Range) : Option (Nat × Nat) := do
  let start ← d.offsetOf? r.start
  let stop ← d.offsetOf? r.stop
  return (start, stop)

end Document
end EditorLink
