import EditorLink.Document.Position
/-!
# Edits of a text

A splice replaces the characters between two offsets. A batch of splices refers
to one text and takes effect at once; the change events that tell a server about
a batch take effect one after another, which is why they come last splice first.
-/
namespace EditorLink

/-- A replacement of the characters from `start` up to `stop`. -/
structure Splice where
  start : Int
  stop : Int
  inserted : List Char
deriving DecidableEq, Inhabited

/-- How a server is told about a change of a document. -/
inductive ChangeEvent where
  /-- The document has this text from now on. -/
  | whole (text : List Char)
  /-- The stretch of the document is replaced by this text; how long the stretch is may
  be told as well, which adds nothing. -/
  | ranged (range : Range) (text : List Char) (length : Option Int)
deriving DecidableEq, Inhabited

namespace Splice

/-- The text after one splice. -/
def apply (s : Splice) (text : List Char) : List Char :=
  text.take s.start.toNat ++ s.inserted ++ text.drop s.stop.toNat

/-- The text after splices that each refer to the text left by the one before. -/
def applyInTurn (splices : List Splice) (text : List Char) : List Char :=
  splices.foldl (fun t s => s.apply t) text

/-- The text after ascending splices that take effect at once. The text is what
follows the offset `from` of the whole, and each splice copies what lies before it. -/
def applyFrom (offset : Nat) : List Splice → List Char → List Char
  | [], text => text
  | s :: rest, text =>
    text.take (s.start.toNat - offset) ++ s.inserted ++
      applyFrom s.stop.toNat rest (text.drop (s.stop.toNat - offset))

/-- The text after ascending splices that take effect at once. -/
def applyAtOnce (splices : List Splice) (text : List Char) : List Char :=
  applyFrom 0 splices text

/-- Splices in ascending order that do not overlap, all at or behind an offset. -/
def AscendingFrom (offset : Int) : List Splice → Prop
  | [] => True
  | s :: rest => offset ≤ s.start ∧ s.start ≤ s.stop ∧ AscendingFrom s.stop rest

/-- The event that tells a server about one splice of a document. A splice of the
whole document is told as its new text. -/
def event (d : Document) (s : Splice) : Except Failure ChangeEvent :=
  if s.start = 0 && s.stop = d.length then .ok (.whole s.inserted)
  else do
    let start ← d.positionOf s.start
    let stop ← d.positionOf s.stop
    return .ranged ⟨start, stop⟩ s.inserted none

/-- The events that tell a server about splices of one document, last splice first. -/
def events (d : Document) (splices : List Splice) : Except Failure (List ChangeEvent) := do
  let inOrder ← splices.mapM (event d)
  return inOrder.reverse

end Splice

namespace ChangeEvent

/-- What a server makes of an event: the document it holds afterwards. Places that
the document does not have count as its start. -/
def apply (d : Document) : ChangeEvent → Document
  | whole text => .ofText text
  | ranged range text _ =>
    d.replace (d.offsetOrZero range.start) (d.offsetOrZero range.stop) text

/-- The document that a server holds after some events in turn. -/
def applyInTurn (d : Document) (events : List ChangeEvent) : Document :=
  events.foldl apply d

end ChangeEvent
end EditorLink
