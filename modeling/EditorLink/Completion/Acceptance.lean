import EditorLink.Completion.Item
import EditorLink.Completion.Snippet
import EditorLink.Document.Splice
/-!
# Accepting a completion

An item that is accepted changes the document at the cursor and perhaps elsewhere.
The changes elsewhere come last in the document first, so that they can be made
one after another.
-/
namespace EditorLink.Completion

/-- What accepting an item does to the document. -/
structure Acceptance where
  change : Splice
  /-- Whether the inserted text is a snippet. -/
  isSnippet : Bool
  additional : List Splice

/-- The splice of a replacement; places that the document does not have count as its start. -/
def splice (d : Document) (edit : TextEdit) : Splice :=
  ⟨d.offsetOrZero edit.range.start, d.offsetOrZero edit.range.stop, edit.newText⟩

/-- The splice of a replacement away from the cursor. One whose end the document
does not have becomes an insertion. -/
def additionalSplice (d : Document) (edit : TextEdit) : Splice :=
  let start := d.offsetOrZero edit.range.start
  ⟨start, (d.offsetOf? edit.range.stop).getD start, edit.newText⟩

/-- The order of edits by where they end, the last first. -/
def laterFirst (d : Document) (a b : TextEdit) : Bool :=
  d.offsetOrZero b.range.stop ≤ d.offsetOrZero a.range.stop

/-- The change at the cursor: the replacement of the item, or else its snippet if
the editor takes snippets, or else its label. -/
def mainChange (d : Document) (item : CompletionItem) (start stop : Int) (takesSnippets : Bool) :
    Splice × Bool :=
  match item.replacement? with
  | some edit => (splice d edit, false)
  | none =>
    let snippet := (item.insertText.getD "").toList
    if snippet ≠ [] && item.isSnippet && takesSnippets then
      (⟨start, stop, Snippet.convert snippet⟩, true)
    else (⟨start, stop, item.label.toList⟩, false)

/-- What accepting an item for the text between two offsets does. -/
def accept (d : Document) (item : CompletionItem) (start stop : Int) (takesSnippets : Bool) :
    Acceptance :=
  let (change, isSnippet) := mainChange d item start stop takesSnippets
  ⟨change, isSnippet,
    (item.additionalEdits.mergeSort (laterFirst d)).map (additionalSplice d)⟩

end EditorLink.Completion
