import EditorLink.Completion.Item
import EditorLink.Document.Splice
import EditorLink.Wire.Shape.Document
/-!
# Places and edits on the wire

How positions, ranges, edits and change events are written in messages, and how
they are read. A member that is null counts as absent, and so does a member that the
shape of the message does not name.
-/
namespace EditorLink.Wire

def members (fields : List (String × Option Value)) : Value :=
  Value.object (fields.filterMap fun (key, v) => v.map (key, ·))

def ofChars (s : List Char) : Value := .text (String.ofList s)

def ofPosition (p : Position) : Value :=
  Value.object [("line", .int p.line), ("character", .int p.character)]

def position? (v : Value) : Option Position := do
  let line ← (← member? "line" v).int?
  let character ← (← member? "character" v).int?
  return ⟨line, character⟩

def ofRange (r : Range) : Value :=
  Value.object [("start", ofPosition r.start), ("end", ofPosition r.stop)]

def range? (v : Value) : Option Range := do
  let start ← position? (← member? "start" v)
  let stop ← position? (← member? "end" v)
  return ⟨start, stop⟩

def textEdit? (v : Value) : Option TextEdit := do
  let range ← range? (← member? "range" v)
  let newText ← (← member? "newText" v).text?
  return ⟨range, newText.toList⟩

/-- Reads what an item does to the document. -/
def itemEdit? (v : Value) : Option ItemEdit :=
  let carried := conform .itemEdit v
  match textEdit? carried with
  | some edit => some (.replacement edit)
  | none => do
    let newText ← (← member? "newText" carried).text?
    let insert ← range? (← member? "insert" carried)
    let replace ← range? (← member? "replace" carried)
    return .choice newText.toList insert replace

/-- Writes a change event. -/
def ofEvent : ChangeEvent → Value
  | .whole text => Value.object [("text", ofChars text)]
  | .ranged range text length =>
    members [("range", some (ofRange range)), ("text", some (ofChars text)),
      ("rangeLength", length.map .int)]

/-- Reads a change event. -/
def event? (v : Value) : Option ChangeEvent := do
  let text ← (← member? "text" v).text?
  match member? "range" v with
  | none => return .whole text.toList
  | some r =>
    return .ranged (← range? r) text.toList ((member? "rangeLength" v).bind Value.int?)

end EditorLink.Wire
