import EditorLink.Failure
import EditorLink.Text.Pieces
/-!
# Documents

A document is a non-empty list of lines. Offsets count characters, one for each
line break, so the text of a document is its lines joined by newlines. Every
offset from zero to the length lies on exactly one line, the first one that it
does not lie behind.
-/
namespace EditorLink
open Text

/-- The contents of a document, line by line. -/
structure Document where
  lines : List (List Char)
  lines_ne_nil : lines ≠ []
deriving DecidableEq

/-- One line of a document with its number and the offset at which it starts. -/
structure Line where
  number : Nat
  start : Nat
  text : List Char
deriving DecidableEq

/-- The offset behind the last character of a line. -/
def Line.stop (l : Line) : Nat := l.start + l.text.length

namespace Document

/-- The document with the given lines; without any it has one empty line. -/
def ofLines (lines : List (List Char)) : Document :=
  if h : lines = [] then ⟨[[]], by simp⟩ else ⟨lines, h⟩

/-- The document with the given text. -/
def ofText (s : List Char) : Document := ⟨splitLines (unixNewlines s), pieces_ne_nil _ _⟩

/-- The document that every editor starts with: one empty line. -/
def empty : Document := ⟨[[]], by simp⟩

instance : Inhabited Document := ⟨empty⟩

/-- The text of a document. -/
def text (d : Document) : List Char := joinLines d.lines

/-- How many lines a document has. -/
def lineCount (d : Document) : Nat := d.lines.length

/-- The characters of some lines and the breaks between them. -/
def extent : List (List Char) → Nat
  | [] => 0
  | [line] => line.length
  | line :: rest => line.length + 1 + extent rest

/-- The offset behind the last character. -/
def length (d : Document) : Nat := extent d.lines

/-- The number of the last line. -/
def lastLine (d : Document) : Nat := d.lineCount - 1

/-- The line with a number, where the first of `lines` has the given number and start. -/
def lineFrom (number start : Nat) : List (List Char) → Nat → Option Line
  | [], _ => none
  | line :: _, 0 => some ⟨number, start, line⟩
  | line :: rest, n + 1 => lineFrom (number + 1) (start + line.length + 1) rest n

/-- The line with a number. -/
def line (d : Document) (number : Int) : Except Failure Line :=
  if number < 0 then .error (.lineOutOfRange number d.lastLine)
  else match lineFrom 0 0 d.lines number.toNat with
    | some l => .ok l
    | none => .error (.lineOutOfRange number d.lastLine)

/-- The first line that an offset does not lie behind. -/
def locateFrom (number start : Nat) : List (List Char) → Nat → Option Line
  | [], _ => none
  | line :: rest, offset =>
    if offset ≤ start + line.length then some ⟨number, start, line⟩
    else locateFrom (number + 1) (start + line.length + 1) rest offset

/-- The line on which an offset lies. -/
def lineAt (d : Document) (offset : Int) : Except Failure Line :=
  if offset < 0 then .error (.offsetOutOfRange offset d.length)
  else match locateFrom 0 0 d.lines offset.toNat with
    | some l => .ok l
    | none => .error (.offsetOutOfRange offset d.length)

/-- The text from an offset on one line to an offset on another, which may be the same line. -/
def between (d : Document) (first last : Line) (start stop : Nat) : List Char :=
  if first.number = last.number then
    (first.text.take (stop - first.start)).drop (start - first.start)
  else
    let inner := (d.lines.take last.number).drop (first.number + 1)
    joinLines (first.text.drop (start - first.start) ::
      (inner ++ [last.text.take (stop - last.start)]))

/-- The text between two offsets; without a second one, up to the end. -/
def slice (d : Document) (start : Int) (stop : Option Int) : Except Failure (List Char) := do
  let stop := stop.getD d.length
  let first ← d.lineAt start
  let last ← d.lineAt stop
  return d.between first last start.toNat stop.toNat

/-- The document in which the text between two cut positions is replaced. -/
def replace (d : Document) (start stop : Int) (inserted : List Char) : Document :=
  let content := d.text
  ofText (content.take (cutIndex content.length start) ++ inserted ++
    content.drop (cutIndex content.length stop))

example : ofText "a\r\nb\rc\n".toList = ⟨[['a'], ['b', '\r', 'c'], []], by decide⟩ := by decide

end Document
end EditorLink
