/-!
# Places in a YAML text

What is still to be read, with the number of characters read, and the line and the
column that has been reached. Columns and lines decide what belongs together.
-/
namespace EditorLink.Yaml

def isBreak (c : Char) : Bool :=
  c = '\n' || c = '\r' || c = '\x85' || c = '\u2028' || c = '\u2029'

/-- Whether a character is a space or a tab, or ends a line. -/
def isGap (c : Char) : Bool := c = ' ' || c = '\t' || isBreak c

def isAllowed (c : Char) : Bool :=
  c = '\t' || c = '\n' || c = '\r' || (' ' ≤ c && c ≤ '~') || c = '\x85' ||
    ('\xa0' ≤ c && c ≤ '\ufffd') || '\uffff' < c

/-- A place in a text. -/
structure Cursor where
  rest : List Char
  index : Nat
  line : Nat
  column : Nat
deriving DecidableEq

namespace Cursor

def ofText (s : List Char) : Cursor := ⟨s, 0, 0, 0⟩

def peek (c : Cursor) : Option Char := c.rest.head?

def ahead (c : Cursor) (n : Nat) : Option Char := c.rest[n]?

/-- Whether nothing or one of some characters stands a number of places ahead. -/
def endsWith (c : Cursor) (n : Nat) (p : Char → Bool) : Bool := (c.ahead n).all p

def atLineEnd (c : Cursor) : Bool := c.endsWith 0 isBreak

/-- The place behind the next character. -/
def next (c : Cursor) : Cursor :=
  match c.rest with
  | [] => c
  | ch :: rest =>
    if isBreak ch && !(ch = '\r' && rest.head? = some '\n') then ⟨rest, c.index + 1, c.line + 1, 0⟩
    else ⟨rest, c.index + 1, c.line, if ch = '\ufeff' then c.column else c.column + 1⟩

def skip : Nat → Cursor → Cursor
  | 0, c => c
  | n + 1, c => skip n c.next

/-- The characters up to the first that is none of some, and the place there. -/
def span (c : Cursor) (p : Char → Bool) : List Char × Cursor :=
  let run := c.rest.takeWhile p
  (run, skip run.length c)

def skipSpaces (c : Cursor) : Cursor := (c.span (· = ' ')).2

/-- The place behind at most so many spaces that a column is reached. -/
def skipSpacesTo (c : Cursor) (column : Nat) : Cursor :=
  skip ((c.rest.take (column - c.column)).takeWhile (· = ' ')).length c

def skipLine (c : Cursor) : Cursor := (c.span (!isBreak ·)).2

/-- The end of a line as it counts in a text, and the place behind it. -/
def lineBreak? (c : Cursor) : Option (Char × Cursor) :=
  match c.rest with
  | '\r' :: '\n' :: _ => some ('\n', c.next.next)
  | ch :: _ =>
    if ch = '\u2028' || ch = '\u2029' then some (ch, c.next)
    else if isBreak ch then some ('\n', c.next)
    else none
  | [] => none

/-- Whether a line that separates documents stands here. -/
def atSeparator (c : Cursor) : Bool :=
  (c.rest.take 3 = ['-', '-', '-'] || c.rest.take 3 = ['.', '.', '.']) && c.endsWith 3 isGap

/-- The place behind spaces and a comment, which must be where the line ends. -/
def restOfLine? (c : Cursor) : Option Cursor :=
  let c := c.skipSpaces
  let c := if c.peek = some '#' then c.skipLine else c
  if c.atLineEnd then some ((c.lineBreak?.map (·.2)).getD c) else none

end Cursor
end EditorLink.Yaml
