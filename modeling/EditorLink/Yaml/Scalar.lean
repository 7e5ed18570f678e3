import EditorLink.Number.Reading
import EditorLink.Yaml.Cursor
import EditorLink.Yaml.Fault
/-!
# Scalars in a YAML text

The three ways of writing a single text: as it is, in quotes, and as a block of
indented lines. In the first two a line break counts as a space, and blank lines as
line breaks.
-/
namespace EditorLink.Yaml
open EditorLink.Number EditorLink.Yaml.Cursor

/-- The characters that one letter behind a backslash stands for. -/
def letterEscape? : Char → Option Char
  | '0' => some '\x00'
  | 'a' => some '\x07'
  | 'b' => some '\x08'
  | 't' => some '\t'
  | '\t' => some '\t'
  | 'n' => some '\n'
  | 'v' => some '\x0b'
  | 'f' => some '\x0c'
  | 'r' => some '\r'
  | 'e' => some '\x1b'
  | ' ' => some ' '
  | '"' => some '"'
  | '\\' => some '\\'
  | '/' => some '/'
  | 'N' => some '\x85'
  | '_' => some '\xa0'
  | 'L' => some '\u2028'
  | 'P' => some '\u2029'
  | _ => none

/-- How many hexadecimal digits follow a letter behind a backslash. -/
def escapeWidth? : Char → Option Nat
  | 'x' => some 2
  | 'u' => some 4
  | 'U' => some 8
  | _ => none

/-- The line breaks from here on, with blanks between them. In quotes no line may
separate documents. -/
def quotedBreaks : Nat → Cursor → Except Fault (List Char × Cursor)
  | 0, _ => .error .malformed
  | fuel + 1, c =>
    if c.atSeparator then .error .malformed
    else
      let c := (c.span fun ch => ch = ' ' || ch = '\t').2
      match c.lineBreak? with
      | none => .ok ([], c)
      | some (ch, c) => (quotedBreaks fuel c).map fun (more, c) => (ch :: more, c)

/-- What a line break and the blank lines after it count for. -/
def folded (first : Char) (more : List Char) : List Char :=
  if first ≠ '\n' then first :: more
  else if more = [] then [' ']
  else more

/-- What a backslash and the characters behind it count for; the place is behind the backslash. -/
def escape (fuel : Nat) (c : Cursor) : Except Fault (List Char × Cursor) :=
  match c.peek with
  | none => .error .malformed
  | some ch =>
    match letterEscape? ch, escapeWidth? ch with
    | some meant, _ => .ok ([meant], c.next)
    | none, some width =>
      let digits := (c.next.rest.take width).filterMap hexValue?
      let code := valueIn 16 digits
      if digits.length < width then .error .malformed
      else if 0x110000 ≤ code then .error .charOutside
      else .ok ([Char.ofNat code], skip width c.next)
    | none, none =>
      match c.lineBreak? with
      | none => .error .malformed
      | some (_, c) => quotedBreaks fuel c

/-- The text up to the closing quote. -/
def quotedText (double : Bool) : Nat → Cursor → Except Fault (List Char × Cursor)
  | 0, _ => .error .malformed
  | fuel + 1, c =>
    let go (part : List Char) (c : Cursor) : Except Fault (List Char × Cursor) :=
      (quotedText double fuel c).map fun (more, c) => (part ++ more, c)
    match c.peek with
    | none => .error .malformed
    | some ch =>
      if ch = '\'' && !double then
        if c.ahead 1 = some '\'' then go ['\''] (skip 2 c) else .ok ([], c.next)
      else if ch = '"' && double then .ok ([], c.next)
      else if ch = '\\' && double then
        match escape fuel c.next with
        | .error e => .error e
        | .ok (part, c) => go part c
      else if ch = ' ' || ch = '\t' then
        let (blanks, after) := c.span fun ch => ch = ' ' || ch = '\t'
        if after.atLineEnd then go [] after else go blanks after
      else
        match c.lineBreak? with
        | none => go [ch] c.next
        | some (first, c) =>
          match quotedBreaks fuel c with
          | .error e => .error e
          | .ok (more, c) => go (folded first more) c

/-- The quoted scalar whose opening quote stands here. -/
def quotedScalar (c : Cursor) : Except Fault (List Char × Cursor) :=
  quotedText (c.peek = some '"') (c.rest.length + 1) c.next

/-- The characters that have a meaning inside brackets. -/
def isBracketMark (c : Char) : Bool :=
  c = ',' || c = '[' || c = ']' || c = '\x7b' || c = '\x7d'

/-- Whether a plain scalar ends before a character with some text behind it. -/
def endsPlain (inBrackets : Bool) (c : Char) (rest : List Char) : Bool :=
  isGap c ||
    (c = ':' && rest.head?.all fun n => isGap n || (inBrackets && isBracketMark n)) ||
    (inBrackets && (isBracketMark c || c = '?'))

/-- The characters of a plain scalar up to the next gap. -/
def plainRun (inBrackets : Bool) : List Char → List Char
  | [] => []
  | c :: rest => if endsPlain inBrackets c rest then [] else c :: plainRun inBrackets rest

/-- The line breaks from here on with spaces between them, and whether a line follows
that separates documents. -/
def plainBreaks : Nat → Cursor → List Char × Cursor × Bool
  | 0, c => ([], c, false)
  | fuel + 1, c =>
    let c := c.skipSpaces
    match c.lineBreak? with
    | none => ([], c, false)
    | some (ch, c) =>
      if c.atSeparator then ([ch], c, true)
      else
        let (more, c, stop) := plainBreaks fuel c
        (ch :: more, c, stop)

/-- What stands between two runs of a plain scalar, and whether a line ends in it. -/
structure Gap where
  text : List Char
  cursor : Cursor
  endsLine : Bool

/-- The gap from here on. It is empty if the scalar ends here. -/
def plainGap (c : Cursor) : Gap :=
  let (spaces, after) := c.span (· = ' ')
  match after.lineBreak? with
  | none => ⟨spaces, after, false⟩
  | some (first, c) =>
    if c.atSeparator then ⟨[], c, true⟩
    else
      let (more, c, stop) := plainBreaks (c.rest.length + 1) c
      ⟨if stop then [] else folded first more, c, true⟩

/-- A plain scalar from some place on. The gap before it counts only if more follows,
and further lines must be indented unless they are in brackets. -/
def plainFrom (inBrackets : Bool) (indent : Nat) : Nat → Gap → Gap
  | 0, gap => { gap with text := [] }
  | fuel + 1, gap =>
    let run := plainRun inBrackets gap.cursor.rest
    if gap.cursor.peek = some '#' || run = [] then { gap with text := [] }
    else
      let g := plainGap (skip run.length gap.cursor)
      let more :=
        if g.text = [] || g.cursor.peek = some '#' || (!inBrackets && g.cursor.column < indent) then
          { g with text := [] }
        else plainFrom inBrackets indent fuel g
      { more with text := gap.text ++ run ++ more.text }

/-- The plain scalar that starts here, and whether a line ends behind it. -/
def plainScalar (inBrackets : Bool) (indent : Nat) (c : Cursor) : Gap :=
  plainFrom inBrackets indent (c.rest.length + 1) ⟨[], c, false⟩

/-- What becomes of the line breaks at the end of a block. -/
inductive Chomping where
  | clip
  | strip
  | keep
deriving DecidableEq

/-- What the head of a block says. -/
structure BlockHead where
  chomping : Chomping
  increment : Option Nat

def chomping? : Option Char → Option Chomping
  | some '+' => some .keep
  | some '-' => some .strip
  | _ => none

def increment? (c : Option Char) : Option Nat :=
  c.bind fun ch => if '0' ≤ ch && ch ≤ '9' then some (ch.toNat - '0'.toNat) else none

/-- Reads the head of a block: a sign and a digit in any order, both of which may be missing. -/
def blockHead? (c : Cursor) : Option (BlockHead × Cursor) := do
  let (head, c) : BlockHead × Cursor := match chomping? c.peek, increment? c.peek with
    | some sign, _ =>
      match increment? c.next.peek with
      | some n => (⟨sign, some n⟩, c.next.next)
      | none => (⟨sign, none⟩, c.next)
    | none, some n =>
      match chomping? c.next.peek with
      | some sign => (⟨sign, some n⟩, c.next.next)
      | none => (⟨.clip, some n⟩, c.next)
    | none, none => (⟨.clip, none⟩, c)
  if head.increment = some 0 then none
  else if c.endsWith 0 fun ch => ch = ' ' || isBreak ch then
    return (head, ← c.restOfLine?)
  else none

/-- The blank lines from here on and the deepest column that is reached in them. -/
def blankLines : Nat → Nat → Cursor → List Char × Nat × Cursor
  | 0, deepest, c => ([], deepest, c)
  | fuel + 1, deepest, c =>
    let c := c.skipSpaces
    let deepest := max deepest c.column
    match c.lineBreak? with
    | none => ([], deepest, c)
    | some (ch, c) =>
      let (more, deepest, c) := blankLines fuel deepest c
      (ch :: more, deepest, c)

/-- The blank lines of a block that is indented to a column. -/
def blockBreaks (indent : Nat) : Nat → Cursor → List Char × Cursor
  | 0, c => ([], c)
  | fuel + 1, c =>
    let c := c.skipSpacesTo indent
    match c.lineBreak? with
    | none => ([], c)
    | some (ch, c) =>
      let (more, c) := blockBreaks indent fuel c
      (ch :: more, c)

def startsBlank (c : Cursor) : Bool := c.peek = some ' ' || c.peek = some '\t'

/-- The lines of a block, the line break behind the last one, and the blank lines
behind that. The blank lines before a line count only if the line is there. -/
def blockLines (isFolded : Bool) (indent : Nat) :
    Nat → List Char → List Char → Cursor → List Char × List Char × List Char × Cursor
  | 0, breaks, last, c => ([], last, breaks, c)
  | fuel + 1, breaks, last, c =>
    if c.column ≠ indent || c.peek = none then ([], last, breaks, c)
    else
      let (text, ended) := c.span (!isBreak ·)
      let (last, c') := match ended.lineBreak? with
        | none => ([], ended)
        | some (ch, after) => ([ch], after)
      let (breaks', c') := blockBreaks indent fuel c'
      let glue :=
        if c'.column ≠ indent || c'.peek = none then []
        else if isFolded && last = ['\n'] && !startsBlank c && !startsBlank c' then
          if breaks' = [] then [' '] else []
        else last
      let (more, last, breaks', c') := blockLines isFolded indent fuel breaks' last c'
      (breaks ++ text ++ glue ++ more, last, breaks', c')

/-- The block whose sign stands here, inside of something that is indented so far. -/
def blockScalar? (outer : Int) (c : Cursor) : Option (List Char × Cursor) := do
  let isFolded := c.peek = some '>'
  let (head, c) ← blockHead? c.next
  let fuel := c.rest.length + 1
  let least := (max (outer + 1) 1).toNat
  let (indent, breaks, c) := match head.increment with
    | some n =>
      let indent := least + n - 1
      let (breaks, c) := blockBreaks indent fuel c
      (indent, breaks, c)
    | none =>
      let (breaks, deepest, c) := blankLines fuel 0 c
      (max least deepest, breaks, c)
  let (text, last, breaks, c) := blockLines isFolded indent fuel breaks [] c
  return (match head.chomping with
    | .strip => text
    | .clip => text ++ last
    | .keep => text ++ last ++ breaks, c)

end EditorLink.Yaml
