import EditorLink.Document
import EditorLink.Pattern.Writing
/-!
# When help is asked for while typing

Three tests that run on every keystroke. They look at the text before the
cursor, at what was just typed, and at a window of lines before the cursor.
-/
namespace EditorLink

/-- What made an editor ask for completions. -/
inductive CompletionTrigger where
  | invoked
  | character (c : String)
deriving DecidableEq

/-- The pattern that the text before the cursor must end in. -/
inductive CursorPattern where
  /-- A word, or a word and a separator of members or of path parts. -/
  | words
  /-- A pattern as the host wrote it. -/
  | written (source : List Char)
  /-- A pattern that the host had read before. Its own switches play no part. -/
  | prepared (source : List Char) (own : Pattern.Switches)
deriving DecidableEq

namespace CursorPattern

/-- A word, or a word followed by a point or a slash. -/
def wordPattern : Pattern :=
  .alt (.seq .wordRun (.char '.')) (.alt (.seq .wordRun (.char '/')) .wordRun)

def read (own : Pattern.Switches) (source : List Char) : Except Failure Pattern :=
  (Pattern.read own source).mapError fun
    | .malformed => .malformedPattern
    | .countTooLarge => .overlongPattern

def prepare (source : List Char) (ignoresCase : Bool) : Except Failure CursorPattern :=
  let own := { Pattern.Switches.none with ignoresCase }
  (read own source).map fun _ => .prepared source own

/-- The pattern that is searched for in the text before the cursor. -/
def anchored : CursorPattern → Except Failure Pattern
  | words => .ok wordPattern.anchored
  | written source | prepared source _ => read .none (Pattern.anchoredSource source)

end CursorPattern

/-- Why completions should be asked for, given the text of the line before the
cursor; `none` if they should not. -/
def completionTrigger (before : List Char) (explicit : Bool) (characters : List String)
    (pattern : CursorPattern) : Except Failure (Option CompletionTrigger) :=
  if explicit then .ok (some .invoked)
  else match before.getLast? with
    | none => .ok none
    | some last =>
      if characters.contains (String.singleton last) then
        .ok (some (.character (String.singleton last)))
      else do
        let p ← pattern.anchored
        return if p.found before then some .invoked else none

/-- Where signature help opens, and the character that opens it. -/
structure SignatureTrigger where
  offset : Int
  character : String
deriving DecidableEq

/-- Where signature help opens after a text was typed at an offset. The characters
are tried in order, and the first that occurs wins at its first occurrence. -/
def signatureTrigger (inserted : List Char) (start : Int) (characters : List String) :
    Option SignatureTrigger :=
  if inserted = [] then none
  else characters.findSome? fun c =>
    (Text.indexOf? c.toList inserted).map fun index => ⟨start + index + 1, c⟩

/-- How many more opening than closing parentheses a text has. -/
def parenthesisBalance (s : List Char) : Int := (s.count '(' : Int) - s.count ')'

/-- How many lines before the cursor's one the search for an open call goes back. -/
def defaultLinesBack : Int := 20

/-- Whether more parentheses are opened than closed between the start of a window
of lines and the cursor. -/
def insideCall (d : Document) (offset linesBack : Int) : Except Failure Bool := do
  let cursor ← d.lineAt offset
  let first ← d.line (max 0 (cursor.number - linesBack))
  let window ← d.slice first.start (some offset)
  return 0 < parenthesisBalance window

end EditorLink
