import EditorLink.Contents.Fence
import EditorLink.Failure
import EditorLink.Text.Pieces
import EditorLink.Value
/-!
# Contents to show

What a server sends to be shown, as hover text or documentation, is a bare text,
marked-up text, a piece of code tagged with its language, an untyped mapping, or
a list of such contents. Shown as one text, lists are flattened: the parts that
are not empty stand one after another with a blank line between them.
-/
namespace EditorLink
open Character

/-- Something that a server wants to be shown. -/
inductive Contents where
  /-- Nothing at all. -/
  | nothing
  | plain (text : List Char)
  /-- A text with the name of its markup. -/
  | markup (kind : String) (text : List Char)
  /-- Code with the name of its language. -/
  | code (language : String) (text : List Char)
  /-- A mapping without a type. -/
  | untyped (fields : List (Value × Value))
  /-- A value that shows nothing, such as a number. -/
  | unshown
  | parts (items : List Contents)

/-- Turns Markdown into what the editor shows; without one, Markdown is shown as it is. -/
abbrev Renderer := Option (List Char → Except Failure (List Char))

namespace Renderer

def apply (r : Renderer) (s : List Char) : Except Failure (List Char) :=
  match r with
  | none => .ok s
  | some f => f s

end Renderer

namespace Contents

def markdown : String := "markdown"

/-- Shows marked-up text: Markdown is trimmed, freed of empty code blocks and rendered. -/
def showMarkup (r : Renderer) (isMarkdown : Bool) (s : List Char) : Except Failure (List Char) :=
  if isMarkdown then r.apply (Fence.dropEmptyBlocks (trim s)) else .ok s

def gap : List Char := ['\n', '\n']

mutual
/-- The text that shows some contents. -/
def display (r : Renderer) : Contents → Except Failure (List Char)
  | nothing => .ok []
  | plain s => .ok s
  | markup kind s => showMarkup r (kind == markdown) s
  | code _ _ => .ok []
  | untyped fields =>
    match (Value.mapping fields).field? "kind" with
    | none => .ok []
    | some kind =>
      match (Value.mapping fields).field? "value" with
      | none => showMarkup r (kind.text? == some markdown) []
      | some (.text s) => showMarkup r (kind.text? == some markdown) s.toList
      | some _ => .error .malformedMarkup
  | unshown => .ok []
  | parts items => do
    let shown ← displayAll r items
    return Text.joinWith gap (shown.filter (· ≠ []))

/-- The texts that show some contents one by one. -/
def displayAll (r : Renderer) : List Contents → Except Failure (List (List Char))
  | [] => .ok []
  | c :: rest => do
    let first ← display r c
    let others ← displayAll r rest
    return first :: others
end

/-- Whether a text holds nothing but white space and backticks. -/
def isBare (s : List Char) : Bool := s.all fun c => isBlank c || c = '`'

mutual
/-- Whether contents would show nothing worth seeing. -/
def isEmpty : Contents → Bool
  | nothing => true
  | plain s => isBare s
  | markup _ s => isBare s
  | code _ s => isBare s
  | untyped fields =>
    match (Value.mapping fields).field? "value" with
    | some (.text s) => isBare s.toList
    | _ => true
  | unshown => false
  | parts items => areEmpty items

/-- Whether all of some contents would show nothing worth seeing. -/
def areEmpty : List Contents → Bool
  | [] => true
  | c :: rest => isEmpty c && areEmpty rest
end

/-- Whether contents say which markup they are written in. -/
def isMarkup : Contents → Bool
  | markup _ _ => true
  | untyped fields =>
    ((Value.mapping fields).field? "kind").isSome && ((Value.mapping fields).field? "value").isSome
  | _ => false

/-- Whether there is anything to look at, be it only an empty piece of markup. -/
def isPresent : Contents → Bool
  | nothing => false
  | plain s => s ≠ []
  | parts items => !items.isEmpty
  | untyped fields => !fields.isEmpty
  | _ => true

end Contents
end EditorLink
