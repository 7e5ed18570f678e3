import EditorLink.Contents
import EditorLink.Document.Position
/-!
# Completion items

What a server offers to write at the cursor. Besides the fields that are looked
at here an item carries whatever else the server put into it, because a server
may be asked later to complete the item it sent.
-/
namespace EditorLink

/-- A replacement of a stretch of a document. -/
structure TextEdit where
  range : Range
  newText : List Char
deriving DecidableEq

/-- What an item does to the document: one replacement, or a choice between
inserting and replacing that is left to the editor. -/
inductive ItemEdit where
  | replacement (edit : TextEdit)
  | choice (newText : List Char) (insert replace : Range)

/-- Something that a server offers to write at the cursor. -/
structure CompletionItem where
  label : String
  sortText : Option String
  filterText : Option String
  insertText : Option String
  /-- Whether the text to insert is a snippet. -/
  isSnippet : Bool
  documentation : Contents
  textEdit : Option ItemEdit
  additionalEdits : List TextEdit
  /-- The item as the server sent it. -/
  payload : Value

namespace CompletionItem

/-- The text that orders items. -/
def sortKey (item : CompletionItem) : String := item.sortText.getD item.label

/-- The text that what has been typed is compared with. -/
def filterKey (item : CompletionItem) : String := item.filterText.getD item.label

/-- The single replacement of an item, if that is what it does. -/
def replacement? (item : CompletionItem) : Option TextEdit :=
  match item.textEdit with
  | some (.replacement edit) => some edit
  | _ => none

end CompletionItem

/-- The kinds of things that items stand for, by their numbers from one on. -/
def itemKinds : List String := ["text", "method", "function", "constructor", "field", "variable",
  "class", "interface", "module", "property", "unit", "value", "enum", "keyword", "snippet",
  "color", "file", "reference", "folder", "enummember", "constant", "struct", "event", "operator",
  "typeparameter"]

/-- The name of the kind with a number. -/
def itemKindName? (number : Int) : Option String :=
  if number < 1 then none else itemKinds[(number - 1).toNat]?

end EditorLink
