import EditorLink.Completion.Item
import EditorLink.Pattern.Writing
/-!
# What a completion replaces

The texts that some items would write may begin alike. Whatever stands before the
cursor and is a beginning of that common prefix is what the editor replaces, and
what it may keep filtering by.
-/
namespace EditorLink.Completion

/-- The first of the shortest texts. -/
def shortest : List (List Char) → List Char
  | [] => []
  | [s] => s
  | s :: rest =>
    let other := shortest rest
    if s.length ≤ other.length then s else other

/-- The characters of a text, from an index on, up to the first on which the texts differ. -/
def agreement (texts : List (List Char)) : Nat → List Char → List Char
  | _, [] => []
  | i, c :: rest =>
    if texts.all fun t => t[i]? = some c then c :: agreement texts (i + 1) rest else []

/-- The longest text that all texts begin with. -/
def commonPrefix (texts : List (List Char)) : List Char := agreement texts 0 (shortest texts)

/-- The text that an item puts in the place of what was typed. -/
def writtenText (item : CompletionItem) : List Char :=
  match item.replacement? with
  | some edit => edit.newText
  | none => item.label.toList

/-- The beginnings of a text that are not empty, longest first. -/
def beginnings (s : List Char) : List (List Char) :=
  (List.range s.length).map fun i => s.take (s.length - i)

/-- The written pattern for the beginnings of a text, where they end another text. -/
def overlapSource (common : List Char) : List Char :=
  Pattern.anchoredSource (Pattern.alternatives ((beginnings common).map Pattern.escape))

/-- The pattern of the text before the cursor that items can still complete; `none`
if they have nothing in common. -/
def overlapPattern (items : List CompletionItem) : Option Pattern :=
  let common := commonPrefix (items.map writtenText)
  if common = [] then none else (Pattern.read .none (overlapSource common)).toOption

end EditorLink.Completion
