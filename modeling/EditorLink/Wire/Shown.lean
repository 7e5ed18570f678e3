import EditorLink.Signature
import EditorLink.Wire.Place
/-!
# What is shown, on the wire

How contents, hovers, completion items and signature help are read from messages.
-/
namespace EditorLink.Wire

/-- Reads contents: a text, a text with its markup, code with its language, or a list of those. -/
def contents? : Value → Option Contents
  | .null => some .nothing
  | .text s => some (.plain s.toList)
  | .list items => (items.mapM single?).map .parts
  | v => single? v
where
  single? (v : Value) : Option Contents :=
    match v with
    | .text s => some (.plain s.toList)
    | v =>
      match (v.field? "kind").bind Value.text?, (v.field? "language").bind Value.text?,
          (v.field? "value").bind Value.text? with
      | some kind, _, some s => some (.markup kind s.toList)
      | none, some language, some s => some (.code language s.toList)
      | _, _, _ => none

/-- Reads the contents under a member; an absent member means that there are none. -/
def contentsAt? (key : String) (v : Value) : Option Contents :=
  contents? ((v.field? key).getD .null)

def textAt? (key : String) (v : Value) : Option String := (member? key v).bind Value.text?

def natAt? (key : String) (v : Value) : Option Nat :=
  (member? key v).bind fun m => m.int?.map Int.toNat

/-- Reads a completion item. -/
def completionItem? (v : Value) : Option CompletionItem := do
  let label ← textAt? "label" v
  let documentation ← contentsAt? "documentation" v
  let textEdit ← match member? "textEdit" v with
    | none => some none
    | some e => (itemEdit? e).map some
  let additionalEdits ← ((member? "additionalTextEdits" v).bind Value.list?).getD [] |>.mapM textEdit?
  return {
    label := label
    sortText := textAt? "sortText" v
    filterText := textAt? "filterText" v
    insertText := textAt? "insertText" v
    isSnippet := (member? "insertTextFormat" v).bind Value.int? == some 2
    documentation := documentation
    textEdit := textEdit
    additionalEdits := additionalEdits
    payload := conform .completionItem v }

/-- Reads the items of an answer: a list of them, a list inside a mapping, or nothing. -/
def completionItems? : Value → Option (List CompletionItem)
  | .null => some []
  | .list items => items.mapM completionItem?
  | v => ((member? "items" v).bind Value.list?).bind (·.mapM completionItem?)

/-- Reads a parameter of a signature. -/
def parameter? (v : Value) : Option Parameter := do
  let documentation ← contentsAt? "documentation" v
  let label ← match ← member? "label" v with
    | .text s => some (.text s.toList)
    | .list [.int start, .int stop] => some (.stretch start stop)
    | _ => none
  return ⟨label, documentation⟩

/-- Reads a signature. -/
def signature? (v : Value) : Option Signature := do
  let label ← textAt? "label" v
  let documentation ← contentsAt? "documentation" v
  let parameters ← ((member? "parameters" v).bind Value.list?).getD [] |>.mapM parameter?
  return ⟨label.toList, documentation, parameters, natAt? "activeParameter" v⟩

def signatureHelp? (v : Value) : Option SignatureHelp := do
  let signatures ← ((member? "signatures" v).bind Value.list?).getD [] |>.mapM signature?
  return ⟨signatures, natAt? "activeSignature" v, natAt? "activeParameter" v, conform .signatureHelp v⟩

end EditorLink.Wire
