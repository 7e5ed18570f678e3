import EditorLink.Completion.Item
/-!
# Documentation of an item

A server may leave the documentation of an item out until it is asked. If asking
fails or brings nothing, what the item already carries is shown.
-/
namespace EditorLink.Completion

/-- The documentation to show: what asking brought, if that is anything, or else the item's own. -/
def chooseDocumentation (item : CompletionItem) (answer : Option CompletionItem) : Contents :=
  match answer with
  | some resolved => if resolved.documentation.isPresent then resolved.documentation
                     else item.documentation
  | none => item.documentation

/-- The text that shows documentation, or nothing if it shows nothing worth seeing. -/
def displayDocumentation (c : Contents) (r : Renderer) : Except Failure (Option (List Char)) :=
  if !c.isPresent || c.isEmpty then .ok none else (c.display r).map some

/-- The documentation of an item, where `ask` is the outcome of asking the server:
`none` if it was not asked. A failure counts as no answer. -/
def documentation (item : CompletionItem) (ask : Option (Except Failure (Option CompletionItem)))
    (r : Renderer) : Except Failure (Option (List Char)) :=
  let answer := match ask with
    | some (.ok resolved) => resolved
    | _ => none
  displayDocumentation (chooseDocumentation item answer) r

end EditorLink.Completion
