import EditorLink.Wire.Shape
/-!
# Shapes about documents

What messages carry of places, edits, completion items, signatures, diagnostics and
code actions.
-/
namespace EditorLink.Wire.Shape

/-! ## Places and edits -/

def position : Shape := exactly (plain ["line", "character"])

def range : Shape := exactly [("start", position), ("end", position)]

def location : Shape := exactly (plain ["uri"] ++ [("range", range)])

/-- A place by itself or as the target of a link. -/
def target : Shape :=
  choice (has "targetUri")
    (exactly (plain ["targetUri"] ++ [("originSelectionRange", range), ("targetRange", range),
      ("targetSelectionRange", range)]))
    location

def textEdit : Shape := exactly (plain ["newText"] ++ [("range", range)])

def itemEdit : Shape :=
  choice (has "insert")
    (exactly (plain ["newText"] ++ [("insert", range), ("replace", range)]))
    textEdit

def snippet : Shape := record (plain ["kind", "value"]) [("kind", .text "snippet")]

/-- A replacement in a document, maybe of a snippet or with a note. -/
def documentEdit : Shape :=
  choice (has "snippet")
    (exactly (plain ["annotationId"] ++ [("range", range), ("snippet", snippet)]))
    (choice (has "annotationId")
      (exactly (plain ["newText", "annotationId"] ++ [("range", range)]))
      textEdit)

def versionedDocument : Shape := record (plain ["uri", "version"]) [("version", .null)]

def fileChange (names flags : List String) : Shape :=
  exactly (plain (["kind", "annotationId"] ++ names) ++ [("options", exactly (plain flags))])

/-- A change of a document or of a file as a whole. -/
def documentChange : Shape :=
  choice (hasWord "kind" "create") (fileChange ["uri"] ["overwrite", "ignoreIfExists"])
    (choice (hasWord "kind" "rename")
      (fileChange ["oldUri", "newUri"] ["overwrite", "ignoreIfExists"])
      (choice (hasWord "kind" "delete") (fileChange ["uri"] ["recursive", "ignoreIfNotExists"])
        (exactly [("textDocument", versionedDocument), ("edits", listOf documentEdit)])))

def workspaceEdit : Shape := exactly [
  ("changes", table (listOf textEdit)),
  ("documentChanges", listOf documentChange),
  ("changeAnnotations", table (exactly (plain ["label", "needsConfirmation", "description"])))]

def changeEvent : Shape :=
  choice (has "range") (exactly (plain ["rangeLength", "text"] ++ [("range", range)]))
    (exactly (plain ["text"]))

/-! ## What is shown -/

def markup : Shape := exactly (plain ["kind", "value"])

/-- A text with its markup, or code with its language. -/
def content : Shape := choice (has "kind") markup (exactly (plain ["language", "value"]))

def hover : Shape := exactly [("contents", oneOrMore content), ("range", range)]

def parameter : Shape := exactly (plain ["label"] ++ [("documentation", markup)])

def signature : Shape :=
  record (plain ["label", "activeParameter"] ++
      [("documentation", markup), ("parameters", listOf parameter)])
    [("activeParameter", .null)]

/-- Signature help. The active parameter always stands. -/
def signatureHelp : Shape :=
  record (plain ["activeSignature", "activeParameter"] ++ [("signatures", listOf signature)])
    [("activeParameter", .null)]

/-! ## What is offered -/

def command : Shape := exactly (plain ["title", "tooltip", "command", "arguments"])

/-- A completion item. -/
def completionItem : Shape :=
  exactly (plain ["label", "kind", "tags", "detail", "deprecated", "preselect", "sortText",
      "filterText", "insertText", "insertTextFormat", "insertTextMode", "textEditText",
      "commitCharacters", "data"] ++
    [("labelDetails", exactly (plain ["detail", "description"])), ("documentation", markup),
      ("textEdit", itemEdit), ("additionalTextEdits", listOf textEdit), ("command", command)])

/-- What holds for the items of a list that do not say otherwise. -/
def itemDefaults : Shape :=
  exactly (plain ["commitCharacters", "insertTextFormat", "insertTextMode", "data"] ++
    [("editRange", choice (has "insert") (exactly [("insert", range), ("replace", range)]) range)])

/-- Completion items, in a list or inside a mapping. -/
def completions : Shape :=
  listOr completionItem
    (exactly (plain ["isIncomplete"] ++ [("itemDefaults", itemDefaults),
      ("applyKind", exactly (plain ["commitCharacters", "data"])),
      ("items", listOf completionItem)]))

def diagnostic : Shape :=
  exactly (plain ["severity", "code", "source", "message", "tags", "data"] ++
    [("range", range), ("codeDescription", exactly (plain ["href"])),
      ("relatedInformation", listOf (exactly (plain ["message"] ++ [("location", location)])))])

def publication : Shape := exactly (plain ["uri", "version"] ++ [("diagnostics", listOf diagnostic)])

/-- A code action, or a command alone. -/
def action : Shape :=
  choice (hasText "command") command
    (exactly (plain ["title", "kind", "isPreferred", "data", "tags"] ++
      [("diagnostics", listOf diagnostic), ("disabled", exactly (plain ["reason"])),
        ("edit", workspaceEdit), ("command", command)]))

/-- A symbol that can be renamed: its range, maybe with a name to start from, or that
the editor finds it by itself. -/
def renamable : Shape :=
  choice (has "placeholder") (exactly (plain ["placeholder"] ++ [("range", range)]))
    (choice (has "defaultBehavior") (exactly (plain ["defaultBehavior"])) range)

end EditorLink.Wire.Shape
