import EditorLink.Message
import EditorLink.Wire.Shape.Capability
import EditorLink.Wire.Shape.Document
/-!
# Shapes by method

What messages carry of the parameters of each method, and of the answers.
-/
namespace EditorLink.Wire.Shape

def document : String × Shape := ("textDocument", exactly (plain ["uri"]))

/-- Parameters about a document. A request may say how its progress is told. -/
def aboutDocument (members : List (String × Shape)) : Shape :=
  exactly (plain ["workDoneToken"] ++ document :: members)

/-- The way in which parts of an answer may be sent before all of it. -/
def partialAnswers : List (String × Shape) := plain ["partialResultToken"]

def aboutPlace (members : List (String × Shape)) : Shape :=
  aboutDocument (("position", position) :: members)

/-- An introduction. What the editor says of itself, and where it works, always stands. -/
def introduction : Shape :=
  record (plain ["workDoneToken", "processId", "locale", "rootPath", "rootUri",
      "initializationOptions", "trace"] ++
    [("clientInfo", release), ("capabilities", editor),
      ("workspaceFolders", listOf (exactly (plain ["uri", "name"])))])
    [("processId", .null), ("rootPath", .null), ("rootUri", .null), ("workspaceFolders", .null)]

/-- The parameters of a request. -/
def ofRequest : RequestMethod → Shape
  | .introduce => introduction
  | .hover => aboutPlace []
  | .completion => aboutPlace (partialAnswers ++
      [("context", exactly (plain ["triggerKind", "triggerCharacter"]))])
  | .resolve => completionItem
  | .definition => aboutPlace partialAnswers
  | .codeAction => aboutDocument (partialAnswers ++ [("range", range),
      ("context", exactly (plain ["only", "triggerKind"] ++
        [("diagnostics", listOf diagnostic)]))])
  | .rename => aboutPlace (plain ["newName"])
  | .prepareRename => aboutPlace []
  | .signatureHelp => aboutPlace [("context",
      exactly (plain ["triggerKind", "triggerCharacter", "isRetrigger"] ++
        [("activeSignatureHelp", signatureHelp)]))]

/-- The parameters of a notice. -/
def ofNotice : NoticeMethod → Shape
  | .initialized => exactly []
  | .opened => exactly [("textDocument", exactly (plain ["uri", "languageId", "version", "text"]))]
  | .changed => exactly [("textDocument", exactly (plain ["uri", "version"])),
      ("contentChanges", listOf changeEvent)]

/-- The parameters that have a name. -/
def named (name : String) : Shape :=
  match RequestMethod.all.find? (·.shape = name), NoticeMethod.all.find? (·.shape = name) with
  | some method, _ => ofRequest method
  | none, some method => ofNotice method
  | none, none => any

/-- The answer to a request. -/
def ofAnswer : RequestMethod → Shape
  | .introduce => exactly [("capabilities", server), ("serverInfo", release)]
  | .hover => hover
  | .completion => completions
  | .resolve => completionItem
  | .definition => oneOrMore target
  | .codeAction => listOf action
  | .rename => workspaceEdit
  | .prepareRename => renamable
  | .signatureHelp => signatureHelp

def configurationQuery : Shape := exactly [("items", listOf (exactly (plain ["scopeUri", "section"])))]

end EditorLink.Wire.Shape
