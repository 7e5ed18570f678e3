import EditorLink.Wire.Answer
/-!
# Messages on the wire

How the parameters of what a session sends are written.
-/
namespace EditorLink.Wire

def ofDocument (uri : String) : String × Value := ("textDocument", .object [("uri", .text uri)])

def ofVersion (uri : String) (version : Nat) : String × Value :=
  ("textDocument", .object [("uri", .text uri), ("version", .int version)])

def ofPlace (uri : String) (position : Position) : List (String × Value) :=
  [ofDocument uri, ("position", ofPosition position)]

def ofTrigger : CompletionTrigger → Value
  | .invoked => .object [("triggerKind", .int 1)]
  | .character c => .object [("triggerKind", .int 2), ("triggerCharacter", .text c)]

/-- Writes what made an editor ask for signature help. An empty character counts as none. -/
def ofSignatureContext (c : SignatureContext) : Value :=
  members [
    ("triggerKind", some (.int (if (c.character.getD "") = "" then 1 else 2))),
    ("triggerCharacter", c.character.map .text),
    ("isRetrigger", some (.bool c.isRetrigger))]

def ofFolder (f : Folder) : Value := .object [("uri", .text f.uri), ("name", .text f.name)]

/-- Writes an introduction. -/
def ofIntroduction (i : Introduction) : Value :=
  .object ([
    ("capabilities", i.capabilities),
    ("processId", .null),
    ("rootPath", .null),
    ("rootUri", i.rootUri),
    ("workspaceFolders", (i.folders.map fun fs => .list (fs.map ofFolder)).getD .null)] ++
    (if i.options.isNull then [] else [("initializationOptions", i.options)]))

/-- Writes the parameters of a request. -/
def ofRequest : Request → Value
  | .introduce i => ofIntroduction i
  | .hover uri position => .object (ofPlace uri position)
  | .completion uri position trigger =>
    .object (ofPlace uri position ++ [("context", ofTrigger trigger)])
  | .resolve item => item.payload
  | .definition uri position => .object (ofPlace uri position)
  | .codeAction uri range diagnostics =>
    .object [ofDocument uri, ("range", ofRange range),
      ("context", .object [("diagnostics", .list diagnostics)])]
  | .rename uri position newName =>
    .object (ofPlace uri position ++ [("newName", .text newName)])
  | .prepareRename uri position => .object (ofPlace uri position)
  | .signatureHelp uri position context =>
    .object (ofPlace uri position ++ [("context", ofSignatureContext context)])
  | .direct _ params => params

/-- Writes the parameters of a notice. -/
def ofNotice : Notice → Value
  | .initialized => .object []
  | .opened uri language version text =>
    .object [("textDocument", .object [("uri", .text uri), ("languageId", .text language),
      ("version", .int version), ("text", ofChars text)])]
  | .changed uri version events =>
    .object [ofVersion uri version, ("contentChanges", .list (events.map ofEvent))]
  | .direct _ params => params

end EditorLink.Wire
