import EditorLink.Completion.Item
import EditorLink.Diagnostic
import EditorLink.Document.Splice
import EditorLink.Trigger
/-!
# Messages

What a session sends to a server: requests, which are answered, and notices, which
are not. The host may also compose messages of its own; they are let through only
if the session knows their method and their parameters have the shape it takes.
-/
namespace EditorLink

/-- The method among some that has a name, if parameters of some shape are what it takes. -/
def checkMethod {Method : Type} (methods : List Method) (nameOf shapeOf : Method → String)
    (name shape : String) : Except Failure Method :=
  match methods.find? (nameOf · = name) with
  | none => .error (.unknownMethod name)
  | some m =>
    if shapeOf m = shape then .ok m else .error (.mismatchedParams name (shapeOf m) shape)

/-- The methods of the requests that a session may send. -/
inductive RequestMethod where
  | introduce
  | hover
  | completion
  | resolve
  | definition
  | codeAction
  | rename
  | prepareRename
  | signatureHelp
deriving DecidableEq

namespace RequestMethod

def all : List RequestMethod :=
  [introduce, hover, completion, resolve, definition, codeAction, rename, prepareRename,
    signatureHelp]

/-- The name of a method in messages. -/
def name : RequestMethod → String
  | introduce => "initialize"
  | hover => "textDocument/hover"
  | completion => "textDocument/completion"
  | resolve => "completionItem/resolve"
  | definition => "textDocument/definition"
  | codeAction => "textDocument/codeAction"
  | rename => "textDocument/rename"
  | prepareRename => "textDocument/prepareRename"
  | signatureHelp => "textDocument/signatureHelp"

/-- The name of the shape that the parameters of a method have. -/
def shape : RequestMethod → String
  | introduce => "InitializeParams"
  | hover => "HoverParams"
  | completion => "CompletionParams"
  | resolve => "CompletionItem"
  | definition => "DefinitionParams"
  | codeAction => "CodeActionParams"
  | rename => "RenameParams"
  | prepareRename => "PrepareRenameParams"
  | signatureHelp => "SignatureHelpParams"

/-- The method of a request with parameters of some shape. -/
def check : String → String → Except Failure RequestMethod :=
  checkMethod all RequestMethod.name RequestMethod.shape

end RequestMethod

/-- The methods of the notices that a session may send. -/
inductive NoticeMethod where
  | initialized
  | opened
  | changed
deriving DecidableEq

namespace NoticeMethod

def all : List NoticeMethod := [initialized, opened, changed]

def name : NoticeMethod → String
  | initialized => "initialized"
  | opened => "textDocument/didOpen"
  | changed => "textDocument/didChange"

/-- The name of the shape that the parameters of a method have. -/
def shape : NoticeMethod → String
  | initialized => "InitializedParams"
  | opened => "DidOpenTextDocumentParams"
  | changed => "DidChangeTextDocumentParams"

/-- The method of a notice with parameters of some shape. -/
def check : String → String → Except Failure NoticeMethod :=
  checkMethod all NoticeMethod.name NoticeMethod.shape

end NoticeMethod

/-- A folder that the editor works in. -/
structure Folder where
  uri : String
  name : String
deriving DecidableEq

/-- What a session tells a server when it starts. -/
structure Introduction where
  capabilities : Value
  /-- The root of the project; null if there is none. -/
  rootUri : Value
  folders : Option (List Folder)
  /-- Settings that are meant for the server alone. -/
  options : Value

/-- What made an editor ask for signature help. -/
structure SignatureContext where
  character : Option String
  /-- Whether help is on show already. -/
  isRetrigger : Bool
deriving DecidableEq

/-- A message that the server answers. -/
inductive Request where
  | introduce (introduction : Introduction)
  | hover (uri : String) (position : Position)
  | completion (uri : String) (position : Position) (trigger : CompletionTrigger)
  | resolve (item : CompletionItem)
  | definition (uri : String) (position : Position)
  | codeAction (uri : String) (range : Range) (diagnostics : List Value)
  | rename (uri : String) (position : Position) (newName : String)
  | prepareRename (uri : String) (position : Position)
  | signatureHelp (uri : String) (position : Position) (context : SignatureContext)
  /-- A request that the host composed. -/
  | direct (method : RequestMethod) (params : Value)

/-- The method of a request. -/
def Request.method : Request → RequestMethod
  | introduce _ => .introduce
  | hover _ _ => .hover
  | completion _ _ _ => .completion
  | resolve _ => .resolve
  | definition _ _ => .definition
  | codeAction _ _ _ => .codeAction
  | rename _ _ _ => .rename
  | prepareRename _ _ => .prepareRename
  | signatureHelp _ _ _ => .signatureHelp
  | direct m _ => m

/-- A message that the server does not answer. -/
inductive Notice where
  | initialized
  | opened (uri language : String) (version : Nat) (text : List Char)
  | changed (uri : String) (version : Nat) (events : List ChangeEvent)
  /-- A notice that the host composed. -/
  | direct (method : NoticeMethod) (params : Value)

/-- The method of a notice. -/
def Notice.method : Notice → NoticeMethod
  | initialized => .initialized
  | opened _ _ _ _ => .opened
  | changed _ _ _ => .changed
  | direct m _ => m

/-- What a server found in one document. -/
structure Publication where
  uri : String
  findings : List Finding
  /-- The message that carried it. -/
  payload : Value

/-- The parameters of a message that a server sends on its own. -/
inductive PushParams where
  | findings (publication : Publication)
  | untyped (params : Value)

/-- A message that a server sends on its own and that is not answered. -/
structure Push where
  method : String
  params : PushParams

/-- The method by which servers publish what they found. -/
def Push.publishMethod : String := "textDocument/publishDiagnostics"

/-- The parameters of a request that a server makes. -/
inductive QueryParams where
  /-- A question for some items of the configuration. -/
  | configuration (count : Nat) (payload : Value)
  | untyped (params : Value)

/-- The method by which servers ask for the configuration. -/
def QueryParams.configurationMethod : String := "workspace/configuration"

end EditorLink
