import EditorLink.Value
/-!
# Capabilities

What a server says it can do decides which requests are sent to it. What the
editor can do is told to the server when the session starts.
-/
namespace EditorLink

/-- What a server says of its completions. -/
structure CompletionSupport where
  /-- The characters that make an editor ask for completions. -/
  characters : List String
  /-- Whether the server completes items that it left incomplete. -/
  resolves : Bool

/-- What a server says it can do. -/
structure ServerCapabilities where
  hover : Bool
  completion : Option CompletionSupport
  definition : Bool
  /-- Whether the server renames, and then whether it wants to be asked beforehand. -/
  rename : Option Bool
  codeAction : Bool
  /-- The characters that open signature help, if the server gives any help. -/
  signatureHelp : Option (List String)

namespace ServerCapabilities

def signatureCharacters (c : Option ServerCapabilities) : List String :=
  (c.bind (·.signatureHelp)).getD []

/-- The characters that make an editor ask for completions. -/
def completionCharacters (c : Option ServerCapabilities) : List String :=
  ((c.bind (·.completion)).map (·.characters)).getD []

/-- Whether the server completes items that it left incomplete. -/
def resolvesItems (c : Option ServerCapabilities) : Bool :=
  (c.bind (·.completion)).any (·.resolves)

/-- Whether the server wants to be asked before it renames. -/
def preparesRename (c : Option ServerCapabilities) : Bool :=
  (c.bind (·.rename)) == some true

end ServerCapabilities

namespace ClientCapabilities

/-- A member that says whether the editor can do something. -/
def flag (name : String) (value : Bool) : String × Value := (name, .bool value)

/-- The editor can be told later which documents a capability is for. -/
def dynamic : String × Value := flag "dynamicRegistration" true

def texts (names : List String) : Value := .list (names.map .text)

/-- The kinds of markup that the editor shows, the best first. -/
def formats : Value := texts ["markdown", "plaintext"]

/-- What the editor can do with places that a server sends it to. -/
def linked : Value := .object [dynamic, flag "linkSupport" true]

def codeActionKinds : List String :=
  ["", "quickfix", "refactor", "refactor.extract", "refactor.inline", "refactor.rewrite", "source",
    "source.organizeImports"]

/-- What the editor can do with documents. -/
def forDocuments : Value := .object [
  ("hover", .object [dynamic, ("contentFormat", formats)]),
  ("moniker", .object []),
  ("synchronization", .object [dynamic, flag "willSave" false, flag "didSave" false,
    flag "willSaveWaitUntil" false]),
  ("codeAction", .object [dynamic,
    ("codeActionLiteralSupport", .object [
      ("codeActionKind", .object [("valueSet", texts codeActionKinds)])]),
    ("resolveSupport", .object [("properties", texts ["edit"])])]),
  ("completion", .object [dynamic,
    ("completionItem", .object [flag "snippetSupport" true, flag "commitCharactersSupport" true,
      ("documentationFormat", formats), flag "deprecatedSupport" false,
      flag "preselectSupport" false]),
    flag "contextSupport" false]),
  ("signatureHelp", .object [dynamic,
    ("signatureInformation", .object [("documentationFormat", formats)])]),
  ("declaration", linked),
  ("definition", linked),
  ("typeDefinition", linked),
  ("implementation", linked),
  ("rename", .object [dynamic, flag "prepareSupport" true])]

/-- What the editor can do, unless the host says otherwise. -/
def standard : Value := .object [
  ("textDocument", forDocuments),
  ("workspace", .object [("didChangeConfiguration", .object [dynamic])])]

/-- Keeps only the members about documents whose names pass a test. -/
def keepDocumentMembers (keep : String → Bool) : Value → Value
  | .mapping entries => .mapping (entries.map fun (key, v) =>
      match key.text?, v with
      | some "textDocument", .mapping members =>
        (key, .mapping (members.filter fun (name, _) => keep (name.text?.getD "")))
      | _, _ => (key, v))
  | v => v

end ClientCapabilities
end EditorLink
