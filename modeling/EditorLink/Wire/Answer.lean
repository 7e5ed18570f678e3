import EditorLink.Capabilities
import EditorLink.Message
import EditorLink.Wire.Shape.Method
import EditorLink.Wire.Shown
/-!
# Answers on the wire

How answers and other messages of a server are read.
-/
namespace EditorLink

/-- What a server shows for a place. -/
structure Hover where
  contents : Contents
  range : Option Range

/-- A place that a server sends the editor to. -/
structure Target where
  uri : String
  range : Range
deriving DecidableEq

namespace Wire

/-- Whether a server offers something: it says so, or it gives details. -/
def offers (key : String) (v : Value) : Bool :=
  match member? key v with
  | none => false
  | some (.bool b) => b
  | some _ => true

/-- The details of something that a server offers; they may be missing. -/
def details? (key : String) (v : Value) : Option Value :=
  if offers key v then member? key v else none

def textsAt (key : String) (v : Value) : List String :=
  (((member? key v).bind Value.list?).getD []).filterMap Value.text?

def isSet (key : String) (v : Value) : Bool := ((v.field? key).getD .null).isTruthy

/-- Reads what a server says it can do. -/
def serverCapabilities (v : Value) : ServerCapabilities where
  hover := offers "hoverProvider" v
  completion := (details? "completionProvider" v).map fun p =>
    ⟨textsAt "triggerCharacters" p, isSet "resolveProvider" p⟩
  definition := offers "definitionProvider" v
  rename := (details? "renameProvider" v).map (isSet "prepareProvider")
  codeAction := offers "codeActionProvider" v
  signatureHelp := (details? "signatureHelpProvider" v).map (textsAt "triggerCharacters")

def introduced? (v : Value) : Option ServerCapabilities :=
  (member? "capabilities" v).map serverCapabilities

def ofIntroduced (capabilities : Value) : Value := .object [("capabilities", capabilities)]

def nullable? (read : Value → Option α) : Value → Option (Option α)
  | .null => some none
  | v => (read v).map some

/-- Reads what is shown for a place. -/
def hover? (v : Value) : Option Hover := do
  let contents ← contentsAt? "contents" v
  match member? "range" v with
  | none => return ⟨contents, none⟩
  | some r => return ⟨contents, some (← range? r)⟩

/-- Reads a place, given by itself or as the target of a link. -/
def target? (v : Value) : Option Target :=
  let carried := conform .target v
  match textAt? "targetUri" carried with
  | some uri => do return ⟨uri, ← range? (← member? "targetSelectionRange" carried)⟩
  | none => do return ⟨← textAt? "uri" carried, ← range? (← member? "range" carried)⟩

/-- Reads the first of the places of an answer, which has one, a list of them, or none. -/
def firstTarget? : Value → Option (Option Target)
  | .null => some none
  | .list [] => some none
  | .list (v :: _) => (target? v).map some
  | v => (target? v).map some

/-- Reads a list of code actions, which are handed on. -/
def actions? : Value → Option (List Value)
  | .null => some []
  | .list vs => some (conformItems .action vs)
  | _ => none

/-- The edit that a code action carries; a bare command carries none. -/
def actionEdit? (v : Value) : Option Value := member? "edit" (conform .action v)

def finding? (v : Value) : Option Finding := do
  let range ← range? (← member? "range" v)
  return ⟨range, (member? "severity" v).bind Value.int?, (textAt? "message" v).getD "",
    textAt? "source" v⟩

def publication? (v : Value) : Option Publication := do
  let uri ← textAt? "uri" v
  let findings ← (← (member? "diagnostics" v).bind Value.list?).mapM finding?
  return ⟨uri, findings, conform .publication v⟩

/-- Reads a question for some items of the configuration. -/
def configurationItems? (v : Value) : Option QueryParams := do
  let items ← (← member? "items" v).list?
  return .configuration items.length (conform .configurationQuery v)

end Wire
end EditorLink
