import EditorLink.Feature
import EditorLink.Message
/-!
# Buffers

A buffer is one document of the editor as a session sees it: its text, the version
that the server was told last, the tooltip on show, and the queue of those who wait
to send a change. Changes leave one at a time, in the order in which their senders
came.
-/
namespace EditorLink

/-- A function of the host. It may be missing; one that is there may fail, which may
depend on how much has happened before. What it does to the session is not part of it: the
function that shows findings gives commands of its own while they are handed out, and
commands of the others follow the step in which they are called. -/
abbrev Callback := Option (Nat → Option Failure)

namespace Callback

/-- The host has no such function. -/
def missing : Callback := none

/-- A function that never fails. -/
def quiet : Callback := some fun _ => none

/-- A function that always fails. -/
def failing (why : Failure) : Callback := some fun _ => some why

end Callback

/-- What the host decides about a buffer. -/
structure BufferOptions where
  features : Features
  /-- Whether changes are sent as splices; otherwise the whole text is sent. -/
  incremental : Bool
  /-- Whether texts to show are HTML. -/
  html : Bool
  /-- Whether the editor takes snippets. -/
  snippets : Bool
  pattern : CursorPattern
  linesBack : Int
  render : Renderer
  applyEdit : Callback
  goToDefinition : Callback
  showDiagnostics : Callback
  reportFailure : Callback
  /-- Whether the host is told about changes that could not be sent. -/
  reportsSending : Bool

/-- Signature help on show over a stretch of a document. -/
structure Tooltip where
  offset : Int
  stop : Int
  /-- Whether it is shown above the text. -/
  isAbove : Bool
  contents : List Char
  html : Bool
deriving DecidableEq

/-- Whose turn it is to send, and who waits, first come first served. -/
structure Turns where
  holder : Option Nat
  waiting : List Nat
deriving DecidableEq

namespace Turns

/-- Nobody sends. -/
def idle : Turns := ⟨none, []⟩

/-- Somebody takes the turn, or waits for it. -/
def enter (t : Turns) (who : Nat) : Turns :=
  match t.holder with
  | none => { t with holder := some who }
  | some _ => { t with waiting := t.waiting ++ [who] }

/-- The turn passes to who has waited longest. -/
def leave (t : Turns) : Turns := ⟨t.waiting.head?, t.waiting.tail⟩

end Turns

/-- One document of the editor as a session sees it. -/
structure Buffer where
  name : String
  uri : String
  language : String
  options : BufferOptions
  /-- The version that the server was told last; zero before the document was opened. -/
  version : Nat
  text : Document
  tooltip : Option Tooltip
  turns : Turns

namespace BufferOptions

/-- What holds if the host decides nothing: no function of the host is there. -/
def standard : BufferOptions where
  features := .standard
  incremental := true
  html := false
  snippets := false
  pattern := .words
  linesBack := defaultLinesBack
  render := none
  applyEdit := .missing
  goToDefinition := .missing
  showDiagnostics := .missing
  reportFailure := .missing
  reportsSending := true

end BufferOptions

namespace Buffer

/-- A buffer that was not opened yet. -/
def fresh (name uri language : String) (options : BufferOptions) : Buffer :=
  ⟨name, uri, language, options, 0, .empty, none, .idle⟩

instance : Inhabited Buffer := ⟨fresh "" "" "" .standard⟩

/-- Whether the server was told about the document. -/
def isOpen (b : Buffer) : Bool := b.version ≠ 0

end Buffer
end EditorLink
