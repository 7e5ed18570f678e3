import EditorLink.Completion.Acceptance
import EditorLink.Completion.Documentation
import EditorLink.Completion.Overlap
import EditorLink.Completion.Ranking
import EditorLink.Session.Command
import EditorLink.Signature
/-!
# Operations

What a host asks of a session takes time: an operation sends something, waits, and
goes on with what came back, until it ends with a result or a failure. While it
waits, others go on. What an operation waits for, and what it has still to do then,
is plain data.
-/
namespace EditorLink

/-- What a host may ask of a session. -/
inductive Operation where
  | perform (command : Command)
  /-- Goes through the handshake, or waits for one that goes on. -/
  | handshake
  | openBuffer (buffer : String) (text : Document)
  /-- The text of a buffer has changed; the splices say how, where the editor knows. -/
  | update (buffer : String) (text : Document) (splices : Option (List Splice))
      (cursor : Option Int)
  /-- A new text is taken over and sent, also where it is the same as before; signature
  help does not follow. -/
  | synchronize (buffer : String) (text : Document) (splices : Option (List Splice))
  /-- Sends the whole text again. -/
  | refresh (buffer : String)
  | sendEvents (buffer : String) (events : List ChangeEvent)
  | hover (buffer : String) (position : Position)
  | complete (buffer : String) (text : Document) (offset : Int) (explicit : Bool)
  | accept (buffer : String) (item : CompletionItem) (start stop : Int)
  | describe (buffer : String) (item : CompletionItem)
  | define (buffer : String) (position : Position)
  | rename (buffer : String) (position : Position) (newName : String)
  | codeActions (buffer : String) (range : Range) (diagnostics : List Value)
  /-- Applies the edit that a code action carries, if any. -/
  | applyAction (buffer : String) (edit : Option Value)
  | help (buffer : String) (position : Position) (character : Option String)
  | showHelp (buffer : String) (offset : Int) (character : Option String)
  /-- Sends a request that the host composed. -/
  | request (method shape : String) (params : Value) (seconds : Double)
  /-- Sends a notice that the host composed. -/
  | notify (method shape : String) (params : Value)
  /-- Answers a question of the server. -/
  | answer (method : String) (params : QueryParams)

/-- What hovering over a place shows. -/
structure HoverInfo where
  start : Nat
  stop : Nat
  contents : List Char
  html : Bool

/-- Items to choose from, best first. -/
structure CompletionChoice where
  /-- Where the replaced text starts. -/
  start : Int
  items : List CompletionItem
  /-- Matches the text that the items can still complete. -/
  span : Option Pattern

/-- What an operation brings. -/
inductive Result where
  | done
  | hover (info : Option HoverInfo)
  | completion (choice : Option CompletionChoice)
  | acceptance (a : Completion.Acceptance)
  | documentation (text : Option (List Char))
  | definition (target : Option Definition)
  | edit (edit : Option Value)
  | actions (actions : Option (List Value))
  | applied (b : Bool)
  | help (help : Option SignatureHelp)
  | tooltip (tooltip : Option Tooltip)
  | answer (v : Value)

/-- What is still to do when a change has been sent, or was not to be sent. -/
inductive AfterChange where
  | finish
  /-- Signature help follows what was typed. -/
  | followTyping (text : Document) (splices : List Splice) (cursor : Option Int)

/-- What is still to do when the handshake is over. -/
inductive AfterHandshake where
  | finish
  | openBuffer (buffer : Nat) (text : Document)

/-- What is still to do when the turn to send has come. -/
structure AfterTurn where
  events : List ChangeEvent
  next : AfterChange

/-- What is still to do when a notice has been sent. -/
inductive AfterNotice where
  | finish
  | opened (buffer : Nat)
  | changed (buffer : Nat) (next : AfterChange)

/-- What is still to do when an answer has come. -/
inductive AfterAnswer where
  /-- The answer is handed on to the host. -/
  | handOn (method : RequestMethod)
  | hover (buffer : Nat) (position : Position)
  | complete (buffer : Nat) (before : List Char) (offset : Int)
  | describe (buffer : Nat) (item : CompletionItem)
  | define (buffer : Nat)
  | prepareRename (buffer : Nat) (position : Position) (newName : String)
  | rename (buffer : Nat)
  | codeActions
  | help
  /-- Help is shown at an offset, on behalf of the host or because of what was typed. -/
  | showHelp (buffer : Nat) (offset : Int) (whileTyping : Bool)

/-- What an operation waits for, and what it does then. -/
inductive Pause where
  | exchange (number : Nat) (next : AfterHandshake)
  | turn (buffer : Nat) (next : AfterTurn)
  | notice (notice : Notice) (next : AfterNotice)
  | answer (request : Request) (seconds : Double) (next : AfterAnswer)

/-- Where an operation is. -/
inductive Progress where
  | paused (pause : Pause)
  | finished (outcome : Except Failure Result)

namespace Session

/-- A session and how far one of its operations has come. -/
abbrev Advance := Session × Progress

/-- The operation is over. -/
def finish (s : Session) (r : Result) : Advance := (s, .finished (.ok r))

/-- The operation fails. -/
def stop (s : Session) (why : Failure) : Advance := (s, .finished (.error why))

/-- The operation ends as some action did. -/
def finishAs (a : Session × Except Failure Unit) (r : Result) : Advance :=
  (a.1, .finished (a.2.map fun _ => r))

/-- Sends a request and waits for the answer. -/
def askWithin (s : Session) (seconds : Double) (request : Request) (next : AfterAnswer) : Advance :=
  (s.record (.requested request seconds), .paused (.answer request seconds next))

/-- Sends a request that may take as long as all requests of the session. -/
def ask (s : Session) (request : Request) (next : AfterAnswer) : Advance :=
  s.askWithin s.settings.seconds request next

/-- Sends a notice and waits until it is sent. -/
def notify (s : Session) (notice : Notice) (next : AfterNotice) : Advance :=
  (s.record (.handed notice), .paused (.notice notice next))

end Session
end EditorLink
