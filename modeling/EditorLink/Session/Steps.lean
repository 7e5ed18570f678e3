import EditorLink.Session.Asking
/-!
# Steps of operations

How an operation starts, and how it goes on when what it waited for has come.
-/
namespace EditorLink.Session

/-- Starts something about the buffer that a name means. -/
def inBuffer (s : Session) (name : String) (act : Nat → Advance) : Advance :=
  match s.find? name with
  | none => s.stop (.unknownBuffer name)
  | some place => act place

/-- Sends a request that the host composed, if the session knows it. -/
def sendRequest (s : Session) (method shape : String) (params : Value) (seconds : Double) : Advance :=
  match RequestMethod.check method shape with
  | .error why => s.stop why
  | .ok m => s.askWithin seconds (.direct m params) (.handOn m)

/-- Sends a notice that the host composed, if the session knows it. -/
def sendNotice (s : Session) (method shape : String) (params : Value) : Advance :=
  match NoticeMethod.check method shape with
  | .error why => s.stop why
  | .ok m => s.notify (.direct m params) .finish

/-- Operation `who` starts. -/
def begin (s : Session) (depth who : Nat) : Operation → Option Advance
  | .perform command => (s.perform depth command).map fun a => finishAs a .done
  | .handshake => some (s.handshake .finish)
  | .openBuffer name text => some (s.inBuffer name fun place => s.handshake (.openBuffer place text))
  | .update name text splices cursor =>
    some (s.inBuffer name fun place => s.update who place text splices cursor)
  | .synchronize name text splices =>
    some (s.inBuffer name fun place => s.synchronize who place text splices .finish)
  | .refresh name => some (s.inBuffer name (s.refresh who))
  | .sendEvents name events =>
    some (s.inBuffer name fun place => s.send who place events .finish)
  | .hover name position => some (s.inBuffer name fun place => s.askHover place position)
  | .complete name text offset explicit =>
    some (s.inBuffer name fun place => s.askCompletion place text offset explicit)
  | .accept name item start stop =>
    some (s.inBuffer name fun place =>
      let b := s.buffer place
      s.finish (.acceptance (Completion.accept b.text item start stop b.options.snippets)))
  | .describe name item => some (s.inBuffer name fun place => s.describe place item)
  | .define name position => some (s.inBuffer name fun place => s.askDefinition place position)
  | .rename name position newName =>
    some (s.inBuffer name fun place => s.askRename place position newName)
  | .codeActions name range diagnostics =>
    some (s.inBuffer name fun place => s.askActions place range diagnostics)
  | .applyAction name edit => some (s.inBuffer name fun place => s.applyAction place edit)
  | .help name position character =>
    some (s.inBuffer name fun place => s.askSignatures place position character)
  | .showHelp name offset character =>
    some (s.inBuffer name fun place => s.askHelp place offset character false)
  | .request method shape params seconds => some (s.sendRequest method shape params seconds)
  | .notify method shape params => some (s.sendNotice method shape params)
  | .answer method params =>
    some (match s.reply method params with
      | .ok v => s.finish (.answer v)
      | .error why => s.stop why)

/-- The turn of an operation to send has come. -/
def turnCame (s : Session) (place : Nat) (next : AfterTurn) : Advance :=
  s.sendNow place next.events next.next

/-- A notice was sent or could not be sent. -/
def noticeSent (s : Session) (outcome : Except Failure Unit) : AfterNotice → Advance
  | .finish => finishAs (s, outcome) .done
  | .opened place => s.bufferOpened place outcome
  | .changed place next => s.changeSent place next outcome

/-- An answer has come, or will not come. -/
def answered (s : Session) (answer : Except Failure Value) : AfterAnswer → Advance
  | .handOn method => (s, .finished (answer.map fun v => .answer (Wire.conform (.ofAnswer method) v)))
  | .hover place position => s.hoverAnswered place position answer
  | .complete place before offset => s.completionAnswered place before offset answer
  | .describe place item =>
    s.described place item
      (some (readAnswer .resolve (Wire.nullable? Wire.completionItem?) answer))
  | .define place => s.definitionAnswered place answer
  | .prepareRename place position newName => s.renamePrepared place position newName answer
  | .rename place => s.renameAnswered place answer
  | .codeActions => s.actionsAnswered answer
  | .help => s.helpAnswered answer
  | .showHelp place offset whileTyping => s.shownHelpAnswered place offset whileTyping answer

end EditorLink.Session
