import EditorLink.Session.Typing
/-!
# Sending changes

A server is told the text of a document once, and then every change of it. Changes
of one buffer are sent one at a time, in the order in which they came, and each has
a version of its own, one more than the last.
-/
namespace EditorLink.Session

/-- A change was sent, or was not to be sent. -/
def afterChange (s : Session) (place : Nat) : AfterChange → Advance
  | .finish => s.finish .done
  | .followTyping text splices cursor => s.followTyping place text splices cursor

/-- Sends a change, with the next version. -/
def sendNow (s : Session) (place : Nat) (events : List ChangeEvent) (next : AfterChange) : Advance :=
  let after := s.modify place fun b => { b with version := b.version + 1 }
  after.notify (.changed (s.buffer place).uri (after.buffer place).version events)
    (.changed place next)

/-- Sends a change when the turn of operation `who` has come. Nothing is sent before
the session is ready and the document is open. -/
def send (s : Session) (who place : Nat) (events : List ChangeEvent) (next : AfterChange) : Advance :=
  let b := s.buffer place
  if !s.isReady || !b.isOpen then s.afterChange place next
  else
    let after := s.modify place fun b => { b with turns := b.turns.enter who }
    match b.turns.holder with
    | none => after.sendNow place events next
    | some _ => (after, .paused (.turn place ⟨events, next⟩))

/-- A change was sent or could not be sent; the next one may be sent. -/
def changeSent (s : Session) (place : Nat) (next : AfterChange) (outcome : Except Failure Unit) :
    Advance :=
  let told := match outcome with
    | .ok () => s
    | .error why => s.reportSending place why
  (told.modify place fun b => { b with turns := b.turns.leave }).afterChange place next

/-- The events that tell about a change from one text to another. -/
def eventsOf (incremental : Bool) (old new : Document) (splices : Option (List Splice)) :
    Except Failure (List ChangeEvent) :=
  match incremental, splices with
  | true, some splices => Splice.events old splices
  | _, _ => .ok [.whole new.text]

/-- Takes over a new text of a buffer and sends what has changed. -/
def synchronize (s : Session) (who place : Nat) (text : Document) (splices : Option (List Splice))
    (next : AfterChange) : Advance :=
  let b := s.buffer place
  let after := s.modify place fun b => { b with text := text }
  match eventsOf b.options.incremental b.text text splices with
  | .error why => after.stop why
  | .ok events => after.send who place events next

/-- Makes a buffer follow the editor, and signature help what was typed. Nothing happens
if the text of the buffer is the same already. -/
def update (s : Session) (who place : Nat) (text : Document) (splices : Option (List Splice))
    (cursor : Option Int) : Advance :=
  if text = (s.buffer place).text then s.finish .done
  else s.synchronize who place text splices (.followTyping text (splices.getD []) cursor)

/-- Sends the whole text of a buffer again. -/
def refresh (s : Session) (who place : Nat) : Advance :=
  s.send who place [.whole (s.buffer place).text.text] .finish

/-- Tells the server the text of a document, with version one. -/
def openBuffer (s : Session) (place : Nat) (text : Document) : Advance :=
  let b := s.buffer place
  let after := s.modify place fun b => { b with text := text, version := 1 }
  after.notify (.opened b.uri b.language 1 text.text) (.opened place)

/-- The server was told the text of a document, or could not be told. -/
def bufferOpened (s : Session) (place : Nat) (outcome : Except Failure Unit) : Advance :=
  match outcome with
  | .ok () => s.finish .done
  | .error why => (s.reportSending place why).finish .done

end EditorLink.Session
