import EditorLink.Session.Operation
/-!
# Signature help on show

Signature help is shown at an offset of a buffer until something else is shown or
it is hidden. While the user types it opens behind a character that the server
named, and it is hidden when the cursor leaves the call.
-/
namespace EditorLink.Session

/-- Whether signature help may be asked for. -/
def allowsHelp (s : Session) (place : Nat) : Bool :=
  s.allows place .signatureHelp (·.signatureHelp.isSome)

/-- The request for signature help at a position. -/
def helpRequest (s : Session) (place : Nat) (position : Position) (character : Option String) :
    Request :=
  let b := s.buffer place
  .signatureHelp b.uri position ⟨character, b.tooltip.isSome⟩

/-- Help could not be shown: while typing, the tooltip is hidden and the host is
told; a host that asked for it gets the failure. -/
def helpFailed (s : Session) (place : Nat) (whileTyping : Bool) (why : Failure) : Advance :=
  if whileTyping then finishAs ((s.hideTooltip place).reportFailure place why) .done
  else s.stop why

/-- What came of showing help. -/
def helpShown (s : Session) (whileTyping : Bool) (tooltip : Option Tooltip) : Advance :=
  s.finish (if whileTyping then .done else .tooltip tooltip)

/-- Shows help at an offset in the place of what was on show. -/
def putHelp (s : Session) (place : Nat) (offset : Int) (whileTyping : Bool)
    (help : Option SignatureHelp) : Advance :=
  let b := s.buffer place
  match SignatureHelp.display help b.options.render with
  | .error why => s.helpFailed place whileTyping why
  | .ok [] => (s.hideTooltip place).helpShown whileTyping none
  | .ok contents =>
    let tooltip : Tooltip := ⟨offset, offset, false, contents, b.options.html⟩
    (s.modify place fun b => { b with tooltip := some tooltip }).helpShown whileTyping (some tooltip)

/-- Asks for help at an offset in order to show it. -/
def askHelp (s : Session) (place : Nat) (offset : Int) (character : Option String)
    (whileTyping : Bool) : Advance :=
  match (s.buffer place).text.positionOf offset with
  | .error why => s.helpFailed place whileTyping why
  | .ok position =>
    if s.allowsHelp place then
      s.ask (s.helpRequest place position character) (.showHelp place offset whileTyping)
    else s.putHelp place offset whileTyping none

/-- Where help opens because of what was typed: behind the first character that the
server named, in the first change that has one. -/
def typedTrigger (characters : List String) (text : Document) (splices : List Splice) :
    Option SignatureTrigger :=
  splices.findSome? fun change =>
    (signatureTrigger change.inserted change.start characters).filter fun t =>
      t.offset ≤ text.length

/-- The cursor behind the last change, unless the host knows better; at most at the end. -/
def cursorAfter (text : Document) (splices : List Splice) (cursor : Option Int) : Int :=
  let behind := match splices.getLast? with
    | none => 0
    | some last => last.start + last.inserted.length
  min (cursor.getD behind) text.length

/-- Makes signature help follow what was typed. -/
def followTyping (s : Session) (place : Nat) (text : Document) (splices : List Splice)
    (cursor : Option Int) : Advance :=
  let b := s.buffer place
  if splices.isEmpty || !b.options.features .signatureHelp ||
      !b.options.features .signatureWhileTyping then s.finish .done
  else
    match typedTrigger (ServerCapabilities.signatureCharacters s.capabilities) text splices with
    | some t => s.askHelp place t.offset (some t.character) true
    | none =>
      if b.tooltip.isNone then s.finish .done
      else match insideCall text (cursorAfter text splices cursor) b.options.linesBack with
        | .error why => s.helpFailed place true why
        | .ok true => s.finish .done
        | .ok false => (s.hideTooltip place).finish .done

end EditorLink.Session
