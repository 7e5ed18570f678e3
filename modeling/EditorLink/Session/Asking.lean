import EditorLink.Session.Handshake
/-!
# Asking the server

The questions about a place in a buffer. Each is asked only if its feature is on, the
session is ready and the server offers it; otherwise it brings nothing and nothing
happens. Failures of renaming are told to the host of the buffer; failures of the
other questions are failures of the operation.
-/
namespace EditorLink.Session

/-- An answer as it is read. -/
def readAnswer (method : RequestMethod) (read : Value → Option α) (answer : Except Failure Value) :
    Except Failure α := do
  match read (← answer) with
  | some a => return a
  | none => throw (.unreadableAnswer method.name)

/-- Asks what hovering over a position shows. -/
def askHover (s : Session) (place : Nat) (position : Position) : Advance :=
  if s.allows place .hover (·.hover) then
    s.ask (.hover (s.buffer place).uri position) (.hover place position)
  else s.finish (.hover none)

/-- What hovering over a position shows: contents over the range that the server
names, if the document has it, or else over the position. -/
def hoverInfo (b : Buffer) (position : Position) (hover : Hover) :
    Except Failure (Option HoverInfo) := do
  if hover.contents.isEmpty then return none
  match b.text.offsetOf? position with
  | none => return none
  | some offset =>
    let (start, stop) := (hover.range.bind b.text.offsetsOf?).getD (offset, offset)
    let contents ← hover.contents.display b.options.render
    return if contents = [] then none else some ⟨start, stop, contents, b.options.html⟩

/-- The server has answered what hovering shows. -/
def hoverAnswered (s : Session) (place : Nat) (position : Position) (answer : Except Failure Value) :
    Advance :=
  match readAnswer .hover (Wire.nullable? Wire.hover?) answer with
  | .error why => s.stop why
  | .ok none => s.finish (.hover none)
  | .ok (some hover) =>
    match hoverInfo (s.buffer place) position hover with
    | .error why => s.stop why
    | .ok info => s.finish (.hover info)

/-- The text of the line before the cursor. -/
def textBefore (text : Document) (offset : Int) : Except Failure (List Char) := do
  let l ← text.lineAt offset
  return l.text.take (offset - l.start).toNat

/-- The position and the reason of a completion, or nothing if none is due. -/
def completionPoint (b : Buffer) (characters : List String) (text : Document) (offset : Int)
    (explicit : Bool) : Except Failure (Option (List Char × CompletionTrigger × Position)) := do
  let before ← textBefore text offset
  match ← completionTrigger before explicit characters b.options.pattern with
  | none => return none
  | some trigger => return some (before, trigger, ← text.positionOf offset)

/-- Asks for completions at an offset of a text. -/
def askCompletion (s : Session) (place : Nat) (text : Document) (offset : Int) (explicit : Bool) :
    Advance :=
  if s.allows place .completion (·.completion.isSome) then
    let characters := ServerCapabilities.completionCharacters s.capabilities
    match completionPoint (s.buffer place) characters text offset explicit with
    | .error why => s.stop why
    | .ok none => s.finish (.completion none)
    | .ok (some (before, trigger, position)) =>
      s.ask (.completion (s.buffer place).uri position trigger) (.complete place before offset)
  else s.finish (.completion none)

/-- The word that a text ends in, if any. -/
def wordBefore (before : List Char) : Option (List Char) :=
  (Pattern.wordRun.anchored.search before).map fun (start, stop) =>
    (before.take stop).drop start

/-- The choice that items leave at an offset behind some text. What is replaced
starts where the items overlap with the text, or else where the word does. -/
def choose (language : String) (before : List Char) (offset : Int) (items : List CompletionItem) :
    CompletionChoice :=
  let token := wordBefore before
  let ranked := Completion.rank items token language
  let span := Completion.overlapPattern ranked
  let replaced : Nat := match span.bind (·.search before), token with
    | some (start, stop), _ => stop - start
    | none, some word => word.length
    | none, none => 0
  ⟨offset - replaced, ranked, span⟩

/-- The server has answered with completions. -/
def completionAnswered (s : Session) (place : Nat) (before : List Char) (offset : Int)
    (answer : Except Failure Value) : Advance :=
  match readAnswer .completion Wire.completionItems? answer with
  | .error why => s.stop why
  | .ok [] => s.finish (.completion none)
  | .ok items => s.finish (.completion (some (choose (s.buffer place).language before offset items)))

/-- The documentation of an item, with what the server was asked. -/
def described (s : Session) (place : Nat) (item : CompletionItem)
    (ask : Option (Except Failure (Option CompletionItem))) : Advance :=
  match Completion.documentation item ask (s.buffer place).options.render with
  | .error why => s.stop why
  | .ok text => s.finish (.documentation text)

/-- Describes an item, after asking the server for the rest of it if it takes that. -/
def describe (s : Session) (place : Nat) (item : CompletionItem) : Advance :=
  if s.isReady && ServerCapabilities.resolvesItems s.capabilities then
    s.ask (.resolve item) (.describe place item)
  else s.described place item none

/-- Asks where a symbol is defined. -/
def askDefinition (s : Session) (place : Nat) (position : Position) : Advance :=
  if s.allows place .definition (·.definition) then
    s.ask (.definition (s.buffer place).uri position) (.define place)
  else s.finish (.definition none)

/-- The server has answered where a symbol is defined; the host is told. -/
def definitionAnswered (s : Session) (place : Nat) (answer : Except Failure Value) : Advance :=
  match readAnswer .definition Wire.firstTarget? answer with
  | .error why => s.stop why
  | .ok none => s.finish (.definition none)
  | .ok (some target) =>
    let b := s.buffer place
    let found : Definition := ⟨target.uri, target.range, target.uri != b.uri⟩
    finishAs (s.callHost place b.options.goToDefinition (.goToDefinition found))
      (.definition (some found))

/-- Renaming has failed; the host is told. -/
def renameFailed (s : Session) (place : Nat) (why : Failure) : Advance :=
  finishAs (s.reportFailure place why) (.edit none)

/-- Asks the server to rename a symbol. -/
def sendRename (s : Session) (place : Nat) (position : Position) (newName : String) : Advance :=
  s.ask (.rename (s.buffer place).uri position newName) (.rename place)

/-- Renames a symbol, after asking the server whether there is one if it wants that. -/
def askRename (s : Session) (place : Nat) (position : Position) (newName : String) : Advance :=
  if s.allows place .rename (·.rename.isSome) then
    if ServerCapabilities.preparesRename s.capabilities then
      s.ask (.prepareRename (s.buffer place).uri position) (.prepareRename place position newName)
    else s.sendRename place position newName
  else s.finish (.edit none)

/-- The server has answered whether there is a symbol to rename. -/
def renamePrepared (s : Session) (place : Nat) (position : Position) (newName : String)
    (answer : Except Failure Value) : Advance :=
  match answer with
  | .error why => s.renameFailed place why
  | .ok .null => s.renameFailed place .nothingToRename
  | .ok _ => s.sendRename place position newName

/-- The server has answered with the edit that renames a symbol; the host applies it. -/
def renameAnswered (s : Session) (place : Nat) (answer : Except Failure Value) : Advance :=
  match answer with
  | .error why => s.renameFailed place why
  | .ok .null => s.finish (.edit none)
  | .ok v =>
    let edit := Wire.conform .workspaceEdit v
    match s.callHost place (s.buffer place).options.applyEdit (.applyEdit edit) with
    | (after, .ok ()) => after.finish (.edit (some edit))
    | (after, .error why) => after.renameFailed place why

/-- Asks what can be done about a stretch of a document. -/
def askActions (s : Session) (place : Nat) (range : Range) (diagnostics : List Value) : Advance :=
  if s.allows place .codeActions (·.codeAction) then
    s.ask (.codeAction (s.buffer place).uri range diagnostics) .codeActions
  else s.finish (.actions none)

/-- The server has answered what can be done. -/
def actionsAnswered (s : Session) (answer : Except Failure Value) : Advance :=
  match readAnswer .codeAction Wire.actions? answer with
  | .error why => s.stop why
  | .ok actions => s.finish (.actions (some actions))

/-- The host applies the edit of a code action, if the action has one and the host
can apply it. -/
def applyAction (s : Session) (place : Nat) (edit : Option Value) : Advance :=
  match edit, (s.buffer place).options.applyEdit with
  | some edit, some f => finishAs (s.callHost place (some f) (.applyEdit edit)) (.applied true)
  | _, _ => s.finish (.applied false)

/-- Asks for signature help. -/
def askSignatures (s : Session) (place : Nat) (position : Position) (character : Option String) :
    Advance :=
  if s.allowsHelp place then s.ask (s.helpRequest place position character) .help
  else s.finish (.help none)

/-- Reads signature help; help without signatures is none. -/
def readHelp (answer : Except Failure Value) : Except Failure (Option SignatureHelp) := do
  let help ← readAnswer .signatureHelp (Wire.nullable? Wire.signatureHelp?) answer
  return help.filter fun h => !h.signatures.isEmpty

/-- The server has answered with signature help. -/
def helpAnswered (s : Session) (answer : Except Failure Value) : Advance :=
  match readHelp answer with
  | .error why => s.stop why
  | .ok help => s.finish (.help help)

/-- The server has answered with signature help that is to be shown. -/
def shownHelpAnswered (s : Session) (place : Nat) (offset : Int) (whileTyping : Bool)
    (answer : Except Failure Value) : Advance :=
  match readHelp answer with
  | .error why => s.helpFailed place whileTyping why
  | .ok help => s.putHelp place offset whileTyping help

/-- The reply to a question of the server. The host answers questions for the
configuration if it can; otherwise nothing is set. -/
def reply (s : Session) (method : String) (params : QueryParams) : Except Failure Value :=
  if method = QueryParams.configurationMethod then
    match s.settings.configuration, params with
    | some resolve, .configuration _ payload => resolve payload
    | some resolve, .untyped v => resolve v
    | none, .configuration count _ => .ok (.list (List.replicate count .null))
    | none, .untyped (.mapping _) => .error .uncountableItems
    | none, .untyped _ => .ok (.list [])
  else .ok .null

end EditorLink.Session
