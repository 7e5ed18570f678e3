import EditorLink.FilePath
import EditorLink.FileTrouble
import EditorLink.Options
import EditorLink.Session.Pool
/-!
# Probes

A probe opens one document in a session of its own, waits for diagnostics, prints
those that came last, and leaves: it detaches the document, which closes the session,
and waits until the transport has shut down. It leaves in the same way if the
document cannot be read or opened. In the end it tells whether something that it
printed is an error.

Like a pool, a probe goes from state to state by moves. Server and transport may act
at any time until the transport has shut down.
-/
namespace EditorLink

/-- Whether a move is made without whoever owns the session. -/
def Move.isSpontaneous : Move → Bool
  | .submit _ => false
  | .command (.publish _) => true
  | .command _ => false
  | _ => true

/-- The diagnostics that the host of a buffer was shown last. -/
def Session.lastShown (s : Session) (place : Nat) : List Diagnostic :=
  (s.trace.findSomeRev? fun e =>
    match e with
    | .called b (.showDiagnostics ds) => if b = place then some ds else none
    | _ => none).getD []

/-- Why a probe found nothing out. -/
inductive ProbeFailure where
  | unreadable (path : String) (trouble : FileTrouble)
  | stopped (why : Failure)

/-- What a probe found out. -/
structure ProbeReport where
  lines : List String
  /-- Whether something that was shown last is an error. -/
  hasErrors : Bool

/-- Where a probe is. -/
inductive ProbeStage where
  /-- The document is being opened. -/
  | opening
  /-- The document is open, and diagnostics may come. -/
  | waiting
  /-- The probe has printed or failed, and the transport shuts down. -/
  | leaving (printed : Except ProbeFailure (List String))
  | ended (outcome : Except ProbeFailure ProbeReport)

/-- A document in a session of its own. -/
structure Probe where
  path : FilePath
  /-- How many seconds there are for diagnostics, if that is a number. -/
  seconds : Option Double
  pool : Pool
  stage : ProbeStage

/-- Something that happens next to a probe. -/
inductive ProbeMove where
  /-- Something happens in the session. -/
  | act (m : Move)
  /-- The document is open, or could not be opened. -/
  | proceed
  /-- Diagnostics have come, or there is no more time for them. -/
  | print
  /-- The transport has shut down. -/
  | shutDown

namespace Probe

/-- The settings of the session in which a document is opened: the root is the folder
of the document, if the user does not name another. -/
def settings (options : Options) (path : FilePath) : Settings :=
  { Settings.standard with
    rootUri := if options.rootUri.isTruthy then options.rootUri else .text path.parent.uri
    folders := options.folders
    seconds := options.seconds
    options := options.initializationOptions
    closesItself := true }

/-- What is decided about the document. -/
def bufferOptions (options : Options) : BufferOptions :=
  { BufferOptions.standard with
    features := fun f => (options.features f).isTruthy
    showDiagnostics := .quiet
    reportFailure := .quiet }

/-- The session in which a document is going to be opened. -/
def session (options : Options) (path : FilePath) (language : String) : Session :=
  (Session.start (settings options path)).create
    (.fresh path.uri path.uri language (bufferOptions options))

def place : Nat := 0

/-- Detaches the document, with what was printed or the reason why nothing was. -/
def leave (p : Probe) (printed : Except ProbeFailure (List String)) : Probe :=
  { p with
    pool := { p.pool with session := p.pool.session.detach place }
    stage := .leaving printed }

/-- A probe of a document with a path and a language, given its content or why it
cannot be read. -/
def start (options : Options) (path : FilePath) (language : String) (seconds : Option Double)
    (content : Except FileTrouble (List Char)) : Probe :=
  let pool := Pool.ofSession (session options path language)
  match content with
  | .ok text =>
    let document := Document.ofText (Text.universalNewlines text)
    ⟨path, seconds, { pool with tasks := [.created (.openBuffer path.uri document)] }, .opening⟩
  | .error trouble =>
    leave ⟨path, seconds, pool, .opening⟩ (.error (.unreadable (String.ofList path.text) trouble))

def shown (p : Probe) : List Diagnostic := p.pool.session.lastShown place

def lines (p : Probe) : Except Failure (List String) :=
  p.shown.mapM ((p.pool.session.buffer place).text.report (String.ofList p.path.text))

/-- Whether something that was shown last is an error. -/
def hasErrors (p : Probe) : Bool := p.shown.any (·.severity = Severity.error.name)

/-- Carries out a move, if it is possible. Messages may be nested to a depth. -/
def move? (depth : Nat) (p : Probe) : ProbeMove → Option Probe
  | .act m =>
    match p.stage, m.isSpontaneous with
    | .ended _, _ => none
    | _, false => none
    | _, true => (p.pool.move? depth m).map fun pool => { p with pool := pool }
  | .proceed =>
    match p.stage, p.pool.outcome? 0 with
    | .opening, some (.ok _) =>
      if p.seconds.isSome then some { p with stage := .waiting }
      else some (p.leave (.error (.stopped .unmeasuredWait)))
    | .opening, some (.error why) => some (p.leave (.error (.stopped why)))
    | _, _ => none
  | .print =>
    match p.stage with
    | .waiting => some (p.leave (p.lines.mapError .stopped))
    | _ => none
  | .shutDown =>
    match p.stage with
    | .leaving printed =>
      some { p with stage := .ended (printed.map fun lines => ⟨lines, p.hasErrors⟩) }
    | _ => none

/-- Carries out moves in turn, if all of them are possible. -/
def run? (depth : Nat) (p : Probe) (moves : List ProbeMove) : Option Probe :=
  moves.foldlM (move? depth) p

end Probe
end EditorLink
