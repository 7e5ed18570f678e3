import EditorLink.Session
/-!
# Commands

What is done to a session at once: buffers and listeners come and go, the session
is closed, and what the server sends on its own is handed to everybody attached.
A message goes to those who are attached when it comes in, whatever they do in the
meantime; failures of one do not keep the others from being told.

Listeners may give commands themselves, also to hand out further messages, and so may the
host of a buffer that is shown what the server found. How deep that may be nested is a
parameter.
-/
namespace EditorLink.Session

/-- Closes the session. A closed session stays as it is. -/
def close (s : Session) : Session :=
  if s.phase = .closed then s
  else { s with phase := .closed, isReady := false }.record .transportClosed

/-- The token of an attached buffer. -/
def token? (s : Session) (place : Nat) : Option Nat := s.attached.lookup place

/-- Attaches a buffer; one that is attached stays so. -/
def attach (s : Session) (place : Nat) : Session :=
  match s.token? place with
  | some _ => s
  | none =>
    let (broadcast, token) := s.broadcast.subscribe (.buffer place)
    { s with broadcast := broadcast, attached := s.attached ++ [(place, token)] }

/-- Detaches a buffer, if it is attached. A session that closes itself does so after
the last one. -/
def detach (s : Session) (place : Nat) : Session :=
  match s.token? place with
  | none => s
  | some token =>
    let rest := s.attached.filter (·.1 ≠ place)
    let after := { s with attached := rest, broadcast := s.broadcast.cancel token }
    if s.settings.closesItself && rest.isEmpty then after.close else after

/-- Creates a buffer and attaches it. -/
def create (s : Session) (b : Buffer) : Session :=
  { s with buffers := s.buffers ++ [b] }.attach s.buffers.length

/-- Attaches a listener of the host. -/
def listen (s : Session) (listener : HostListener) : Session :=
  let (broadcast, token) := s.broadcast.subscribe (.host s.hosts.length)
  { s with
    broadcast := broadcast
    hosts := s.hosts ++ [listener]
    handles := (listener.name, token) :: s.handles }

/-- Detaches the listener that last got a name. -/
def dispose (s : Session) (name : String) : Session :=
  match s.handles.lookup name with
  | none => s
  | some token => { s with broadcast := s.broadcast.cancel token }

/-- Does something to the buffer that a name means. -/
def onBuffer (s : Session) (name : String) (act : Nat → Session) : Session × Except Failure Unit :=
  match s.find? name with
  | none => (s, .error (.unknownBuffer name))
  | some place => (act place, .ok ())

/-- Shows a buffer what the server found in its document. -/
def showFindings (s : Session) (place : Nat) (push : Push) : Session :=
  let b := s.buffer place
  match push.method == Push.publishMethod, push.params with
  | true, .findings found =>
    if found.uri = b.uri && b.options.features .diagnostics then
      (s.callHost place b.options.showDiagnostics
        (.showDiagnostics (b.text.diagnostics found.findings))).1
    else s
  | _, _ => s

/-- What the host of a buffer does to the session if it is shown what the server found. -/
def viewActs (s : Session) (place : Nat) (push : Push) : List Command :=
  match (s.showFindings place push).trace.drop s.trace.length with
  | [.called _ (.showDiagnostics shown)] => s.settings.views s.trace.length place shown
  | _ => []

/-- Carries out a command that hands out no message. -/
def apply (s : Session) : Command → Session × Except Failure Unit
  | .create name uri language options => (s.create (.fresh name uri language options), .ok ())
  | .attach name => s.onBuffer name s.attach
  | .detach name => s.onBuffer name s.detach
  | .close => (s.close, .ok ())
  | .listen name acts => (s.listen ⟨name, acts⟩, .ok ())
  | .dispose name => (s.dispose name, .ok ())
  | .publish _ => (s, .ok ())
  | .setFeatures name changes => s.onBuffer name fun place =>
      s.modify place fun b =>
        { b with options := { b.options with features := b.options.features.set changes } }
  | .hideTooltip name => s.onBuffer name s.hideTooltip
  | .note what => (s.record (.noted what), .ok ())
  | .fail why => (s, .error why)

/-- Carries out a command with a way of handing out messages. -/
def commandWith (publish : Session → Push → Option Session) (s : Session) :
    Command → Option (Session × Except Failure Unit)
  | .publish push => (publish s push).map fun after => (after, .ok ())
  | c => some (s.apply c)

/-- Carries out commands in turn up to the first that fails. -/
def commandsWith (publish : Session → Push → Option Session) : Session → List Command → Option Session
  | s, [] => some s
  | s, c :: rest => do
    match ← commandWith publish s c with
    | (after, .ok ()) => commandsWith publish after rest
    | (after, .error _) => return after

/-- Tells one subscriber what the server sent, with a way of carrying out commands. -/
def tellWith (perform : Session → List Command → Option Session) (push : Push) (s : Session) :
    Subscriber → Option Session
  | .buffer place => perform (s.showFindings place push) (s.viewActs place push)
  | .host place =>
    match s.hosts[place]? with
    | none => some s
    | some listener =>
      perform (s.record (.heard listener.name push))
        (s.settings.reactions s.trace.length listener push)

/-- Hands out a message to everybody attached, with a way of carrying out commands. -/
def publishWith (perform : Session → List Command → Option Session) (s : Session) (push : Push) :
    Option Session :=
  s.broadcast.listeners.foldlM (tellWith perform push) s

/-- Carries out the commands of a listener, where messages may be nested to a depth. -/
def commands : Nat → Session → List Command → Option Session
  | 0 => commandsWith fun _ _ => none
  | depth + 1 => commandsWith (publishWith (commands depth))

/-- Carries out a command of the owner; nothing comes of it if messages are nested
deeper than the given depth. -/
def perform (depth : Nat) : Session → Command → Option (Session × Except Failure Unit) :=
  commandWith (publishWith (commands depth))

end EditorLink.Session
