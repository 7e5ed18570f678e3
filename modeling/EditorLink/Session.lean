import EditorLink.Broadcast
import EditorLink.Capabilities
import EditorLink.Session.Buffer
/-!
# Sessions

A session is the link between an editor and one server. It goes through a handshake,
after which it is ready, and is closed in the end. Buffers and listeners of the host
are attached to it and are told what the server sends on its own.

The session keeps a trace of everything that the server, the transport and the host
could see, in order.
-/
namespace EditorLink

/-- Where a session is in its life. -/
inductive Phase where
  | uninitialized
  | initializing
  | ready
  | closed
deriving DecidableEq

/-- The name of a phase. -/
def Phase.name : Phase → String
  | uninitialized => "uninitialized"
  | initializing => "initializing"
  | ready => "ready"
  | closed => "closed"

/-- Where a symbol is defined. -/
structure Definition where
  uri : String
  range : Range
  /-- Whether that is outside the document that was asked about. -/
  isExternal : Bool
deriving DecidableEq

/-- What the host of a buffer is told. -/
inductive HostCall where
  | applyEdit (edit : Value)
  | goToDefinition (target : Definition)
  | showDiagnostics (diagnostics : List Diagnostic)
  | reportFailure (why : Failure)

/-- Something that the server, the transport or the host could see. -/
inductive Event where
  /-- A request was handed to the transport, with the seconds that it may take. -/
  | requested (request : Request) (seconds : Double)
  /-- A notice was handed to the transport. -/
  | handed (notice : Notice)
  /-- A notice has reached the server. -/
  | delivered (notice : Notice)
  | transportClosed
  /-- The host of a buffer was called. -/
  | called (buffer : Nat) (call : HostCall)
  /-- A listener of the host was told what the server sent. -/
  | heard (listener : String) (push : Push)
  /-- The host has done something that is no business of the session. -/
  | noted (what : Value)

/-- Where the exchange that starts a session is. -/
inductive Exchange where
  /-- It was asked for but has not begun. -/
  | scheduled
  /-- The server was asked and has not answered. -/
  | requested
  /-- The server has answered, and is being told that the session starts. -/
  | announcing
  | succeeded
  | failed (why : Failure)

/-- How an exchange ended. -/
def Exchange.outcome? : Exchange → Option (Except Failure Unit)
  | succeeded => some (.ok ())
  | failed why => some (.error why)
  | _ => none

/-- What the editor tells the server that it can do. -/
inductive CapabilityChoice where
  | standard
  | replaced (capabilities : Value)
  /-- The host makes it from the standard; `attempt` counts the exchanges before this one. -/
  | derived (make : (attempt : Nat) → Value → Except Failure Value)

/-- What can be done to a session at once, by its owner or by a listener. -/
inductive Command where
  /-- A buffer is created and attached; the name means this buffer from now on. -/
  | create (name uri language : String) (options : BufferOptions)
  | attach (buffer : String)
  | detach (buffer : String)
  | close
  /-- A listener is attached, which does these commands when it is told something. -/
  | listen (name : String) (acts : List Command)
  /-- The listener that last got this name is detached. -/
  | dispose (name : String)
  /-- The server sends something on its own. -/
  | publish (push : Push)
  | setFeatures (buffer : String) (changes : List (Feature × Bool))
  | hideTooltip (buffer : String)
  /-- The host does something that is no business of the session, which keeps its place
  in the trace. -/
  | note (what : Value)
  /-- The host fails, and leaves what it had still to do. -/
  | fail (why : Failure)

/-- A listener of the host. -/
structure HostListener where
  name : String
  acts : List Command

/-- What listeners of the host do: the commands of one that is told something, after
so many events. -/
abbrev HostReactions := Nat → HostListener → Push → List Command

/-- What the hosts of buffers do: the commands of the one at a place that is shown what a server
found, after so many events. -/
abbrev HostViews := Nat → (place : Nat) → List Diagnostic → List Command

/-- Who is attached to a session: a buffer or a listener of the host, each by its place. -/
inductive Subscriber where
  | buffer (place : Nat)
  | host (place : Nat)
deriving DecidableEq

/-- What is decided about a session before it starts. -/
structure Settings where
  /-- The root of the project; null if there is none. -/
  rootUri : Value
  folders : Option (List Folder)
  /-- How many seconds a request may take. -/
  seconds : Double
  /-- Settings that are meant for the server alone. -/
  options : Value
  /-- Whether the session closes when the last buffer is detached. -/
  closesItself : Bool
  capabilities : CapabilityChoice
  /-- Answers questions of the server for the configuration. -/
  configuration : Option (Value → Except Failure Value)
  reactions : HostReactions
  views : HostViews

/-- The link between an editor and one server. -/
structure Session where
  settings : Settings
  phase : Phase
  isReady : Bool
  /-- What the server says it can do, once it has answered. -/
  capabilities : Option ServerCapabilities
  /-- All exchanges in the order in which they were asked for. -/
  exchanges : List Exchange
  /-- The exchange that further callers join. -/
  current : Option Nat
  broadcast : Broadcast Subscriber
  /-- The attached buffers, each with the token of its subscription. -/
  attached : List (Nat × Nat)
  /-- All buffers that were ever created. -/
  buffers : List Buffer
  /-- All listeners of the host that were ever created. -/
  hosts : List HostListener
  /-- The tokens of the subscriptions of listeners by name, the last first. -/
  handles : List (String × Nat)
  /-- Everything that could be seen so far. -/
  trace : List Event

namespace Settings

/-- The seconds that a request may take if nobody says otherwise. -/
def standardSeconds : Double := 10.0

/-- How much longer the handshake may take than other requests. -/
def handshakeFactor : Double := 3.0

/-- Listeners do the commands that they were created with. -/
def scripted : HostReactions := fun _ listener _ => listener.acts

/-- Hosts of buffers do nothing to a session when they are shown something. -/
def idle : HostViews := fun _ _ _ => []

/-- What holds if nobody decides anything. -/
def standard : Settings where
  rootUri := .null
  folders := none
  seconds := standardSeconds
  options := .null
  closesItself := false
  capabilities := .standard
  configuration := none
  reactions := scripted
  views := idle

/-- What the server is told first, after a number of attempts. -/
def introduction (s : Settings) (attempt : Nat) : Except Failure Introduction := do
  let capabilities ← match s.capabilities with
    | .standard => pure ClientCapabilities.standard
    | .replaced c => pure c
    | .derived make => make attempt ClientCapabilities.standard
  return ⟨capabilities, s.rootUri, s.folders, s.options⟩

end Settings

namespace Session

/-- A session that nothing has happened to. -/
def start (settings : Settings) : Session where
  settings := settings
  phase := .uninitialized
  isReady := false
  capabilities := none
  exchanges := []
  current := none
  broadcast := .empty
  attached := []
  buffers := []
  hosts := []
  handles := []
  trace := []

/-- The buffer at a place. -/
def buffer (s : Session) (place : Nat) : Buffer := s.buffers.getD place default

/-- Changes the buffer at a place. -/
def modify (s : Session) (place : Nat) (change : Buffer → Buffer) : Session :=
  { s with buffers := s.buffers.modify place change }

/-- The place of the buffer that a name means, which is the last one that got it. -/
def find? (s : Session) (name : String) : Option Nat :=
  s.buffers.zipIdx.findSomeRev? fun (b, place) => if b.name = name then some place else none

/-- Adds to the trace. -/
def record (s : Session) (e : Event) : Session := { s with trace := s.trace ++ [e] }

/-- How often the transport was closed. -/
def closings (s : Session) : Nat :=
  s.trace.countP fun e =>
    match e with
    | .transportClosed => true
    | _ => false

/-- What the host has noted so far. -/
def notes (s : Session) : List Value :=
  s.trace.filterMap fun e =>
    match e with
    | .noted what => some what
    | _ => none

/-- Calls a function of the host of a buffer; it may be missing. -/
def callHost (s : Session) (place : Nat) (f : Callback) (call : HostCall) :
    Session × Except Failure Unit :=
  match f with
  | none => (s, .ok ())
  | some fails =>
    (s.record (.called place call),
      match fails s.trace.length with
      | none => .ok ()
      | some why => .error why)

/-- Tells the host of a buffer about a failure. -/
def reportFailure (s : Session) (place : Nat) (why : Failure) : Session × Except Failure Unit :=
  s.callHost place (s.buffer place).options.reportFailure (.reportFailure why)

/-- Tells the host of a buffer, if it wants to know, that something could not be
sent. What the host makes of it does not matter. -/
def reportSending (s : Session) (place : Nat) (why : Failure) : Session :=
  if (s.buffer place).options.reportsSending then (s.reportFailure place why).1 else s

/-- Whether a request for a buffer may be sent: the feature is on, the session is
ready, and the server offers it. -/
def allows (s : Session) (place : Nat) (feature : Feature) (offers : ServerCapabilities → Bool) :
    Bool :=
  (s.buffer place).options.features feature && s.isReady && s.capabilities.any offers

/-- Hides the tooltip of a buffer. -/
def hideTooltip (s : Session) (place : Nat) : Session :=
  s.modify place fun b => { b with tooltip := none }

end Session
end EditorLink
