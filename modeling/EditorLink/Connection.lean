import EditorLink.LogLevel
import EditorLink.Message
/-!
# Connections

A connection carries messages to a server and back. Whoever sends a request waits for
the answer for some time. What the server sends on its own is handed to the handlers
that the session has installed, and its log is told to the log of the program.

A connection shuts down in two stages: the server is asked to shut down, and when it
has answered it is told to exit; then the transport stops. If the server cannot be
asked, or fails, the transport stops at once. While somebody else waits, a shutdown
that was scheduled goes on by one stage.

The server is one whose answers are known in advance.
-/
namespace EditorLink

/-- What becomes of a request. -/
inductive Reply where
  | value (v : Value)
  /-- The server fails. -/
  | failure (why : Failure)
  /-- The server fails because it ran out of time itself. -/
  | expired
  /-- The request cannot even be sent. -/
  | unsendable (why : Failure)

/-- The other end of a connection. -/
structure Peer where
  /-- The replies by method; other requests are never answered. -/
  replies : List (String × Reply)
  /-- The methods of notices that cannot be sent. -/
  refuses : List String

/-- Something that the server, the handlers or the log could see. -/
inductive Contact where
  | sent (method : String) (params : Value)
  | notified (method : String) (params : Value)
  | started (command : List String)
  | stopped
  /-- A handler was told what the server sent. -/
  | handled (handler method : String) (params : Value)
  /-- A handler was asked what the server wants to know. -/
  | asked (handler method : String) (params : Value)
  | logged (level : LogLevel) (text : String)

/-- How far a shutdown has come. -/
inductive Shutdown where
  /-- It is scheduled. -/
  | due
  /-- The server has answered the question to shut down, maybe by a failure. -/
  | answered (isWilling : Bool)
  /-- The server does not answer the question to shut down. -/
  | unanswered
  | over
deriving DecidableEq

/-- A connection to a server. -/
structure Connection where
  /-- Who is told what the server sends. -/
  noticeHandler : Option String
  /-- Who is asked what the server wants to know. -/
  queryHandler : Option String
  /-- The shutdown, if one was scheduled. -/
  shutdown : Option Shutdown
  /-- Everything that could be seen so far. -/
  contacts : List Contact

/-- What a server may send on its own, by method, with the name of what is done then. -/
inductive ServerMessage where
  | publish
  | query (method : String)
  | log
  | display

namespace ServerMessage

/-- The method by which a server asks for the configuration, and others to which any
answer will do. -/
def queryMethods : List String :=
  [QueryParams.configurationMethod, "client/registerCapability", "client/unregisterCapability",
    "window/workDoneProgress/create", "window/showMessageRequest"]

def all : List ServerMessage := publish :: queryMethods.map query ++ [log, display]

/-- The method of a message. -/
def method : ServerMessage → String
  | publish => Push.publishMethod
  | query method => method
  | log => "window/logMessage"
  | display => "window/showMessage"

def handlerName : ServerMessage → String
  | log => "on_log_message"
  | display => "on_show_message"
  | m => "on_" ++ m.method.map fun c => if c = '/' then '_' else c

end ServerMessage

namespace Connection

def fresh : Connection := ⟨none, none, none, []⟩

def record (c : Connection) (contact : Contact) : Connection :=
  { c with contacts := c.contacts ++ [contact] }

/-- The method by which a server is asked to shut down. -/
def shutdownMethod : String := "shutdown"

def exitMethod : String := "exit"

/-- How long a server has to answer when it is asked to shut down. -/
def shutdownSeconds : Double := 5.0

/-- Asks the server to shut down; the transport stops if it cannot be asked. -/
def askShutdown (peer : Peer) (c : Connection) : Connection × Shutdown :=
  let after := c.record (.sent shutdownMethod .null)
  match peer.replies.lookup shutdownMethod with
  | none => (after, .unanswered)
  | some (.value _) => (after, .answered true)
  | some (.failure _) | some .expired => (after, .answered false)
  | some (.unsendable _) => (after.record .stopped, .over)

/-- Stops the transport; a server that is willing to shut down is told to exit first. -/
def halt (c : Connection) (isWilling : Bool) : Connection :=
  (if isWilling then c.record (.notified exitMethod .null) else c).record .stopped

/-- A shutdown goes on by one stage. -/
def advance (peer : Peer) (c : Connection) : Connection :=
  match c.shutdown with
  | some .due =>
    let (after, stage) := c.askShutdown peer
    { after with shutdown := some stage }
  | some (.answered isWilling) => { c.halt isWilling with shutdown := some .over }
  | _ => c

/-- Waits until a shutdown that was scheduled is over. -/
def waitClosed (peer : Peer) (c : Connection) : Connection :=
  let after := (c.advance peer).advance peer
  match after.shutdown with
  | some .unanswered => { after.halt false with shutdown := some .over }
  | _ => after

/-- Schedules the shutdown, unless that was done before. -/
def close (c : Connection) : Connection :=
  match c.shutdown with
  | none => { c with shutdown := some .due }
  | some _ => c

/-- Sends a request and waits for the answer for some seconds. An answer that is there
at once counts even if there is no time to wait. A server that ran out of time did not
answer in time. -/
def request (peer : Peer) (c : Connection) (method : String) (params : Value) (seconds : Double) :
    Connection × Except Failure Value :=
  let after := c.record (.sent method params)
  let hasTime := 0.0 < seconds
  let waited := if hasTime then after.advance peer else after
  match peer.replies.lookup method with
  | some (.unsendable why) => (after, .error why)
  | some (.value v) => (waited, .ok v)
  | some (.failure why) => (waited, .error why)
  | some .expired => (waited, .error (.timedOut method seconds))
  | none =>
    ((if hasTime then waited else after).advance peer, .error (.timedOut method seconds))

/-- Asks the server to shut down, tells it to exit if it is willing, and stops the transport. -/
def stop (peer : Peer) (c : Connection) : Connection :=
  let (after, answer) := c.request peer shutdownMethod .null shutdownSeconds
  after.halt answer.isOk

def notify (peer : Peer) (c : Connection) (method : String) (params : Value) :
    Connection × Except Failure Unit :=
  (c.record (.notified method params),
    if peer.refuses.contains method then .error .brokenPipe else .ok ())

def start (c : Connection) (command : List String) : Connection := c.record (.started command)

/-- The server sends something; the answer is null unless somebody is there to answer. -/
def receive (c : Connection) (m : ServerMessage) (params : Value) : Connection × Option String :=
  match m, c.noticeHandler, c.queryHandler with
  | .publish, some handler, _ => (c.record (.handled handler m.method params), none)
  | .query method, _, some handler => (c.record (.asked handler method params), some handler)
  | _, _, _ => (c, none)

/-- The server tells something that is meant for a log. -/
def log (c : Connection) (type : Int) (text : String) : Connection :=
  c.record (.logged (.ofNumber type) ("server: " ++ text))

end Connection
end EditorLink
