import EditorLink.Session.Pool
/-!
# Rehearsals

A rehearsal runs operations at the same time against a server whose answers are
known in advance. It makes the moves of a pool in the order of a queue: whoever can
go on joins the queue at its end, and every message takes a number of rounds through
the queue until the server has dealt with it.
-/
namespace EditorLink

/-- The answer of a rehearsed server to a request. -/
inductive RehearsedAnswer where
  /-- The introduction is answered by what the server can do, anything else by null. -/
  | usual
  | value (v : Value)
  | failure (why : Failure)
  /-- The server does not answer in time. -/
  | timeout

/-- What a rehearsed server does about a request. -/
structure Response where
  answer : RehearsedAnswer
  /-- Whether the session is closed before the answer comes. -/
  closes : Bool

/-- A server whose answers are known in advance. What it does may depend on what the
host has noted so far. -/
structure RehearsedServer where
  /-- What the server says it can do. -/
  capabilities : Value
  responses : (notes : List Value) → List (String × Response)
  /-- The methods of notices that fail, and how. -/
  refuses : (notes : List Value) → List (String × Failure)
  /-- What the server sends on its own when a document was opened, given its name. -/
  publishes : String → List Push

namespace RehearsedServer

/-- What the server does about a request. -/
def responseTo (server : RehearsedServer) (notes : List Value) (request : Request) : Response :=
  ((server.responses notes).lookup request.method.name).getD ⟨.usual, false⟩

/-- The answer of a response to a request that may take some seconds. -/
def answerTo (server : RehearsedServer) (request : Request) (seconds : Double)
    (response : Response) : Except Failure Value :=
  let usual : Value :=
    if request.method = .introduce then Wire.ofIntroduced server.capabilities else .null
  match response.answer with
  | .usual => .ok usual
  | .value .null => .ok usual
  | .value v => .ok v
  | .failure why => .error why
  | .timeout => .error (.timedOut request.method.name seconds)

/-- What becomes of a notice. -/
def outcomeOf (server : RehearsedServer) (notes : List Value) (notice : Notice) :
    Except Failure Unit :=
  match (server.refuses notes).lookup notice.method.name with
  | none => .ok ()
  | some why => .error why

end RehearsedServer

/-- Who can go on. -/
inductive Actor where
  | task (number : Nat)
  | exchange (number : Nat)
deriving DecidableEq

/-- A place in the queue, and how often its owner has to queue up once more. -/
structure Ticket where
  actor : Actor
  rounds : Nat

/-- A pool with a queue of those who can go on and the rounds that messages take. -/
structure Rehearsal where
  server : RehearsedServer
  pool : Pool
  queue : List Ticket
  /-- The rounds that the next messages take; once they are used up, none. -/
  delays : List Nat

namespace Rehearsal

/-- How deep messages may be nested. -/
def depth : Nat := 200

/-- Carries out a move; one that is not possible changes nothing. -/
def make (r : Rehearsal) (m : Move) : Rehearsal :=
  { r with pool := (r.pool.move? depth m).getD r.pool }

/-- The message that an actor has handed to the transport and waits for. -/
inductive Message where
  | request (request : Request) (seconds : Double)
  | notice (notice : Notice)

/-- The introduction that an exchange has sent, by the trace. -/
def introduction? (s : Session) : Option Message :=
  s.trace.findSomeRev? fun e =>
    match e with
    | .requested (.introduce i) seconds => some (.request (.introduce i) seconds)
    | _ => none

/-- The message that an actor waits for. -/
def message? (p : Pool) : Actor → Option Message
  | .task number =>
    match p.pause? number with
    | some (.answer request seconds _) => some (.request request seconds)
    | some (.notice notice _) => some (.notice notice)
    | _ => none
  | .exchange number =>
    match p.session.exchanges[number]? with
    | some .requested => introduction? p.session
    | some .announcing => some (.notice .initialized)
    | _ => none

/-- The moves by which the server answers a request of an actor. -/
def answerMoves (r : Rehearsal) (actor : Actor) (request : Request) (seconds : Double) : List Move :=
  let response := r.server.responseTo r.pool.session.notes request
  let answer := r.server.answerTo request seconds response
  let closing := if response.closes then [.command .close] else []
  closing ++ [match actor with
    | .task number => .answer number answer
    | .exchange number => .answerExchange number answer]

/-- The moves by which a notice of an actor reaches the server. What the server sends
on its own when a document was opened comes in before the notice counts as sent. -/
def noticeMoves (r : Rehearsal) (actor : Actor) (notice : Notice) : List Move :=
  let outcome := r.server.outcomeOf r.pool.session.notes notice
  let pushes := match notice, outcome with
    | .opened uri _ _ _, .ok () =>
      (r.server.publishes uri).map fun push => Move.command (.publish push)
    | _, _ => []
  pushes ++ [match actor with
    | .task number => .sent number true outcome
    | .exchange number => .announceExchange number true outcome]

/-- The moves of an actor whose place in the queue has come. -/
def movesOf (r : Rehearsal) (actor : Actor) : List Move :=
  match message? r.pool actor with
  | some (.request request seconds) => r.answerMoves actor request seconds
  | some (.notice notice) => r.noticeMoves actor notice
  | none =>
    match actor with
    | .exchange number => [.beginExchange number]
    | .task number =>
      match r.pool.pause? number with
      | some (.exchange _ _) => [.wake number]
      | some (.turn _ _) => [.grant number]
      | _ => [.begin number]

/-- How often an actor who can go on without the server has to queue up once more:
news of an exchange come to those who wait for it by way of somebody else. -/
def rounds? (p : Pool) (task : Nat) : Option Nat :=
  match p.pause? task with
  | some (.exchange number _) =>
    ((p.session.exchanges[number]?).bind Exchange.outcome?).map fun _ => 1
  | some (.turn place _) => if (p.session.buffer place).turns.holder = some task then some 0 else none
  | _ => none

/-- Whether an actor stands in the queue. -/
def isQueued (r : Rehearsal) (actor : Actor) : Bool := r.queue.any (·.actor = actor)

/-- The tickets of all who can go on without the server and do not queue yet. -/
def awakened (r : Rehearsal) : List Ticket :=
  let tasks := (List.range r.pool.tasks.length).filterMap fun number =>
    if r.isQueued (.task number) then none
    else (rounds? r.pool number).map (⟨.task number, ·⟩)
  let exchanges := r.pool.session.exchanges.zipIdx.filterMap fun (e, number) =>
    match e with
    | .scheduled => if r.isQueued (.exchange number) then none else some ⟨.exchange number, 0⟩
    | _ => none
  tasks ++ exchanges

/-- Queues an actor that has just handed over a message: at the front if the message
takes no rounds. -/
def queueMessage (r : Rehearsal) (actor : Actor) : Rehearsal :=
  match message? r.pool actor with
  | none => r
  | some _ =>
    match r.delays with
    | [] => { r with queue := ⟨actor, 0⟩ :: r.queue }
    | 0 :: rest => { r with queue := ⟨actor, 0⟩ :: r.queue, delays := rest }
    | (n + 1) :: rest => { r with queue := r.queue ++ [⟨actor, n⟩], delays := rest }

/-- The first in the queue goes on, or queues up once more. -/
def step (r : Rehearsal) : Rehearsal :=
  match r.queue with
  | [] => r
  | ⟨actor, n + 1⟩ :: rest => { r with queue := rest ++ [⟨actor, n⟩] }
  | ⟨actor, 0⟩ :: rest =>
    let moved := (r.movesOf actor).foldl make { r with queue := rest }
    { moved with queue := moved.queue ++ moved.awakened }.queueMessage actor

/-- Takes some steps. -/
def steps : Nat → Rehearsal → Rehearsal
  | 0, r => r
  | n + 1, r => if r.queue.isEmpty then r else steps n r.step

/-- The most steps that a rehearsal of some operations can take: each operation
begins, sends three messages at most, and waits for an exchange or for its turn. -/
def bound (operations : Nat) (delays : List Nat) : Nat :=
  delays.foldl (· + ·) (16 * (operations + 1))

/-- Lets the operations of a pool, none of which has begun, begin in turn, and go on
until nobody can. -/
def settle (server : RehearsedServer) (p : Pool) (delays : List Nat) : Pool :=
  let start : Rehearsal :=
    { server := server
      pool := p
      queue := (List.range p.tasks.length).map fun number => ⟨.task number, 0⟩
      delays := delays }
  (steps (bound p.tasks.length delays) start).pool

/-- Runs operations at the same time, each of which begins in its turn, and gives the
session afterwards with the outcomes that there are. -/
def run (server : RehearsedServer) (s : Session) (operations : List Operation) (delays : List Nat) :
    Session × List (Option (Except Failure Result)) :=
  let ended := settle server ⟨s, operations.map .created⟩ delays
  (ended.session, (List.range operations.length).map ended.outcome?)

end Rehearsal
end EditorLink
