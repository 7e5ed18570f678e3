import EditorLink.Session.Steps
/-!
# Operations at the same time

A pool is a session with all operations that were ever asked of it. It goes from
state to state by moves: an operation is asked for, begins, or goes on with what it
waited for; an exchange begins or goes on; the owner gives a command. Any move that
is possible may be the next one, so every run of moves is one of the orders in which
server, transport, host and operations can act.
-/
namespace EditorLink

/-- Where an operation of a pool is. -/
inductive Task where
  /-- It was asked for but has not begun. -/
  | created (operation : Operation)
  | running (progress : Progress)

/-- A session with all operations that were ever asked of it. -/
structure Pool where
  session : Session
  tasks : List Task

/-- Something that happens next. -/
inductive Move where
  /-- An operation is asked for. -/
  | submit (operation : Operation)
  /-- An operation that was asked for begins. -/
  | begin (task : Nat)
  /-- The owner gives a command. -/
  | command (c : Command)
  /-- An exchange that was asked for begins. -/
  | beginExchange (number : Nat)
  /-- The server answers an introduction, or will not answer it. -/
  | answerExchange (number : Nat) (answer : Except Failure Value)
  /-- The server was told that the session starts, or could not be told; the notice
  may have reached it in both cases. -/
  | announceExchange (number : Nat) (isDelivered : Bool) (outcome : Except Failure Unit)
  /-- An operation goes on after the exchange that it waited for. -/
  | wake (task : Nat)
  /-- The turn of an operation to send has come. -/
  | grant (task : Nat)
  /-- A notice was sent or could not be sent; it may have reached the server in both
  cases. -/
  | sent (task : Nat) (isDelivered : Bool) (outcome : Except Failure Unit)
  /-- The server answers a request, or will not answer it. -/
  | answer (task : Nat) (answer : Except Failure Value)

namespace Pool

/-- A session of which nothing was asked. -/
def ofSession (s : Session) : Pool := ⟨s, []⟩

/-- What an operation waits for. -/
def pause? (p : Pool) (task : Nat) : Option Pause :=
  match p.tasks[task]? with
  | some (.running (.paused pause)) => some pause
  | _ => none

/-- How an operation ended. -/
def outcome? (p : Pool) (task : Nat) : Option (Except Failure Result) :=
  match p.tasks[task]? with
  | some (.running (.finished outcome)) => some outcome
  | _ => none

/-- An operation has come to some point. -/
def advance (p : Pool) (task : Nat) (a : Session.Advance) : Pool :=
  ⟨a.1, p.tasks.set task (.running a.2)⟩

/-- A notice may have reached the server. -/
def deliver (s : Session) (isDelivered : Bool) (notice : Notice) : Session :=
  if isDelivered then s.record (.delivered notice) else s

/-- Carries out a move, if it is possible. Nothing comes of a command whose messages
are nested deeper than the given depth. -/
def move? (depth : Nat) (p : Pool) : Move → Option Pool
  | .submit operation => some { p with tasks := p.tasks ++ [.created operation] }
  | .begin task =>
    match p.tasks[task]? with
    | some (.created operation) => (p.session.begin depth task operation).map (p.advance task)
    | _ => none
  | .command c => (p.session.perform depth c).map fun a => { p with session := a.1 }
  | .beginExchange number =>
    match p.session.exchanges[number]? with
    | some .scheduled => some { p with session := p.session.beginExchange number }
    | _ => none
  | .answerExchange number answer =>
    match p.session.exchanges[number]? with
    | some .requested => some { p with session := p.session.exchangeAnswered number answer }
    | _ => none
  | .announceExchange number isDelivered _ =>
    match p.session.exchanges[number]? with
    | some .announcing =>
      some { p with
        session := (deliver p.session isDelivered .initialized).exchangeAnnounced number }
    | _ => none
  | .wake task =>
    match p.pause? task with
    | some (.exchange number next) =>
      ((p.session.exchanges[number]?).bind Exchange.outcome?).map fun outcome =>
        p.advance task (p.session.afterHandshake next outcome)
    | _ => none
  | .grant task =>
    match p.pause? task with
    | some (.turn place next) =>
      if (p.session.buffer place).turns.holder = some task then
        some (p.advance task (p.session.turnCame place next))
      else none
    | _ => none
  | .sent task isDelivered outcome =>
    match p.pause? task with
    | some (.notice notice next) =>
      some (p.advance task ((deliver p.session isDelivered notice).noticeSent outcome next))
    | _ => none
  | .answer task answer =>
    match p.pause? task with
    | some (.answer _ _ next) => some (p.advance task (p.session.answered answer next))
    | _ => none

/-- Carries out moves in turn, if all of them are possible. -/
def run? (depth : Nat) (p : Pool) (moves : List Move) : Option Pool :=
  moves.foldlM (move? depth) p

end Pool
end EditorLink
