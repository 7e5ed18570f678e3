import EditorLink.Session.Sending
import EditorLink.Wire.Answer
/-!
# The handshake

A session starts with an exchange: the server is told about the editor, answers
what it can do, and is told that the session starts. All who ask for the handshake
while an exchange goes on share its outcome. After a failed exchange the next one
who asks starts another; after one that succeeded nobody does.

An exchange begins some time after it was asked for.
-/
namespace EditorLink.Session

/-- Replaces an exchange. -/
def setExchange (s : Session) (number : Nat) (e : Exchange) : Session :=
  { s with exchanges := s.exchanges.set number e }

/-- The exchange to join, which is a new one if there is none. -/
def joined (s : Session) : Session × Nat :=
  match s.current with
  | some number => (s, number)
  | none =>
    ({ s with exchanges := s.exchanges ++ [.scheduled], current := some s.exchanges.length },
      s.exchanges.length)

/-- An exchange is over; those who waited for it go on. -/
def afterHandshake (s : Session) (next : AfterHandshake) (outcome : Except Failure Unit) : Advance :=
  match outcome, next with
  | .error why, _ => s.stop why
  | .ok (), .finish => s.finish .done
  | .ok (), .openBuffer place text => s.openBuffer place text

/-- Asks for the handshake and waits for it, if it is not over yet. -/
def handshake (s : Session) (next : AfterHandshake) : Advance :=
  if s.phase = .closed then s.stop .closedSession
  else
    let (after, number) := s.joined
    match (after.exchanges[number]?).bind Exchange.outcome? with
    | some outcome => after.afterHandshake next outcome
    | none => (after, .paused (.exchange number next))

/-- An exchange fails; if nothing else has happened to the session meanwhile, the
next one who asks starts another. -/
def exchangeFailed (s : Session) (number : Nat) (why : Failure) : Session :=
  let after := s.setExchange number (.failed why)
  if s.phase = .initializing then { after with phase := .uninitialized, current := none } else after

/-- A scheduled exchange begins. -/
def beginExchange (s : Session) (number : Nat) : Session :=
  let begun := { s with phase := .initializing }
  match s.settings.introduction number with
  | .error why => begun.exchangeFailed number why
  | .ok introduction =>
    (begun.setExchange number .requested).record
      (.requested (.introduce introduction) (s.settings.seconds * Settings.handshakeFactor))

/-- The server has answered, or could not be asked. -/
def exchangeAnswered (s : Session) (number : Nat) (answer : Except Failure Value) : Session :=
  let read := answer.bind fun v =>
    match Wire.introduced? v with
    | some c => .ok c
    | none => .error (.unreadableAnswer RequestMethod.introduce.name)
  match read with
  | .error why => s.exchangeFailed number why
  | .ok capabilities =>
    if s.phase = .closed then s.setExchange number .succeeded
    else
      ({ s with capabilities := some capabilities }.setExchange number .announcing).record
        (.handed .initialized)

/-- The server was told that the session starts; if it could not be told, that does
not matter. -/
def exchangeAnnounced (s : Session) (number : Nat) : Session :=
  { s with phase := .ready, isReady := true }.setExchange number .succeeded

end EditorLink.Session
