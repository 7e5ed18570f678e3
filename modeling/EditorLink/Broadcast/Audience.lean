import EditorLink.Broadcast
import EditorLink.Failure
import EditorLink.Value
/-!
# Listeners that act

A listener may act on the very broadcast that calls it: it may subscribe others,
end subscriptions, send notifications of its own, and fail. A notification goes to
those who are subscribed when it is sent, whatever they do in the meantime, and a
listener that fails does not keep the others from being told.

How deep notifications may be nested is a parameter, since listeners that answer
every notification by another one would go on for ever.
-/
namespace EditorLink

/-- What is broadcast. -/
structure Notification where
  method : String
  params : Value

/-- What can be done to a broadcast, by its owner or by a listener. -/
inductive BroadcastAct where
  /-- A name means a new listener from now on, which does these acts when it is told. -/
  | define (name : String) (acts : List BroadcastAct)
  /-- The listener that a name means subscribes; the slot keeps the token. -/
  | subscribe (slot name : String)
  /-- The subscription whose token the slot keeps ends. -/
  | dispose (slot : String)
  /-- All subscriptions of the listener that a name means end. -/
  | unsubscribe (name : String)
  /-- A notification is sent. -/
  | announce (note : Notification)
  /-- The listener fails, and leaves what it had still to do. -/
  | fail (why : Failure)

/-- Somebody who can subscribe. -/
structure Listener where
  name : String
  acts : List BroadcastAct

/-- A broadcast, all listeners that were ever defined, what names and slots mean,
and who was told what. Listeners are known by their place in the list. -/
structure Audience where
  broadcast : Broadcast Nat
  listeners : List Listener
  names : List (String × Nat)
  slots : List (String × Nat)
  told : List (Nat × Notification)

/-- What listeners do: the acts of a listener that is told a notification, where a
number of deliveries came before. -/
abbrev Reactions := Nat → Listener → Notification → List BroadcastAct

/-- Each listener does the acts that it was defined with. -/
def Reactions.scripted : Reactions := fun _ listener _ => listener.acts

namespace Audience

def empty : Audience := ⟨.empty, [], [], [], []⟩

instance : Inhabited Audience := ⟨empty⟩

def named? (a : Audience) (name : String) : Option Nat := a.names.lookup name

/-- The names of all listeners that are still meant by theirs, and whether they are subscribed. -/
def roster (a : Audience) : List (String × Bool) :=
  a.names.map fun (name, listener) => (name, a.broadcast.contains listener)

/-- Puts an entry under a key, in the place of an earlier one. -/
def assign (key : String) (value : Nat) (entries : List (String × Nat)) : List (String × Nat) :=
  (key, value) :: entries.filter (·.1 ≠ key)

/-- Does an act that tells nobody anything. -/
def apply (a : Audience) : BroadcastAct → Audience
  | .define name acts =>
    { a with listeners := a.listeners ++ [⟨name, acts⟩]
             names := assign name a.listeners.length a.names }
  | .subscribe slot name =>
    match a.named? name with
    | none => a
    | some listener =>
      let (broadcast, token) := a.broadcast.subscribe listener
      { a with broadcast := broadcast, slots := assign slot token a.slots }
  | .dispose slot =>
    match a.slots.lookup slot with
    | none => a
    | some token => { a with broadcast := a.broadcast.cancel token }
  | .unsubscribe name =>
    match a.named? name with
    | none => a
    | some listener => { a with broadcast := a.broadcast.cancelAll listener }
  | .announce _ => a
  | .fail _ => a

/-- Does some acts in turn up to the first that fails, with a way of sending
notifications; the second part of the result is the failure. -/
def performWith (announce : Audience → Notification → Option Audience) :
    Audience → List BroadcastAct → Option (Audience × Option Failure)
  | a, [] => some (a, none)
  | a, .fail why :: _ => some (a, some why)
  | a, .announce note :: rest => do performWith announce (← announce a note) rest
  | a, act :: rest => performWith announce (a.apply act) rest

/-- Tells one listener a notification, with a way of doing what it does. -/
def tellWith (perform : Audience → List BroadcastAct → Option (Audience × Option Failure))
    (react : Reactions) (note : Notification) (a : Audience) (listener : Nat) : Option Audience := do
  let acts := match a.listeners[listener]? with
    | some l => react a.told.length l note
    | none => []
  let (after, _) ← perform { a with told := a.told ++ [(listener, note)] } acts
  return after

/-- Does some acts in turn, where notifications may be nested to a depth. -/
def perform (react : Reactions) : Nat → Audience → List BroadcastAct →
    Option (Audience × Option Failure)
  | 0 => performWith fun _ _ => none
  | depth + 1 => performWith fun a note =>
      a.broadcast.listeners.foldlM (tellWith (perform react depth) react note) a

/-- Sends a notification to everybody who is subscribed. -/
def announce (react : Reactions) (depth : Nat) (a : Audience) (note : Notification) :
    Option Audience :=
  a.broadcast.listeners.foldlM (tellWith (perform react depth) react note) a

end Audience
end EditorLink
