import EditorLink.Broadcast.Audience
import EditorLink.Proofs.Broadcast.Relay

/-!
# Everybody is told once

Every notification goes to all who are subscribed when it is sent, once for each subscription
and in the order in which they subscribed, whatever the listeners do to the broadcast while
they are told: they may subscribe, end subscriptions of their own and of others, send further
notifications, and fail.
-/
namespace EditorLink

/-- The failure of an act that is one. -/
def BroadcastAct.failure? : BroadcastAct → Option Failure
  | .fail why => some why
  | _ => none

namespace Audience

/-- An audience as a relay, where those who are told something react to it. -/
def relay (react : Reactions) : Relay Audience Notification Nat BroadcastAct where
  listeners a := a.broadcast.listeners
  tell a listener note :=
    ({ a with told := a.told ++ [(listener, note)] },
      match a.listeners[listener]? with
      | some l => react a.told.length l note
      | none => [])
  act a
    | .announce note => .sends note
    | .fail _ => .fails a
    | act => .does (a.apply act)

section
variable {react : Reactions} {a b : Audience} {acts : List BroadcastAct}
  {outcome : Option Failure} {depth : Nat}
  {log : List (Happening Audience Notification Nat BroadcastAct)}

theorem performWith_eq {announce send : Audience → Notification → Option Audience}
    (h : ∀ a note, announce a note = send a note) (a : Audience) (acts : List BroadcastAct) :
    performWith announce a acts = ((relay react).actWith send a acts).map
      fun b => (b, acts.findSome? BroadcastAct.failure?) := by
  induction acts generalizing a with
  | nil => rfl
  | cons act rest ih =>
    cases act with
    | fail why => rfl
    | announce note =>
      have hstep : (relay react).actWith send a (.announce note :: rest) =
          (send a note).bind fun t => (relay react).actWith send t rest := rfl
      simp only [performWith, hstep, h, ih, Option.bind_eq_bind, Option.map_bind]
      rfl
    | _ => exact ih _

theorem tellWith_eq {perform : Audience → List BroadcastAct → Option (Audience × Option Failure)}
    {perform' : Audience → List BroadcastAct → Option Audience}
    (h : ∀ a acts, (perform a acts).map Prod.fst = perform' a acts) (note : Notification)
    (a : Audience) (listener : Nat) :
    tellWith perform react note a listener = (relay react).tellWith perform' note a listener := by
  unfold Relay.tellWith
  rw [← h, Option.map_eq_bind]
  rfl

/-- What acts come to, and that they fail only by a failure of their own. -/
theorem perform_eq (react : Reactions) (depth : Nat) (a : Audience) (acts : List BroadcastAct) :
    a.perform react depth acts = ((relay react).perform depth a acts).map
      fun b => (b, acts.findSome? BroadcastAct.failure?) := by
  induction depth generalizing a acts with
  | zero => exact performWith_eq (fun _ _ => rfl) a acts
  | succ depth ih =>
    have hfst (a : Audience) (acts : List BroadcastAct) :
        (a.perform react depth acts).map Prod.fst = (relay react).perform depth a acts := by
      simp [ih, Function.comp_def]
    refine performWith_eq (fun a note => ?_) a acts
    have htell : tellWith (perform react depth) react note =
        (relay react).tellWith ((relay react).perform depth) note := by
      funext t listener
      exact tellWith_eq hfst note t listener
    rw [htell]
    rfl

/-- Those who were told something are those of the log. -/
theorem told_eq (h : (relay react).Leads a log b) :
    b.told = a.told ++ log.filterMap Happening.told? := by
  induction log generalizing a with
  | nil =>
    cases h
    simp
  | cons x rest ih =>
    obtain ⟨rfl, hrest⟩ := h
    rw [ih hrest]
    cases x with
    | told s listener note => simp [Relay.after, relay, Happening.told?, Happening.before]
    | did s act =>
      have hact : ((relay react).after (.did s act)).told = s.told := by
        cases act with
        | subscribe slot name =>
          dsimp only [Relay.after, relay, apply]
          cases s.named? name <;> rfl
        | dispose slot =>
          dsimp only [Relay.after, relay, apply]
          cases s.slots.lookup slot <;> rfl
        | unsubscribe name =>
          dsimp only [Relay.after, relay, apply]
          cases s.named? name <;> rfl
        | _ => rfl
      rw [hact]
      rfl
    | _ => rfl

/-- Acts that come to an end fail only by a failure of their own. On the way, every
notification that is sent, by them or by listeners, is told all who are subscribed when it is
sent, once for each subscription and in the order of the subscriptions, and nobody else. -/
theorem told_once (h : a.perform react depth acts = some (b, outcome)) :
    outcome = acts.findSome? BroadcastAct.failure? ∧
      ∃ log, (relay react).Runs a (.acting acts) log b ∧
        b.told = a.told ++ log.filterMap Happening.told? ∧
        ∀ first found note rest, log = first ++ .sent found note :: rest →
          calls 0 rest = found.broadcast.live.map fun s => (s.listener, note) := by
  rw [perform_eq, Option.map_eq_some_iff] at h
  obtain ⟨after, hperform, hb⟩ := h
  cases hb
  obtain ⟨log, run⟩ := Relay.runs_of_perform hperform
  refine ⟨rfl, log, run, told_eq run.leads, fun first found note rest hlog => ?_⟩
  rw [run.calls_eq hlog]
  simp [relay, Broadcast.listeners, Function.comp_def]

end

/-- The first listener ends its subscription and that of the second, subscribes a new one, sends
something of its own and fails; the third has subscribed twice. -/
def crowd : List BroadcastAct :=
  [.define "late" [], .define "first" [.dispose "first", .dispose "second",
      .subscribe "late" "late", .announce ⟨"inner", .null⟩, .fail .brokenPipe],
    .define "second" [], .define "third" [], .subscribe "first" "first",
    .subscribe "second" "second", .subscribe "third" "third", .subscribe "again" "third",
    .announce ⟨"outer", .null⟩]

theorem told_once_crowd :
    ∃ b, empty.perform .scripted 2 crowd = some (b, none) ∧
      b.told.map (fun (listener, note) => (listener, note.method)) =
        [(1, "outer"), (3, "inner"), (3, "inner"), (0, "inner"), (2, "outer"), (3, "outer"),
          (3, "outer")] ∧
      ∃ log, (relay .scripted).Runs empty (.acting crowd) log b ∧
        b.told = empty.told ++ log.filterMap Happening.told? ∧
        ∀ first found note rest, log = first ++ .sent found note :: rest →
          calls 0 rest = found.broadcast.live.map fun s => (s.listener, note) :=
  ⟨_, rfl, rfl, (told_once (show empty.perform .scripted 2 crowd = some (_, none) from rfl)).2⟩

end Audience
end EditorLink
