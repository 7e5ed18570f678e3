import EditorLink.Proofs.Broadcast.Relay
import EditorLink.Proofs.Session.Registry

/-!
# Everybody attached is told once

What happens to a session is told by a history of commands, of messages that are handed out,
and of those who are told them; listeners give commands in between, also to hand out further
messages. The history alone tells who is attached: buffers by the last command that attached
or detached them, and listeners of the host until their tokens are disposed of. At every
moment the accounts of the session say the same, and a message is told those who are attached
when it is handed out, once each, and nobody else. What listeners of the host have heard by the
trace of the session is what they were told.
-/
namespace EditorLink

/-- Something that happens to a session when a command is carried out. -/
abbrev Session.Entry := Happening Session Push Subscriber Command

namespace Session

/-- A session as a relay: buffers show what they are told, and their hosts and listeners give
commands. -/
def relay : Relay Session Push Subscriber Command where
  listeners s := s.broadcast.listeners
  tell s subscriber push :=
    match subscriber with
    | .buffer place => (s.showFindings place push, s.viewActs place push)
    | .host place =>
      match s.hosts[place]? with
      | none => (s, [])
      | some listener =>
        (s.record (.heard listener.name push),
          s.settings.reactions s.trace.length listener push)
  act s
    | .publish push => .sends push
    | c =>
      match s.apply c with
      | (after, .ok ()) => .does after
      | (after, .error _) => .fails after

section
variable {s t : Session} {c : Command} {cs : List Command} {depth : Nat}

theorem commandsWith_eq {publish send : Session → Push → Option Session}
    (h : ∀ s push, publish s push = send s push) (s : Session) (cs : List Command) :
    commandsWith publish s cs = relay.actWith send s cs := by
  induction cs generalizing s with
  | nil => rfl
  | cons c rest ih =>
    have happly (hc : commandWith publish s c = some (s.apply c))
        (hact : relay.act s c = match s.apply c with
          | (after, .ok ()) => .does after
          | (after, .error _) => .fails after) :
        commandsWith publish s (c :: rest) = relay.actWith send s (c :: rest) := by
      simp only [commandsWith, Relay.actWith, hc, hact, Option.bind_eq_bind, Option.bind_some]
      obtain ⟨after, outcome⟩ := s.apply c
      cases outcome with
      | ok u => exact ih after
      | error why => rfl
    cases c with
    | publish push =>
      have hstep : relay.actWith send s (.publish push :: rest) =
          (send s push).bind fun t => relay.actWith send t rest := rfl
      rw [hstep, ← h]
      simp only [commandsWith, commandWith, Option.bind_eq_bind, Option.bind_map]
      exact Option.bind_congr fun after _ => ih after
    | _ => exact happly rfl rfl

theorem tellWith_eq {perform : Session → List Command → Option Session}
    (h : ∀ s, perform s [] = some s) (push : Push) (s : Session) (subscriber : Subscriber) :
    tellWith perform push s subscriber = relay.tellWith perform push s subscriber := by
  cases subscriber with
  | buffer place => rfl
  | host place =>
    simp only [tellWith, Relay.tellWith, relay]
    cases s.hosts[place]? with
    | none => exact (h s).symm
    | some listener => rfl

/-- Commands that listeners give are the acts of the relay. -/
theorem commands_eq (depth : Nat) (s : Session) (cs : List Command) :
    commands depth s cs = relay.perform depth s cs := by
  induction depth generalizing s cs with
  | zero => exact commandsWith_eq (fun _ _ => rfl) s cs
  | succ depth ih =>
    refine commandsWith_eq (fun s push => ?_) s cs
    have hnil (s : Session) : commands depth s [] = some s := by cases depth <;> rfl
    have htell : tellWith (commands depth) push = relay.tellWith (relay.perform depth) push := by
      have hperform : commands depth = relay.perform depth := by
        funext s cs
        exact ih s cs
      rw [← hperform]
      funext s subscriber
      exact tellWith_eq hnil push s subscriber
    rw [publishWith, htell]
    rfl

/-- A command that the owner gives is a run of the relay. -/
theorem runs_of_perform {a : Session × Except Failure Unit} (h : s.perform depth c = some a) :
    ∃ log, relay.Runs s (.acting [c]) log a.1 := by
  have hcommands : commands (depth + 1) s [c] = some a.1 := by
    have hc : commandWith (publishWith (commands depth)) s c = some a := h
    obtain ⟨after, outcome⟩ := a
    simp only [commands, commandsWith, hc, Option.bind_eq_bind, Option.bind_some]
    cases outcome <;> rfl
  rw [commands_eq] at hcommands
  exact Relay.runs_of_perform hcommands

end
end Session

/-! ## Histories -/

namespace Happening

/-- The subscription that a command makes for a listener of the host. -/
def listens? : Session.Entry → Option (Subscription Subscriber)
  | .did s (.listen _ _) => some ⟨s.broadcast.issued, .host s.hosts.length⟩
  | _ => none

/-- The token that the host disposes of with a command. -/
def disposes? : Session.Entry → Option Nat
  | .did s (.dispose name) => s.handles.lookup name
  | _ => none

/-- Whether a command attaches a buffer or detaches it. -/
def attaches? (place : Nat) : Session.Entry → Option Bool
  | .did s (.create _ _ _ _) => if s.buffers.length = place then some true else none
  | .did s (.attach name) => if s.find? name = some place then some true else none
  | .did s (.detach name) => if s.find? name = some place then some false else none
  | _ => none

/-- What a listener of the host hears when it is told a message, by its name. -/
def heard? : Session.Entry → Option (String × Push)
  | .told s (.host place) push => some (s.hosts[place]?.elim "" (·.name), push)
  | _ => none

/-- Whether a listener of the host who is told something is one that the session knows. -/
def IsKnown : Session.Entry → Prop
  | .told s (.host place) _ => place < s.hosts.length
  | _ => True

end Happening

/-- Whether a buffer is attached after a history: the last command that was about this decides.
A listener of the host is attached until the token of its subscription is disposed of. -/
def attends (history : List Session.Entry) : Subscriber → Bool
  | .buffer place => history.foldl (fun was x => (x.attaches? place).getD was) false
  | .host place => (history.filterMap Happening.listens?).any fun t =>
      t.listener = .host place && t.token ∉ history.filterMap Happening.disposes?

namespace Session

/-- The accounts of a session say who is attached as its history does. -/
structure InStep (history : List Entry) (s : Session) : Prop where
  sound : s.registry.Sound (history.filterMap Happening.listens?)
    (history.filterMap Happening.disposes?)
  attached : ∀ place, (s.token? place).isSome = attends history (.buffer place)

section
variable {s t : Session} {history : List Entry} {x : Entry}

theorem attends_concat (history : List Entry) (x : Entry) (place : Nat) :
    attends (history ++ [x]) (.buffer place) =
      (x.attaches? place).getD (attends history (.buffer place)) := by
  simp only [attends, List.foldl_append, List.foldl_cons, List.foldl_nil]

theorem InStep.congr (h : InStep history s) (hr : t.registry = s.registry) : InStep history t where
  sound := by
    rw [hr]
    exact h.sound
  attached place := by
    have htoken : t.token? place = s.token? place :=
      congrArg (fun r => r.attached.lookup place) hr
    rw [htoken]
    exact h.attached place

/-- Whatever attaches nobody and detaches nobody leaves the accounts in step. -/
theorem InStep.rest (h : InStep history s) (hr : t.registry = s.registry)
    (hl : x.listens? = none) (hd : x.disposes? = none) (ha : ∀ place, x.attaches? place = none) :
    InStep (history ++ [x]) t := by
  have ht : InStep history t := h.congr hr
  refine ⟨?_, fun place => ?_⟩
  · simpa [hl, hd] using ht.sound
  · rw [attends_concat, ha]
    exact ht.attached place

theorem after_did (s : Session) (c : Command) : relay.after (.did s c) = (s.apply c).1 := by
  have happly (hact : relay.act s c = match s.apply c with
      | (after, .ok ()) => .does after
      | (after, .error _) => .fails after) : relay.after (.did s c) = (s.apply c).1 := by
    simp only [Relay.after, hact]
    obtain ⟨after, outcome⟩ := s.apply c
    cases outcome <;> rfl
  cases c with
  | publish push => rfl
  | _ => exact happly rfl

theorem inStep_onBuffer {c : Command} {name : String} {act : Nat → Session}
    (h : InStep history s) (hl : Happening.listens? (.did s c) = none)
    (hd : Happening.disposes? (.did s c) = none)
    (ha : s.find? name = none → ∀ place, Happening.attaches? place (.did s c) = none)
    (hact : ∀ place, s.find? name = some place → InStep (history ++ [.did s c]) (act place)) :
    InStep (history ++ [.did s c]) (s.onBuffer name act).1 := by
  unfold onBuffer
  split
  · exact h.rest rfl hl hd (ha ‹_›)
  · exact hact _ ‹_›

/-- What attaches one buffer and does nothing else keeps the accounts in step. -/
theorem InStep.attach {place : Nat} (h : InStep history s)
    (hl : x.listens? = none) (hd : x.disposes? = none)
    (ha : ∀ other, x.attaches? other = if place = other then some true else none) :
    InStep (history ++ [x]) (s.attach place) where
  sound := by
    refine sound_attach ?_ place
    simpa [hl, hd] using h.sound
  attached other := by
    rw [isSome_token?_attach, attends_concat, ha, h.attached]
    by_cases ho : place = other <;> simp [ho, eq_comm (a := other)]

/-- What detaches one buffer and does nothing else keeps the accounts in step. -/
theorem InStep.detach {place : Nat} (h : InStep history s)
    (hl : x.listens? = none) (hd : x.disposes? = none)
    (ha : ∀ other, x.attaches? other = if place = other then some false else none) :
    InStep (history ++ [x]) (s.detach place) where
  sound := by
    refine sound_detach ?_ place
    simpa [hl, hd] using h.sound
  attached other := by
    rw [isSome_token?_detach, attends_concat, ha, h.attached]
    by_cases ho : place = other <;> simp [ho, eq_comm (a := other)]

/-- A command keeps the accounts in step. -/
theorem inStep_apply (h : InStep history s) (c : Command) :
    InStep (history ++ [.did s c]) (s.apply c).1 := by
  cases c with
  | create name uri language options =>
    have hcreated : InStep history
        { s with buffers := s.buffers ++ [.fresh name uri language options] } := h.congr rfl
    exact hcreated.attach rfl rfl fun _ => rfl
  | attach name =>
    refine inStep_onBuffer h rfl rfl (fun hn place => ?_) fun place hp => ?_
    · simp [Happening.attaches?, hn]
    · exact h.attach rfl rfl fun other => by simp [Happening.attaches?, hp]
  | detach name =>
    refine inStep_onBuffer h rfl rfl (fun hn place => ?_) fun place hp => ?_
    · simp [Happening.attaches?, hn]
    · exact h.detach rfl rfl fun other => by simp [Happening.attaches?, hp]
  | listen name acts =>
    refine ⟨?_, fun place => ?_⟩
    · have hregistry : (s.apply (.listen name acts)).1.registry =
          ⟨(s.broadcast.subscribe (.host s.hosts.length)).1, s.attached,
            (name, s.broadcast.issued) :: s.handles, s.hosts.length + 1⟩ := by
        simp [apply, Session.listen, registry, Broadcast.subscribe]
      have hdisposes : (Happening.disposes? (.did s (.listen name acts))).toList = [] := rfl
      rw [Pool.filterMap_concat, Pool.filterMap_concat, hdisposes, List.append_nil, hregistry]
      exact h.sound.listen name
    · rw [attends_concat]
      exact h.attached place
  | dispose name =>
    have hattached : (s.dispose name).attached = s.attached := by
      unfold dispose
      split <;> rfl
    refine ⟨?_, fun place => ?_⟩
    · have hlistens : (Happening.listens? (.did s (.dispose name))).toList = [] := rfl
      rw [Pool.filterMap_concat, Pool.filterMap_concat, hlistens, List.append_nil]
      exact sound_dispose h.sound name
    · rw [attends_concat, token?, apply, hattached]
      exact h.attached place
  | setFeatures name changes =>
    exact inStep_onBuffer h rfl rfl (fun _ _ => rfl) fun place _ => h.rest rfl rfl rfl fun _ => rfl
  | hideTooltip name =>
    exact inStep_onBuffer h rfl rfl (fun _ _ => rfl) fun place _ => h.rest rfl rfl rfl fun _ => rfl
  | close => exact h.rest s.still_close.registry rfl rfl fun _ => rfl
  | publish | note | fail => exact h.rest rfl rfl rfl fun _ => rfl

/-- Whatever happens keeps the accounts in step. -/
theorem inStep_after (h : InStep history x.before) : InStep (history ++ [x]) (relay.after x) := by
  cases x with
  | did s c =>
    rw [after_did]
    exact inStep_apply h c
  | told s subscriber push =>
    refine h.rest ?_ rfl rfl fun _ => rfl
    cases subscriber with
    | buffer place => exact (s.mild_showFindings place push).local.still.registry
    | host place =>
      simp only [Relay.after, relay]
      split <;> rfl
  | sent | ended => exact h.rest rfl rfl rfl fun _ => rfl

/-- A run keeps the accounts in step, before everything that happens and in the end. -/
theorem InStep.runs {f : Frame Push Subscriber Command} {log : List Entry}
    (h : InStep history s) (run : relay.Runs s f log t) :
    InStep (history ++ log) t ∧
      ∀ first x rest, log = first ++ x :: rest → InStep (history ++ first) x.before :=
  run.leads.keeps (fun _ _ => inStep_after) h

/-- Where the accounts are in step, everybody attached is one of those who are told something,
once, and nobody else is. -/
theorem InStep.count_listeners (h : InStep history s) (who : Subscriber) :
    s.broadcast.listeners.count who = if attends history who then 1 else 0 := by
  have hmem : who ∈ s.broadcast.listeners ↔ attends history who = true := by
    cases who with
    | buffer place =>
      rw [← h.attached place]
      exact h.sound.mem_buffer_iff
    | host place =>
      simp only [attends, List.any_eq_true, Bool.and_eq_true, decide_eq_true_eq]
      exact h.sound.mem_host_iff
  have hcount : s.broadcast.listeners.count who = if who ∈ s.broadcast.listeners then 1 else 0 :=
    h.sound.broadcast.listeners.count
  rw [hcount]
  simp only [hmem]

/-- No command takes back that there was a listener of the host. -/
theorem hosts_le_apply (s : Session) (c : Command) :
    s.hosts.length ≤ (s.apply c).1.hosts.length := by
  have hattach (t : Session) (place : Nat) : (t.attach place).hosts.length = t.hosts.length := by
    unfold attach
    split <;> rfl
  have hdetach (place : Nat) : (s.detach place).hosts.length = s.hosts.length := by
    unfold detach
    split
    · rfl
    · dsimp only
      split
      · exact congrArg Registry.hosts (still_close _).registry
      · rfl
  have hbuffer (name : String) {act : Nat → Session}
      (h : ∀ place, (act place).hosts.length = s.hosts.length) :
      s.hosts.length ≤ (s.onBuffer name act).1.hosts.length := by
    unfold onBuffer
    split
    · exact Nat.le_refl _
    · exact Nat.le_of_eq (h _).symm
  cases c with
  | create name uri language options =>
    have hcreated := hattach { s with buffers := s.buffers ++ [.fresh name uri language options] }
      s.buffers.length
    exact Nat.le_of_eq hcreated.symm
  | attach name => exact hbuffer name fun place => hattach s place
  | detach name => exact hbuffer name hdetach
  | close => exact Nat.le_of_eq (congrArg Registry.hosts s.still_close.registry).symm
  | listen name acts => simp [apply, listen]
  | dispose name =>
    simp only [apply, dispose]
    split <;> exact Nat.le_refl _
  | setFeatures name changes => exact hbuffer name fun place => rfl
  | hideTooltip name => exact hbuffer name fun place => rfl
  | publish | note | fail => exact Nat.le_refl _

theorem hosts_le_after (x : Entry) : x.before.hosts.length ≤ (relay.after x).hosts.length := by
  cases x with
  | did s c =>
    rw [after_did]
    exact s.hosts_le_apply c
  | told s subscriber push =>
    cases subscriber with
    | buffer place =>
      have hstill := (s.mild_showFindings place push).local.still
      exact Nat.le_of_eq (congrArg Registry.hosts hstill.registry).symm
    | host place =>
      simp only [Relay.after, relay]
      split <;> exact Nat.le_refl _
  | sent | ended => exact Nat.le_refl _

theorem hosts_le_leads {log : List Entry} (h : relay.Leads s log t) :
    s.hosts.length ≤ t.hosts.length := by
  induction log generalizing s with
  | nil => exact Nat.le_of_eq (congrArg (fun s => s.hosts.length) h)
  | cons x rest ih =>
    obtain ⟨rfl, hrest⟩ := h
    exact Nat.le_trans (hosts_le_after x) (ih hrest)

/-- What a listener of the host hears is told by the trace. -/
theorem heard_after (h : x.IsKnown) :
    (relay.after x).heard = x.before.heard ++ x.heard?.toList := by
  cases x with
  | did s c =>
    rw [after_did, heard_apply]
    exact (List.append_nil _).symm
  | told s subscriber push =>
    cases subscriber with
    | buffer place =>
      rw [show (relay.after (.told s (.buffer place) push)).heard = s.heard from
        (s.mild_showFindings place push).local.still.heard]
      exact (List.append_nil _).symm
    | host place =>
      have hplace : s.hosts[place]? = some s.hosts[place] := List.getElem?_eq_getElem h
      simp [Relay.after, relay, hplace, Happening.heard?, Happening.before, record, heard,
        Event.heard?]
  | sent | ended => exact (List.append_nil _).symm

theorem heard_leads {log : List Entry} (h : relay.Leads s log t)
    (known : ∀ x ∈ log, x.IsKnown) : t.heard = s.heard ++ log.filterMap Happening.heard? := by
  induction log generalizing s with
  | nil =>
    cases h
    simp
  | cons x rest ih =>
    obtain ⟨rfl, hrest⟩ := h
    have hx := heard_after (known x List.mem_cons_self)
    rw [ih hrest fun y hy => known y (List.mem_cons_of_mem x hy), hx, List.append_assoc]
    cases hh : x.heard? <;> simp [hh]

/-- Whoever is told a message is known, since those who listen always are. -/
theorem isKnown_of_runs {f : Frame Push Subscriber Command} {log : List Entry}
    (run : relay.Runs s f log t)
    (hf : ∀ push listeners, f = .telling push listeners → ∀ place,
      .host place ∈ listeners → place < s.hosts.length)
    (hl : ∀ x ∈ log, ∀ place, .host place ∈ x.before.broadcast.listeners →
      place < x.before.hosts.length) : ∀ x ∈ log, x.IsKnown := by
  induction run with
  | done | told => simp
  | does effect acts ih =>
    simp only [List.forall_mem_cons] at hl ⊢
    exact ⟨trivial, ih (by simp) hl.2⟩
  | fails effect => simp [Happening.IsKnown]
  | sends effect tells acts ihInner ihOuter =>
    simp only [List.forall_mem_cons, List.forall_mem_append] at hl ⊢
    obtain ⟨hsent, hinner, -, houter⟩ := hl
    refine ⟨trivial, ihInner ?_ hinner, trivial, ihOuter (by simp) houter⟩
    rintro push listeners hframe
    cases hframe
    exact hsent
  | @tells s t u push listener rest inner outer acts tells ihInner ihOuter =>
    simp only [List.forall_mem_cons, List.forall_mem_append] at hl ⊢
    obtain ⟨-, hinner, houter⟩ := hl
    have hlisteners := hf push (listener :: rest) rfl
    refine ⟨?_, ihInner (by simp) hinner, ihOuter ?_ houter⟩
    · cases listener with
      | buffer place => trivial
      | host place => exact hlisteners place List.mem_cons_self
    · rintro push' listeners hframe place hm
      cases hframe
      have hlt := hlisteners place (List.mem_cons_of_mem _ hm)
      have htell := hosts_le_after (.told s listener push)
      have hacts : (relay.tell s listener push).1.hosts.length ≤ t.hosts.length :=
        hosts_le_leads acts.leads
      exact Nat.lt_of_lt_of_le hlt (Nat.le_trans htell hacts)

end
end Session

/-! ## Histories of runs -/

namespace Pool
open Session

/-- The command that is given in a step. -/
def Step.command? (x : Step) : Option Command :=
  match x.move with
  | .command c => some c
  | _ =>
    match x.begun? with
    | some (.perform c) => some c
    | _ => none

/-- The history of a run: what happens when the commands that are given are carried out. -/
inductive Chronicle : List Step → List Session.Entry → Prop where
  | start : Chronicle [] []
  | commands {steps : List Step} {history log : List Session.Entry} {x : Step} {c : Command}
      (past : Chronicle steps history) (gives : x.command? = some c)
      (runs : Session.relay.Runs x.before.session (.acting [c]) log x.after.session) :
      Chronicle (steps ++ [x]) (history ++ log)
  | other {steps : List Step} {history : List Session.Entry} {x : Step}
      (past : Chronicle steps history) (gives : x.command? = none) :
      Chronicle (steps ++ [x]) history

/-- The accounts of a session in the course of a run and in the end. -/
structure Accounted (history : List Session.Entry) (q : Pool) : Prop where
  ends : InStep history q.session
  throughout : ∀ first x rest, history = first ++ x :: rest → InStep first x.before
  /-- A message is told those who are attached when it is handed out, in the order in which
  they were attached. -/
  reaches : ∀ first found push rest, history = first ++ .sent found push :: rest →
    calls 0 rest = found.broadcast.listeners.map (·, push)
  /-- Everybody attached is told it once, and nobody else is. -/
  once : ∀ first found push rest, history = first ++ .sent found push :: rest →
    ∀ who, ((calls 0 rest).map Prod.fst).count who = if attends first who then 1 else 0
  /-- By the trace, listeners of the host have heard what they were told. -/
  heard : q.session.heard = history.filterMap Happening.heard?

section
variable {depth : Nat} {settings : Settings} {p q : Pool} {m : Move} {steps : List Step}
  {history : List Session.Entry}

/-- A step without a command leaves all as it is; one with a command is a run. -/
theorem command_move (possible : p.move? depth m = some q) :
    (Step.command? ⟨p, m, q⟩ = none ∧ Still p.session q.session) ∨
      ∃ c, Step.command? ⟨p, m, q⟩ = some c ∧
        ∃ log, Session.relay.Runs p.session (.acting [c]) log q.session := by
  cases moves_of_possible possible with
  | submit operation => exact .inl ⟨rfl, Still.refl _⟩
  | @begin who operation a created begins =>
    have hbegun := begun?_begin (p.advance who a) created
    by_cases hc : ∃ c, operation = .perform c
    · obtain ⟨c, rfl⟩ := hc
      obtain ⟨b, hb, rfl⟩ := Option.map_eq_some_iff.mp begins
      exact .inr ⟨c, by simp only [Step.command?, hbegun], runs_of_perform hb⟩
    · refine .inl ⟨?_, still_begin begins fun c h => hc ⟨c, h⟩⟩
      simp only [Step.command?, hbegun]
      cases operation with
      | perform c => exact absurd ⟨c, rfl⟩ hc
      | _ => rfl
  | @command c a performs => exact .inr ⟨c, rfl, runs_of_perform performs⟩
  | beginExchange scheduled => exact .inl ⟨rfl, still_beginExchange _ _⟩
  | answerExchange answer requested => exact .inl ⟨rfl, still_exchangeAnswered _ _ _⟩
  | announceExchange isDelivered outcome announcing =>
    have hdelivered := still_deliver p.session isDelivered .initialized
    exact .inl ⟨rfl, hdelivered.registry, hdelivered.heard⟩
  | wake paused ended => exact .inl ⟨rfl, (local_afterHandshake _ _ _).still⟩
  | grant paused holds => exact .inl ⟨rfl, (local_turnCame _ _ _).still⟩
  | @sent who n next isDelivered outcome paused =>
    have hdelivered := still_deliver p.session isDelivered n
    exact .inl ⟨rfl, hdelivered.trans (local_noticeSent _ outcome next).still⟩
  | answer answer paused => exact .inl ⟨rfl, (aside_answered _ _ _).mild.local.still⟩

/-- Every run has a history. -/
theorem exists_chronicle (run : Run depth p steps q) : ∃ history, Chronicle steps history := by
  induction run with
  | start => exact ⟨[], .start⟩
  | next run possible ih =>
    obtain ⟨history, past⟩ := ih
    obtain ⟨gives, -⟩ | ⟨c, gives, log, runs⟩ := command_move possible
    · exact ⟨history, past.other gives⟩
    · exact ⟨history ++ log, past.commands gives runs⟩

/-- What commands and all other steps keep holds before everything that happens in a run, and
in the end. -/
theorem Chronicle.keeps {P : List Session.Entry → Session → Prop}
    (chronicle : Chronicle steps history) (run : Run depth p steps q) (start : P [] p.session)
    (keep : ∀ past x, P past x.before → P (past ++ [x]) (Session.relay.after x))
    (other : ∀ x ∈ steps, x.command? = none →
      ∀ past, P past x.before.session → P past x.after.session) :
    P history q.session ∧ ∀ first x rest, history = first ++ x :: rest → P first x.before := by
  induction chronicle generalizing q with
  | start =>
    rw [run.eq_of_nil]
    exact ⟨start, by simp⟩
  | @commands steps history log x c past gives runs ih =>
    obtain ⟨hbefore, hrest⟩ := run.at_step
    obtain ⟨hstart, hpast⟩ := ih hbefore fun y hy => other y (List.mem_append_left _ hy)
    obtain ⟨hend, hlog⟩ := runs.leads.keeps keep hstart
    rw [hrest.eq_of_nil]
    refine ⟨hend, fun first y rest hs => ?_⟩
    obtain ⟨more, hf, hl⟩ | ⟨more, hh, hy⟩ := List.append_eq_append_iff.mp hs
    · rw [hf]
      exact hlog more y rest hl
    · cases more with
      | nil =>
        rw [List.append_nil] at hh
        subst hh
        simpa using hlog [] y rest hy.symm
      | cons z more =>
        rw [List.cons_append, List.cons.injEq] at hy
        obtain ⟨rfl, -⟩ := hy
        exact hpast first y more hh
  | @other steps history x past gives ih =>
    obtain ⟨hbefore, hrest⟩ := run.at_step
    obtain ⟨hstart, hpast⟩ := ih hbefore fun y hy => other y (List.mem_append_left _ hy)
    rw [hrest.eq_of_nil]
    exact ⟨other x (by simp) gives history hstart, hpast⟩

/-- The accounts are in step before everything that happens in a run, and in the end. -/
theorem inStep_run (chronicle : Chronicle steps history)
    (run : Run depth (ofSession (.start settings)) steps q) :
    InStep history q.session ∧
      ∀ first x rest, history = first ++ x :: rest → InStep first x.before := by
  have hstart : InStep [] (Session.start settings) := ⟨Registry.sound_empty, fun place => rfl⟩
  refine chronicle.keeps run hstart (fun _ _ => inStep_after) fun x hx gives past h => ?_
  obtain ⟨-, hstill⟩ | ⟨c, hc, -⟩ := command_move (run.step_possible hx)
  · exact h.congr hstill.registry
  · rw [gives] at hc
    cases hc

/-- What listeners of the host have heard is what they were told. -/
theorem heard_run (chronicle : Chronicle steps history)
    (run : Run depth (ofSession (.start settings)) steps q) :
    q.session.heard = history.filterMap Happening.heard? := by
  induction chronicle generalizing q with
  | start =>
    rw [run.eq_of_nil]
    rfl
  | @commands steps history log x c past gives runs ih =>
    obtain ⟨hbefore, hrest⟩ := run.at_step
    have hlog := ((inStep_run past hbefore).1.runs runs).2
    have hknown : ∀ y ∈ log, y.IsKnown := by
      refine isKnown_of_runs runs (by simp) fun y hy place hm => ?_
      obtain ⟨first, rest, hs⟩ := List.append_of_mem hy
      obtain ⟨t, ht, he⟩ := List.mem_map.mp hm
      exact (hlog first y rest hs).sound.created t ht place he
    rw [hrest.eq_of_nil, heard_leads runs.leads hknown, ih hbefore, List.filterMap_append]
  | @other steps history x past gives ih =>
    obtain ⟨hbefore, hrest⟩ := run.at_step
    have possible := run.step_possible (x := x) (by simp)
    obtain ⟨-, hstill⟩ | ⟨c, hc, -⟩ := command_move possible
    · rw [hrest.eq_of_nil, hstill.heard, ih hbefore]
    · rw [gives] at hc
      cases hc

theorem fair_append (chronicle : Chronicle steps history) {rest : List Session.Entry}
    (h : Session.relay.Fair rest) : Session.relay.Fair (history ++ rest) := by
  induction chronicle generalizing rest with
  | start => exact h
  | commands past gives runs ih =>
    rw [List.append_assoc]
    exact ih (runs.fair_append h)
  | other past gives ih => exact ih h

/-- The accounts of a session agree with its history, whatever is attached, detached, listened
to, disposed of and handed out, also by listeners, and a message is told everybody who is
attached when it is handed out, once, and nobody else. -/
theorem accounted_run (run : Run depth (ofSession (.start settings)) steps q) :
    ∃ history, Chronicle steps history ∧ Accounted history q := by
  obtain ⟨history, chronicle⟩ := exists_chronicle run
  obtain ⟨hends, hthroughout⟩ := inStep_run chronicle run
  have hreaches : ∀ first found push rest, history = first ++ .sent found push :: rest →
      calls 0 rest = found.broadcast.listeners.map (·, push) := by
    intro first found push rest hs
    have hfair : Session.relay.Fair (history ++ []) := fair_append chronicle trivial
    rw [List.append_nil, hs] at hfair
    exact hfair.calls_eq
  refine ⟨history, chronicle, hends, hthroughout, hreaches,
    fun first found push rest hs who => ?_, heard_run chronicle run⟩
  have htold : (calls 0 rest).map Prod.fst = found.broadcast.listeners := by
    simp [hreaches first found push rest hs, Function.comp_def]
  rw [htold]
  exact (hthroughout first _ rest hs).count_listeners who

end

/-- A host that detaches another buffer as soon as it is shown something, before that buffer is
told, which is shown the message all the same. -/
example :
    let shown : BufferOptions := { BufferOptions.standard with showDiagnostics := .quiet }
    let settings := { Settings.standard with views := fun _ place _ =>
      if place = 0 then [.detach "b"] else [] }
    ((ofSession (.start settings)).run? 1 [.command (.create "a" "file:///x" "text" shown),
        .command (.create "b" "file:///x" "text" shown),
        .command (.publish ⟨Push.publishMethod, .findings ⟨"file:///x", [], .null⟩⟩)]).map
      (fun q => (q.session.attached, q.session.trace.length)) = some ([(0, 0)], 2) := rfl

/-- A buffer is attached twice and detached once by a listener, which disposes of itself,
attaches another listener, hands out a message of its own and fails; the host disposes of it
once more, and another message is handed out. -/
def comingAndGoing : List Move :=
  [.command (.create "a" "file:///a" "text" .standard), .command (.attach "a"),
    .command (.create "b" "file:///b" "text" .standard),
    .command (.listen "l" [.dispose "l", .detach "a", .listen "m" [],
      .publish ⟨"inner", .untyped .null⟩, .fail .brokenPipe]),
    .submit (.perform (.publish ⟨"outer", .untyped .null⟩)), .begin 0, .command (.dispose "l"),
    .command (.detach "a"), .command (.publish ⟨"last", .untyped .null⟩)]

theorem accounted_comingAndGoing :
    ∃ q, (ofSession (.start .standard)).run? 2 comingAndGoing = some q ∧
      ∃ history, Chronicle (trail 2 (ofSession (.start .standard)) comingAndGoing) history ∧
        Accounted history q :=
  ⟨_, rfl, accounted_run (run_trail rfl)⟩

end Pool
end EditorLink
