import EditorLink.Probe
import EditorLink.Proofs.Document.Order
import EditorLink.Proofs.Session.Departure

/-!
# What a probe is shown

A probe has a session to itself: nobody is attached but its document, which is opened by the only
operation there is. Until that is over the document is empty; from then on it is what was read.
Whatever the server sends in the meantime about this document is shown, in the document as it is
then, and everything else leaves alone what was shown last.
-/
namespace EditorLink

/-- What the host of a buffer is shown with an event. -/
def Event.shown? (place : Nat) : Event → Option (List Diagnostic)
  | .called other (.showDiagnostics shown) => if other = place then some shown else none
  | _ => none

/-- Whether an event neither closes the transport nor shows what the server has found. -/
def Event.isUnseen : Event → Bool
  | .transportClosed | .called _ (.showDiagnostics _) => false
  | _ => true

namespace Session

/-- Nothing has happened that whoever probes a document would see. -/
structure Unnoticed (s t : Session) : Prop where
  registry : t.registry = s.registry
  settings : t.settings = s.settings
  buffers : t.buffers = s.buffers
  unclosed : s.phase ≠ .closed → t.phase ≠ .closed
  trace : ∃ events, t.trace = s.trace ++ events ∧ ∀ e ∈ events, e.isUnseen = true

section
variable {s t : Session} {place : Nat}

theorem lastShown_append {events : List Event} (ht : t.trace = s.trace ++ events)
    (he : ∀ e ∈ events, e.shown? place = none) : t.lastShown place = s.lastShown place := by
  have hlast (s : Session) :
      s.lastShown place = (s.trace.reverse.findSome? (Event.shown? place)).getD [] := by
    rw [← List.findSomeRev?_eq_findSome?_reverse]
    rfl
  have hnone : events.reverse.findSome? (Event.shown? place) = none := by
    simpa [List.findSome?_eq_none_iff] using he
  rw [hlast, hlast, ht, List.reverse_append, List.findSome?_append, hnone, Option.none_or]

theorem lastShown_called (s : Session) (place : Nat) (shown : List Diagnostic) :
    (s.record (.called place (.showDiagnostics shown))).lastShown place = shown := by
  simp [lastShown, record, List.findSomeRev?_eq_findSome?_reverse]

theorem Unnoticed.refl (s : Session) : Unnoticed s s := ⟨rfl, rfl, rfl, id, [], by simp, by simp⟩

theorem Unnoticed.trans {u : Session} (h : Unnoticed s t) (h' : Unnoticed t u) : Unnoticed s u where
  registry := h'.registry.trans h.registry
  settings := h'.settings.trans h.settings
  buffers := h'.buffers.trans h.buffers
  unclosed hs := h'.unclosed (h.unclosed hs)
  trace := by
    obtain ⟨first, ht, hfirst⟩ := h.trace
    obtain ⟨second, hu, hsecond⟩ := h'.trace
    refine ⟨first ++ second, by rw [hu, ht, List.append_assoc], fun e he => ?_⟩
    obtain he | he := List.mem_append.mp he
    · exact hfirst e he
    · exact hsecond e he

theorem Unnoticed.closings (h : Unnoticed s t) : t.closings = s.closings := by
  obtain ⟨events, ht, he⟩ := h.trace
  unfold Session.closings
  rw [ht, List.countP_append, Nat.add_eq_left, List.countP_eq_zero]
  intro e hm
  have hunseen := he e hm
  cases e <;> simp_all [Event.isUnseen]

theorem Unnoticed.lastShown (h : Unnoticed s t) (place : Nat) :
    t.lastShown place = s.lastShown place := by
  obtain ⟨events, ht, he⟩ := h.trace
  refine lastShown_append ht fun e hm => ?_
  have hunseen := he e hm
  cases e with
  | called other call => cases call <;> first | rfl | cases hunseen
  | _ => rfl

theorem unnoticed_record (s : Session) {e : Event} (h : e.isUnseen = true) :
    Unnoticed s (s.record e) :=
  ⟨rfl, rfl, rfl, id, [e], rfl, by simpa using h⟩

theorem unnoticed_deliver (s : Session) (isDelivered : Bool) (n : Notice) :
    Unnoticed s (Pool.deliver s isDelivered n) := by
  cases isDelivered with
  | false => exact Unnoticed.refl s
  | true => exact s.unnoticed_record rfl

theorem unnoticed_reportSending (s : Session) (place : Nat) (why : Failure) :
    Unnoticed s (s.reportSending place why) := by
  unfold reportSending reportFailure callHost
  split
  · split
    · exact Unnoticed.refl s
    · exact s.unnoticed_record rfl
  · exact Unnoticed.refl s

theorem unnoticed_joined (s : Session) : Unnoticed s s.joined.1 := by
  unfold joined
  split
  · exact Unnoticed.refl s
  · exact ⟨rfl, rfl, rfl, id, [], by simp, by simp⟩

theorem unnoticed_exchangeFailed (s : Session) (number : Nat) (why : Failure) :
    Unnoticed s (s.exchangeFailed number why) := by
  unfold exchangeFailed
  dsimp only
  split
  · exact ⟨rfl, rfl, rfl, by simp, [], by simp [setExchange], by simp⟩
  · exact ⟨rfl, rfl, rfl, id, [], by simp [setExchange], by simp⟩

/-- A handshake goes on unnoticed. -/
theorem unnoticed_shakes {m : Move} (h : Pool.Shakes s m t) (about : m.exchange? ≠ none) :
    Unnoticed s t := by
  cases h with
  | rests other | schedules other => exact absurd other about
  | gives => exact ⟨rfl, rfl, rfl, by simp, [], by simp, by simp⟩
  | asks => exact ⟨rfl, rfl, rfl, by simp, _, rfl, by simp [Event.isUnseen]⟩
  | fails => exact s.unnoticed_exchangeFailed _ _
  | comesLate => exact ⟨rfl, rfl, rfl, id, [], by simp [setExchange], by simp⟩
  | answers => exact ⟨rfl, rfl, rfl, id, _, rfl, by simp [Event.isUnseen]⟩
  | @announces number isDelivered outcome announcing =>
    exact (s.unnoticed_deliver isDelivered .initialized).trans
      ⟨rfl, rfl, rfl, by simp [exchangeAnnounced, setExchange], [],
        by simp [exchangeAnnounced, setExchange], by simp⟩

/-- A message that nobody is told changes nothing. -/
theorem perform_publish_of_nobody (h : s.broadcast.listeners = []) (depth : Nat) (push : Push) :
    s.perform depth (.publish push) = some (s, .ok ()) := by
  rw [perform, commandWith, publishWith, h]
  rfl

theorem viewActs_of_idle (h : s.settings.views = Settings.idle) (place : Nat) (push : Push) :
    s.viewActs place push = [] := by
  unfold viewActs
  split
  · rw [h]
    rfl
  · rfl

/-- A message that only one buffer is told is shown to it, and nothing else happens if hosts do
nothing then. -/
theorem perform_publish (h : s.broadcast.listeners = [.buffer place])
    (hidle : s.settings.views = Settings.idle) (depth : Nat) (push : Push) :
    s.perform depth (.publish push) = some (s.showFindings place push, .ok ()) := by
  have htold : tellWith (commands depth) push s (.buffer place) =
      some (s.showFindings place push) := by
    rw [tellWith, viewActs_of_idle hidle]
    cases depth <;> rfl
  rw [perform, commandWith, publishWith, h, List.foldlM_cons, htold]
  rfl

end
end Session

/-- Without an owner a message comes, or the handshake or an operation goes on. -/
theorem spontaneous_cases {m : Move} (h : m.isSpontaneous = true) :
    (∃ push, m = .command (.publish push)) ∨ m.exchange? ≠ none ∨ m.task? ≠ none := by
  cases m with
  | submit => cases h
  | command c =>
    cases c with
    | publish push => exact .inl ⟨push, rfl⟩
    | _ => cases h
  | beginExchange | answerExchange | announceExchange => exact .inr (.inl nofun)
  | begin | wake | grant | sent | answer => exact .inr (.inr nofun)

/-- A handshake goes on unnoticed, and no operation with it. -/
theorem Pool.unnoticed_move {depth : Nat} {p q : Pool} {m : Move}
    (possible : p.move? depth m = some q) (about : m.exchange? ≠ none) :
    Session.Unnoticed p.session q.session ∧ q.tasks = p.tasks := by
  refine ⟨Session.unnoticed_shakes (shakes_move possible) about, ?_⟩
  cases moves_of_possible possible with
  | beginExchange | answerExchange | announceExchange => rfl
  | _ => exact absurd rfl about

/-! ## The session of a probe -/

namespace Probe
open Session

/-- The findings that a message brings about the document of a probe, if they are shown. -/
def delivers? (options : Options) (path : FilePath) : ProbeMove → Option (List Finding)
  | .act (.command (.publish ⟨method, .findings found⟩)) =>
    if method = Push.publishMethod ∧ found.uri = path.uri ∧
        (options.features .diagnostics).isTruthy = true then
      some found.findings
    else none
  | _ => none

/-- Nobody is attached to a session but the buffer of a probe, with which it closes. -/
structure Occupied (s : Session) : Prop where
  itself : s.settings.closesItself = true
  idle : s.settings.views = Settings.idle
  attached : s.attached = [(place, 0)]
  live : s.broadcast.live = [⟨0, .buffer place⟩]
  closings : s.closings = 0
  unclosed : s.phase ≠ .closed

/-- A buffer is that of a probe. -/
structure IsFor (options : Options) (path : FilePath) (b : Buffer) : Prop where
  name : b.name = path.uri
  uri : b.uri = path.uri
  options : b.options = bufferOptions options

/-- How far a document is opened, with what its buffer holds then. -/
inductive Opens (path : FilePath) (document : Document) : Task → Document → Prop where
  | created : Opens path document (.created (.openBuffer path.uri document)) .empty
  | waits (number : Nat) :
    Opens path document (.running (.paused (.exchange number (.openBuffer place document)))) .empty
  | tells (n : Notice) :
    Opens path document (.running (.paused (.notice n (.opened place)))) document
  | failed (why : Failure) : Opens path document (.running (.finished (.error why))) .empty
  | opened (r : Result) : Opens path document (.running (.finished (.ok r))) document

/-- The session of a probe that has not left, where its document is opened so far. What was shown
last lies inside the document and is sorted. -/
structure Watches (options : Options) (path : FilePath) (document : Document) (task : Task)
    (s : Session) : Prop extends Occupied s where
  buffers : ∃ b, s.buffers = [b] ∧ IsFor options path b
  opens : Opens path document task (s.buffer place).text
  inside : ∀ g ∈ s.lastShown place, (s.buffer place).text.Holds g
  sorted : (s.lastShown place).Pairwise fun g h => g.start ≤ h.start

section
variable {options : Options} {path : FilePath} {document : Document} {task later : Task}
  {s t : Session} {a : Advance} {depth : Nat} {p q : Pool} {m : Move}

theorem buffer_eq {b : Buffer} (h : s.buffers = [b]) : s.buffer place = b := by
  simp [Session.buffer, h, place]

theorem Occupied.unnoticed (h : Occupied s) (hu : Unnoticed s t) : Occupied t where
  itself := by rw [hu.settings, h.itself]
  idle := by rw [hu.settings, h.idle]
  attached := (congrArg Registry.attached hu.registry).trans h.attached
  live := (congrArg (fun r => r.broadcast.live) hu.registry).trans h.live
  closings := hu.closings.trans h.closings
  unclosed := hu.unclosed h.unclosed

/-- The session may stay as it is while the operation comes further. -/
theorem Watches.onward (h : Watches options path document task s)
    (hl : Opens path document later (s.buffer place).text) :
    Watches options path document later s :=
  { h with opens := hl }

theorem Watches.unnoticed (h : Watches options path document task s) (hu : Unnoticed s t) :
    Watches options path document task t := by
  have hbuffer : t.buffer place = s.buffer place := congrArg (·.getD place default) hu.buffers
  obtain ⟨b, hb, hfor⟩ := h.buffers
  refine ⟨h.toOccupied.unnoticed hu, ⟨b, hu.buffers.trans hb, hfor⟩, ?_, ?_, ?_⟩
  · rw [hbuffer]
    exact h.opens
  · rw [hu.lastShown, hbuffer]
    exact h.inside
  · rw [hu.lastShown]
    exact h.sorted

/-- An operation of a probe has gone on, and what was shown last stays. -/
structure Advances (options : Options) (path : FilePath) (document : Document) (s : Session)
    (a : Advance) : Prop where
  watches : Watches options path document (.running a.2) a.1
  lastShown : a.1.lastShown place = s.lastShown place

theorem Advances.trans (hu : Unnoticed s t) (h : Advances options path document t a) :
    Advances options path document s a :=
  ⟨h.watches, h.lastShown.trans (hu.lastShown place)⟩

/-- The document takes the place of the empty one, in which everything started at the beginning. -/
theorem advances_openBuffer (h : Watches options path document task s)
    (unread : (s.buffer place).text = .empty) :
    Advances options path document s (s.openBuffer place document) := by
  obtain ⟨b, hb, hfor⟩ := h.buffers
  have hbuffers : (s.openBuffer place document).1.buffers =
      [{ b with text := document, version := 1 }] := by
    simp [openBuffer, notify, record, Session.modify, hb, place]
  have hshown : (s.openBuffer place document).1.lastShown place = s.lastShown place :=
    lastShown_append rfl (by simp [Event.shown?])
  refine ⟨⟨⟨h.itself, h.idle, h.attached, h.live, ?_, h.unclosed⟩, ?_, ?_, ?_, ?_⟩, hshown⟩
  · exact (local_openBuffer s place document).steady.closings.trans h.closings
  · exact ⟨_, hbuffers, hfor.name, hfor.uri, hfor.options⟩
  · rw [buffer_eq hbuffers]
    exact .tells _
  · rw [hshown, buffer_eq hbuffers]
    intro g hg
    have hinside := h.inside g hg
    rw [unread] at hinside
    exact Document.holds_of_empty hinside document
  · rw [hshown]
    exact h.sorted

/-- Once the handshake is over, the document is opened, or the operation fails. -/
theorem advances_afterHandshake (h : Watches options path document task s)
    (unread : (s.buffer place).text = .empty) (outcome : Except Failure Unit) :
    Advances options path document s (s.afterHandshake (.openBuffer place document) outcome) := by
  cases outcome with
  | ok u => exact advances_openBuffer h unread
  | error why => exact ⟨h.onward (unread ▸ .failed why), rfl⟩

/-- Whoever opens the document begins with the handshake. -/
theorem advances_handshake (h : Watches options path document task s)
    (unread : (s.buffer place).text = .empty) :
    Advances options path document s (s.handshake (.openBuffer place document)) := by
  have hu := s.unnoticed_joined
  have hjoined := h.unnoticed hu
  have hunread : (s.joined.1.buffer place).text = .empty := by
    rw [Session.buffer, hu.buffers]
    exact unread
  unfold handshake
  rw [if_neg h.unclosed]
  dsimp only
  split
  · exact .trans hu (advances_afterHandshake hjoined hunread _)
  · exact ⟨hjoined.onward (hunread ▸ .waits _), hu.lastShown place⟩

theorem find?_eq (h : Watches options path document task s) : s.find? path.uri = some place := by
  obtain ⟨b, hb, hfor⟩ := h.buffers
  simp [find?, hb, hfor.name, place]

/-- The server was told about the document, or could not be told; what was read stays. -/
theorem advances_bufferOpened {n : Notice}
    (h : Watches options path document (.running (.paused (.notice n (.opened place)))) s)
    (outcome : Except Failure Unit) :
    Advances options path document s (s.bufferOpened place outcome) := by
  have hopened : Watches options path document (.running (.finished (.ok .done))) s := by
    have hopens := h.opens
    refine h.onward ?_
    generalize (s.buffer place).text = held at hopens ⊢
    cases hopens
    exact .opened _
  cases outcome with
  | ok u => exact ⟨hopened, rfl⟩
  | error why =>
    have hu := s.unnoticed_reportSending place why
    exact ⟨hopened.unnoticed hu, hu.lastShown place⟩

/-- What is shown of a message. -/
theorem showFindings_eq (h : Watches options path document task s) (push : Push) :
    s.showFindings place push =
      match delivers? options path (.act (.command (.publish push))) with
      | none => s
      | some findings => s.record
          (.called place (.showDiagnostics ((s.buffer place).text.diagnostics findings))) := by
  obtain ⟨b, hb, hfor⟩ := h.buffers
  obtain ⟨method, params⟩ := push
  cases params with
  | untyped v => simp [showFindings, delivers?]
  | findings found =>
    by_cases hm : method = Push.publishMethod
    · by_cases hd : found.uri = path.uri ∧ (options.features .diagnostics).isTruthy = true
      · simp [showFindings, delivers?, hm, hd, buffer_eq hb, hfor.uri, hfor.options, bufferOptions,
          callHost, Callback.quiet]
      · simp [showFindings, delivers?, hm, hd, buffer_eq hb, hfor.uri, hfor.options, bufferOptions]
    · simp [showFindings, delivers?, hm]

/-- A message about the document is shown in the document as it is then. -/
theorem watches_shows (h : Watches options path document task s) (findings : List Finding) :
    Watches options path document task (s.record
      (.called place (.showDiagnostics ((s.buffer place).text.diagnostics findings)))) where
  itself := h.itself
  idle := h.idle
  attached := h.attached
  live := h.live
  closings := (local_record s rfl).steady.closings.trans h.closings
  unclosed := h.unclosed
  buffers := h.buffers
  opens := h.opens
  inside := by
    rw [lastShown_called]
    exact Document.holds_diagnostics _ findings
  sorted := by
    rw [lastShown_called]
    exact Document.pairwise_diagnostics _ findings

/-- What was shown last when a move was made. -/
def shownAfter (options : Options) (path : FilePath) (s : Session) (m : Move) : List Diagnostic :=
  ((delivers? options path (.act m)).map (s.buffer place).text.diagnostics).getD (s.lastShown place)

theorem watches_publish (h : Watches options path document task s) {push : Push}
    {b : Session × Except Failure Unit} (performs : s.perform depth (.publish push) = some b) :
    Watches options path document task b.1 ∧
      b.1.lastShown place = shownAfter options path s (.command (.publish push)) := by
  have hlisteners : s.broadcast.listeners = [.buffer place] := by
    rw [Broadcast.listeners, h.live]
    rfl
  rw [perform_publish hlisteners h.idle] at performs
  cases performs
  rw [showFindings_eq h, shownAfter]
  cases delivers? options path (.act (.command (.publish push))) with
  | none => exact ⟨h, rfl⟩
  | some findings => exact ⟨watches_shows h findings, lastShown_called s place _⟩

/-- Only messages change what was shown last. -/
theorem shownAfter_eq (h : ∀ push, m ≠ .command (.publish push)) :
    shownAfter options path s m = s.lastShown place := by
  have hnone : delivers? options path (.act m) = none := by
    unfold delivers?
    split
    · rename_i heq
      cases heq
      exact absurd rfl (h _)
    · rfl
  rw [shownAfter, hnone]
  rfl

/-- The only operation of a probe goes on with opening the document. -/
theorem exists_advances (tasks : p.tasks = [task])
    (h : Watches options path document task p.session) (possible : p.move? depth m = some q)
    (about : m.task? ≠ none) :
    ∃ a, q = p.advance 0 a ∧ Advances options path document p.session a := by
  have hopens := h.opens
  generalize hd : (p.session.buffer place).text = held at hopens
  have honly {who : Nat} {t : Task} (ht : p.tasks[who]? = some t) : who = 0 ∧ task = t := by
    rw [tasks, List.getElem?_singleton] at ht
    split at ht <;> cases ht
    exact ⟨‹_›, rfl⟩
  cases Pool.moves_of_possible possible with
  | submit | command | beginExchange | answerExchange | announceExchange => exact absurd rfl about
  | @begin who operation a created begins =>
    obtain ⟨rfl, rfl⟩ := honly created
    cases hopens
    simp only [Session.begin, inBuffer, find?_eq h, Option.some.injEq] at begins
    subst begins
    exact ⟨_, rfl, advances_handshake h hd⟩
  | @wake who number next outcome paused ended =>
    obtain ⟨rfl, rfl⟩ := honly (Pool.pause?_eq_some.mp paused)
    cases hopens
    exact ⟨_, rfl, advances_afterHandshake h hd outcome⟩
  | @sent who n next isDelivered outcome paused =>
    obtain ⟨rfl, rfl⟩ := honly (Pool.pause?_eq_some.mp paused)
    cases hopens
    have hu := p.session.unnoticed_deliver isDelivered n
    exact ⟨_, rfl, .trans hu (advances_bufferOpened (h.unnoticed hu) outcome)⟩
  | grant paused | answer _ paused =>
    obtain ⟨rfl, rfl⟩ := honly (Pool.pause?_eq_some.mp paused)
    cases hopens

/-- Whatever happens in the session of a probe, the document is opened, or could not be opened,
and what was shown last is what the server has sent last about it. -/
theorem watches_move (tasks : p.tasks = [task])
    (h : Watches options path document task p.session) (spontaneous : m.isSpontaneous = true)
    (possible : p.move? depth m = some q) :
    ∃ later, q.tasks = [later] ∧ Watches options path document later q.session ∧
      q.session.lastShown place = shownAfter options path p.session m := by
  obtain ⟨push, rfl⟩ | about | about := spontaneous_cases spontaneous
  · cases Pool.moves_of_possible possible with
    | command performs => exact ⟨task, tasks, watches_publish h performs⟩
  · obtain ⟨hu, htasks⟩ := Pool.unnoticed_move possible about
    refine ⟨task, htasks.trans tasks, h.unnoticed hu, ?_⟩
    rw [shownAfter_eq, hu.lastShown]
    rintro push rfl
    exact about rfl
  · obtain ⟨a, rfl, ha⟩ := exists_advances tasks h possible about
    refine ⟨.running a.2, by simp [Pool.advance, tasks], ha.watches, ?_⟩
    rw [shownAfter_eq]
    · exact ha.lastShown
    · rintro push rfl
      exact about rfl

end
end Probe
end EditorLink
