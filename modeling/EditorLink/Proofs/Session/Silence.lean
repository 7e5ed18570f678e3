import EditorLink.Proofs.Session.Exchanges

/-!
# Silence after closing

Whoever starts after a session was closed finds it so and sends nothing. Whoever started
before and waits may still send, since some do not look at the session again: the exchange
that was asked for but has not begun, the opening of a document that waits for a handshake,
a change whose turn comes, and a renaming whose symbol was found. A closed session is silent
in exactly those runs in which none of these goes on.
-/
namespace EditorLink

/-- Whether an exchange has not begun, or has failed. -/
def Exchange.isIdle : Exchange → Bool
  | scheduled | failed _ => true
  | _ => false

/-- Whether the server was told with a move that the session starts. -/
def Move.announces : Move → Bool
  | .announceExchange _ _ _ => true
  | _ => false

namespace Session

/-- A session on which nobody who looks at it sends anything. -/
structure Hushed (s : Session) : Prop where
  isReady : s.isReady = false
  closed_or_idle : s.phase = .closed ∨ ∀ e ∈ s.exchanges, e.isIdle = true

section
variable {s t : Session} {number : Nat} {e later : Exchange}

theorem Hushed.rests (h : s.Hushed) (hr : Rests s t) : t.Hushed where
  isReady := by
    rw [← Bool.not_eq_true]
    intro ht
    have hready := hr.lives.isReady ht
    rw [h.isReady] at hready
    cases hready
  closed_or_idle := by
    rw [hr.exchanges]
    obtain ⟨hp, -⟩ | ⟨-, hp, -⟩ := hr.lives
    · rw [hp]
      exact h.closed_or_idle
    · exact .inl hp

theorem Rests.ready_or_hushed (hr : Rests s t) (h : s.isReady = true) :
    t.isReady = true ∨ t.Hushed := by
  obtain ⟨-, hkept, -⟩ | ⟨-, hphase, hoff, -⟩ := hr.lives
  · exact .inl (hkept.trans h)
  · exact .inr ⟨hoff, .inl hphase⟩

theorem Hushed.scheduled (h : s.Hushed) : s.scheduled.Hushed where
  isReady := h.isReady
  closed_or_idle := by
    refine h.closed_or_idle.imp_right fun hi e he => ?_
    obtain he | he := List.mem_append.mp he
    · exact hi e he
    · rw [List.mem_singleton.mp he]
      rfl

/-- An exchange that goes on after the session was hushed finds it closed. -/
theorem Hushed.closed (h : s.Hushed) (he : s.exchanges[number]? = some e)
    (hi : e.isIdle = false) : s.phase = .closed := by
  refine h.closed_or_idle.resolve_right fun hall => ?_
  rw [hall e (List.mem_of_getElem? he)] at hi
  cases hi

/-- The only exchange that has not failed has just done so. -/
theorem Single.idle_set_failed (h : s.Single) (he : s.exchanges[number]? = some e)
    (hf : e.isFailed = false) (why : Failure) :
    ∀ e' ∈ s.exchanges.set number (.failed why), e'.isIdle = true := by
  intro e' he'
  obtain ⟨k, hk⟩ := List.mem_iff_getElem?.mp he'
  have hfail := h.others_fail he hf why k e' hk
  cases e' <;> first | rfl | cases hfail

end
end Session

namespace Pool
open Session

namespace Step
variable (x : Step)

/-- A message is handed to the transport. -/
def speaks : Bool := decide (x.before.session.messages.length < x.after.session.messages.length)

/-- An operation starts that sends a message which the host composed. -/
def isDirect : Bool := x.begun?.any Operation.isDirect

/-- Something goes on that sends a message without a look at the session: an exchange begins,
a document is opened after the handshake, a change has its turn, or a symbol is renamed that
the server has found. -/
def resumes : Bool :=
  match x.move with
  | .beginExchange number => (x.before.session.settings.introduction number).isOk
  | .wake who =>
    match x.before.pause? who with
    | some (.exchange number next) =>
      ((x.before.session.exchanges[number]?).bind Exchange.outcome?).any fun outcome =>
        next.insists outcome
    | _ => false
  | .grant _ => true
  | .answer who answer =>
    match x.before.pause? who with
    | some (.answer _ _ next) => next.insists answer
    | _ => false
  | _ => false

end Step

section
variable {depth : Nat} {settings : Settings} {p q : Pool} {m : Move} {steps : List Step}

/-- Unless the server is asked, or was told that the session starts, a hushed session
stays so. -/
theorem Shakes.hushed {s t : Session} (hs : Shakes s m t) (h : s.Hushed) (hsingle : s.Single)
    (hasks : ∀ number, m = .beginExchange number → (s.settings.introduction number).isOk = false)
    (ha : m.announces = false) : t.Hushed := by
  cases hs with
  | rests other rests => exact h.rests rests
  | schedules other free rests => exact h.scheduled.rests rests
  | gives scheduled unmade =>
    exact ⟨h.isReady, .inr (hsingle.idle_set_failed scheduled rfl _)⟩
  | @asks number i seconds scheduled made =>
    have hno := hasks number rfl
    rw [made] at hno
    cases hno
  | fails requested unread =>
    have hc := h.closed requested rfl
    unfold exchangeFailed
    rw [if_neg (by simp [hc])]
    exact ⟨h.isReady, .inl hc⟩
  | comesLate requested read closed => exact ⟨h.isReady, .inl closed⟩
  | answers requested read unclosed => exact absurd (h.closed requested rfl) unclosed
  | announces announcing => cases ha

theorem hushed_move (possible : p.move? depth m = some q) (h : p.session.Hushed)
    (hsingle : p.session.Single) (hr : Step.resumes ⟨p, m, q⟩ = false)
    (ha : m.announces = false) : q.session.Hushed := by
  refine (shakes_move possible).hushed h hsingle ?_ ha
  rintro number rfl
  exact hr

/-- The notice that the session starts makes it ready. -/
theorem isReady_of_announces (possible : p.move? depth m = some q) (ha : m.announces = true) :
    q.session.isReady = true := by
  cases moves_of_possible possible with
  | announceExchange isDelivered outcome announcing => rfl
  | _ => cases ha

theorem messages_deliver (s : Session) (isDelivered : Bool) (n : Notice) :
    (deliver s isDelivered n).messages = s.messages := by
  cases isDelivered with
  | true => exact s.messages_record rfl
  | false => rfl

/-- On a hushed session only what does not look at it sends anything. -/
theorem messages_move (possible : p.move? depth m = some q) (h : p.session.Hushed)
    (hd : Step.isDirect ⟨p, m, q⟩ = false) (hr : Step.resumes ⟨p, m, q⟩ = false) :
    q.session.messages = p.session.messages := by
  have hready : ¬ p.session.isReady = true := by simp [h.isReady]
  cases moves_of_possible possible with
  | submit operation => rfl
  | @begin who operation a created begins =>
    refine (p.session.speaks_begin depth who begins).messages_eq ?_
    rintro (hdirect | hr | ⟨hc, hsucc⟩)
    · simp [Step.isDirect, begun?_begin _ created, hdirect] at hd
    · exact hready hr
    · cases h.closed_or_idle.resolve_left hc _ hsucc
  | command performs => exact messages_commands.perform performs
  | @beginExchange number scheduled =>
    dsimp only
    obtain ⟨why, -, hb⟩ | ⟨i, hi, -⟩ := p.session.beginExchange_cases number
    · rw [hb]
      rfl
    · simp [Step.resumes, hi, Except.isOk, Except.toBool] at hr
  | @answerExchange number answer requested =>
    dsimp only
    obtain ⟨-, why, ha⟩ | ⟨c, -, ⟨-, ha⟩ | ⟨hc, -⟩⟩ :=
      p.session.exchangeAnswered_cases number answer
    · rw [ha]
      exact messages_exchangeFailed _ _ _
    · rw [ha]
      rfl
    · exact absurd (h.closed requested rfl) hc
  | announceExchange isDelivered outcome announcing =>
    exact messages_deliver p.session isDelivered .initialized
  | wake paused ended =>
    refine (p.session.speaks_afterHandshake _ _).messages_eq ?_
    simpa [Step.resumes, paused, ended] using hr
  | grant paused holds => cases hr
  | @sent who n next isDelivered outcome paused =>
    have hdel := messages_deliver p.session isDelivered n
    refine ((speaks_noticeSent _ outcome next).messages_eq fun hs => hready ?_).trans hdel
    cases isDelivered <;> exact hs
  | answer answer paused =>
    refine (p.session.speaks_answered _ _).messages_eq ?_
    simpa [Step.resumes, paused] using hr

theorem afterHandshake_insists {s : Session} {next : AfterHandshake} {outcome : Except Failure Unit}
    (h : next.insists outcome = true) : (s.afterHandshake next outcome).2.message?.isSome = true := by
  cases next with
  | finish => cases h
  | openBuffer place text =>
    cases outcome with
    | error why => cases h
    | ok u => rfl

theorem answered_insists {s : Session} {next : AfterAnswer} {answer : Except Failure Value}
    (h : next.insists answer = true) : (s.answered answer next).2.message?.isSome = true := by
  cases next with
  | prepareRename place position newName =>
    cases answer with
    | error why => cases h
    | ok v => cases v <;> first | rfl | cases h
  | _ => cases h

/-- Whatever goes on without a look at the session sends a message, and not one that the
host composed. -/
theorem speaks_of_resumes (possible : p.move? depth m = some q)
    (hr : Step.resumes ⟨p, m, q⟩ = true) :
    Step.speaks ⟨p, m, q⟩ = true ∧ Step.isDirect ⟨p, m, q⟩ = false := by
  unfold Step.speaks
  rw [decide_eq_true_iff]
  cases moves_of_possible possible with
  | @beginExchange number scheduled =>
    refine ⟨?_, rfl⟩
    obtain ⟨why, hw, -⟩ | ⟨i, -, hb⟩ := p.session.beginExchange_cases number
    · simp [Step.resumes, hw, Except.isOk, Except.toBool] at hr
    · simp [hb, messages, Event.isMessage]
  | wake paused ended =>
    refine ⟨(p.session.speaks_afterHandshake _ _).length_lt (afterHandshake_insists ?_), rfl⟩
    simpa [Step.resumes, paused, ended] using hr
  | grant paused holds => exact ⟨(p.session.speaks_turnCame _ _).length_lt rfl, rfl⟩
  | answer answer paused =>
    refine ⟨(p.session.speaks_answered _ _).length_lt (answered_insists ?_), rfl⟩
    simpa [Step.resumes, paused] using hr
  | _ => cases hr

/-- A ready session stays so until it is closed. -/
theorem Shakes.ready_or_hushed {s t : Session} (hs : Shakes s m t) (h : s.isReady = true) :
    t.isReady = true ∨ t.Hushed := by
  cases hs with
  | rests other rests => exact rests.ready_or_hushed h
  | schedules other free rests => exact rests.ready_or_hushed h
  | gives | asks | comesLate | answers => exact .inl h
  | fails requested unread =>
    refine .inl ?_
    unfold exchangeFailed
    dsimp only
    split <;> exact h
  | announces announcing => exact .inl rfl

/-- Once a session was closed, it is hushed or ready again, as long as nothing goes on without a
look at it. -/
theorem ready_or_hushed_move (possible : p.move? depth m = some q)
    (h : p.session.isReady = true ∨ p.session.Hushed) (hsingle : p.session.Single)
    (hr : Step.resumes ⟨p, m, q⟩ = false) : q.session.isReady = true ∨ q.session.Hushed := by
  obtain hready | hhushed := h
  · exact (shakes_move possible).ready_or_hushed hready
  · cases ha : m.announces with
    | true => exact .inl (isReady_of_announces possible ha)
    | false => exact .inr (hushed_move possible hhushed hsingle hr ha)

/-- What holds of a session that is not closed, or is since as it is when it is hushed. -/
structure Discreet (since : Session → Prop) (s : Session) : Prop where
  single : s.Single
  closed : 0 < s.closings → since s

section
variable {since : Session → Prop}

theorem discreet_start (settings : Settings) : Discreet since (Session.start settings) :=
  ⟨single_start settings, fun h => by cases h⟩

/-- A session is hushed as soon as it is closed, so only what follows has to be looked at. -/
theorem discreet_move (possible : p.move? depth m = some q) (h : Discreet since p.session)
    (hushed : ∀ s : Session, s.Hushed → since s)
    (hm : 0 < p.session.closings → since p.session → since q.session) :
    Discreet since q.session := by
  refine ⟨(shakes_move possible).single h.single, fun hq => ?_⟩
  by_cases hp : 0 < p.session.closings
  · exact hm hp (h.closed hp)
  · -- only who closes a session counts as having closed it
    obtain (⟨-, -, hc⟩ | ⟨-, hphase, hready, -⟩) | hset | ⟨number, answer, rfl⟩ := lives_move possible
    · omega
    · exact hushed _ ⟨hready, .inl hphase⟩
    · have := (closings_move_of_setsPhase possible hset).1
      omega
    · cases moves_of_possible possible
      rw [closings_exchangeAnswered] at hq
      omega

end

/-- On a hushed session only operations that send what the host composed speak, as long as nothing
goes on without a look at it. -/
theorem isDirect_of_hushed (possible : p.move? depth m = some q) (h : p.session.Hushed)
    (hr : Step.resumes ⟨p, m, q⟩ = false) (hs : Step.speaks ⟨p, m, q⟩ = true) :
    Step.isDirect ⟨p, m, q⟩ = true := by
  by_contra hd
  have heq := messages_move possible h (Bool.not_eq_true _ ▸ hd) hr
  simp [Step.speaks, heq] at hs

theorem resumes_eq_false (possible : p.move? depth m = some q)
    (h : Step.speaks ⟨p, m, q⟩ = true → Step.isDirect ⟨p, m, q⟩ = true) :
    Step.resumes ⟨p, m, q⟩ = false := by
  rw [← Bool.not_eq_true]
  intro hr
  obtain ⟨hs, hd⟩ := speaks_of_resumes possible hr
  simp [h hs] at hd

/-- After a session was closed no operation sends a message of its own in exactly those runs in
which nothing goes on then that sends without a look at the session, and nobody sends who looks at
the session and finds that it has become ready again. -/
theorem silent_iff (run : Run depth (ofSession (.start settings)) steps q) :
    (∀ x ∈ steps, 0 < x.before.session.closings → x.speaks = true → x.isDirect = true) ↔
      ∀ x ∈ steps, 0 < x.before.session.closings → x.resumes = false ∧
        (x.before.session.isReady = true → x.speaks = true → x.isDirect = true) := by
  constructor
  · intro h x hx hc
    exact ⟨resumes_eq_false (run.step_possible hx) (h x hx hc), fun _ => h x hx hc⟩
  · intro h x hx hc
    have hx' := run.invariant_before
      (P := fun p => Discreet (fun s => s.isReady = true ∨ s.Hushed) p.session)
      (discreet_start settings) (fun y hy hd => discreet_move (run.step_possible hy) hd
        (fun s hs => .inr hs) fun hclosed hsince =>
          ready_or_hushed_move (run.step_possible hy) hsince hd.single (h y hy hclosed).1) hx
    obtain ⟨hr, hspeaks⟩ := h x hx hc
    obtain hready | hhushed := hx'.closed hc
    · exact hspeaks hready
    · exact isDirect_of_hushed (run.step_possible hx) hhushed hr

/-- After a session was closed it is also not ready in exactly those runs in which the server is not
told then that the session starts either. -/
theorem silent_and_unready_iff (run : Run depth (ofSession (.start settings)) steps q) :
    (∀ x ∈ steps, 0 < x.before.session.closings →
        x.after.session.isReady = false ∧ (x.speaks = true → x.isDirect = true)) ↔
      ∀ x ∈ steps, 0 < x.before.session.closings →
        x.resumes = false ∧ x.move.announces = false := by
  constructor
  · intro h x hx hc
    have possible := run.step_possible hx
    obtain ⟨hready, hspeaks⟩ := h x hx hc
    refine ⟨resumes_eq_false possible hspeaks, ?_⟩
    rw [← Bool.not_eq_true]
    intro ha
    simp [isReady_of_announces possible ha] at hready
  · intro h x hx hc
    have possible := run.step_possible hx
    have hx' := run.invariant_before (P := fun p => Discreet Session.Hushed p.session)
      (discreet_start settings) (fun y hy hd => discreet_move (run.step_possible hy) hd
        (fun s hs => hs) fun hclosed hsince => hushed_move (run.step_possible hy) hsince hd.single
          (h y hy hclosed).1 (h y hy hclosed).2) hx
    obtain ⟨hr, ha⟩ := h x hx hc
    have hhushed := hx'.closed hc
    exact ⟨(hushed_move possible hhushed hx'.single hr ha).isReady,
      isDirect_of_hushed possible hhushed hr⟩

/-- After a session was closed no operation sends a message of its own in exactly those runs in
which nothing goes on then that sends without a look at the session, and nobody sends who finds the
session ready again. It is also not ready in exactly those runs in which the server is not told then
that the session starts either. -/
theorem silent_after_closing_iff (run : Run depth (ofSession (.start settings)) steps q) :
    ((∀ x ∈ steps, 0 < x.before.session.closings → x.speaks = true → x.isDirect = true) ↔
      ∀ x ∈ steps, 0 < x.before.session.closings → x.resumes = false ∧
        (x.before.session.isReady = true → x.speaks = true → x.isDirect = true)) ∧
    ((∀ x ∈ steps, 0 < x.before.session.closings →
        x.after.session.isReady = false ∧ (x.speaks = true → x.isDirect = true)) ↔
      ∀ x ∈ steps, 0 < x.before.session.closings →
        x.resumes = false ∧ x.move.announces = false) :=
  ⟨silent_iff run, silent_and_unready_iff run⟩

end

/-- A document is opened at a server that finds symbols before it renames them. -/
def openingToRename : List Move :=
  [.command (.create "a" "file:///a" "text" .standard),
    .submit (.openBuffer "a" (.ofText "a".toList)), .begin 0, .beginExchange 0,
    .answerExchange 0 (.ok (Wire.ofIntroduced (.object [("renameProvider",
      .object [("prepareProvider", .bool true)])]))),
    .announceExchange 0 true (.ok ()), .wake 0, .sent 0 true (.ok ())]

/-- The session is closed while the server looks for a symbol, which it does not find; what
starts afterwards finds the session closed. -/
def closingWhileSearching : List Move :=
  openingToRename ++ [.submit (.rename "a" ⟨0, 0⟩ "b"), .begin 1, .command .close,
    .answer 1 (.ok .null), .submit (.update "a" (.ofText "ab".toList) none none), .begin 2,
    .submit .handshake, .begin 3]

/-- The two runs are silent; in the second one the session becomes ready again. -/
theorem silent_closingWhileSearching :
    ((ofSession (.start .standard)).run? 0 closingWhileSearching).isSome = true ∧
      (∀ x ∈ trail 0 (ofSession (.start .standard)) closingWhileSearching,
        0 < x.before.session.closings →
          x.after.session.isReady = false ∧ (x.speaks = true → x.isDirect = true)) ∧
      ((ofSession (.start .standard)).run? 0 closingWhileAnnouncing).map (·.session.isReady) =
        some true ∧
      ∀ x ∈ trail 0 (ofSession (.start .standard)) closingWhileAnnouncing,
        0 < x.before.session.closings → x.speaks = true → x.isDirect = true :=
  ⟨rfl, (silent_after_closing_iff (run_trail rfl)).2.mpr (by decide), rfl,
    (silent_after_closing_iff (run_trail rfl)).1.mpr (by decide)⟩

/-- A session is closed while a change is sent and another one waits for its turn. -/
def closingWhileTyping : List Move :=
  openingToRename ++ [.submit (.update "a" (.ofText "ab".toList) none none), .begin 1,
    .submit (.update "a" (.ofText "abc".toList) none none), .begin 2, .command .close,
    .sent 1 true (.ok ()), .grant 2]

/-- The change that waited is sent on the closed session. -/
theorem speaks_closingWhileTyping :
    ((ofSession (.start .standard)).run? 0 closingWhileTyping).isSome = true ∧
      ∃ x ∈ trail 0 (ofSession (.start .standard)) closingWhileTyping,
        0 < x.before.session.closings ∧ x.speaks = true ∧ x.isDirect = false :=
  ⟨rfl, by decide⟩

end Pool
end EditorLink
