import EditorLink.Proofs.Session.Exchanges

/-!
# What a handshake comes to

Each exchange passes through its stages once, and all but one fail. So the exchanges of a
run are accounted for by those that failed, the one that was answered and the one whose
introduction is under way. The session turns ready once in its life, when the server was
told that it starts, with what this server can do.
-/
namespace EditorLink

/-- A move lets an exchange pass from one stage to the next. -/
inductive Move.Passes : Move → Exchange → Exchange → Prop where
  | gives {number : Nat} (why : Failure) :
    Passes (.beginExchange number) .scheduled (.failed why)
  | begins {number : Nat} : Passes (.beginExchange number) .scheduled .requested
  | fails {number : Nat} {answer : Except Failure Value} (why : Failure)
    (unread : introduced? answer = none) :
    Passes (.answerExchange number answer) .requested (.failed why)
  | comesLate {number : Nat} {answer : Except Failure Value} {c : ServerCapabilities}
    (read : introduced? answer = some c) :
    Passes (.answerExchange number answer) .requested .succeeded
  | answers {number : Nat} {answer : Except Failure Value} {c : ServerCapabilities}
    (read : introduced? answer = some c) :
    Passes (.answerExchange number answer) .requested .announcing
  | announces {number : Nat} {isDelivered : Bool} {outcome : Except Failure Unit} :
    Passes (.announceExchange number isDelivered outcome) .announcing .succeeded

namespace Exchange

/-- A stage that an exchange has to reach, and that it never leaves again. -/
structure Lasting (f : Exchange → Bool) : Prop where
  scheduled : f .scheduled = false
  passes : ∀ {m : Move} {e later : Exchange}, m.Passes e later → f e = true → f later = true

theorem lasting_isBegun : Lasting isBegun := ⟨rfl, fun h _ => by cases h <;> rfl⟩

theorem lasting_isFailed : Lasting isFailed := ⟨rfl, fun h hf => by cases h <;> cases hf⟩

theorem lasting_isAnswered : Lasting isAnswered :=
  ⟨rfl, fun h hf => by cases h <;> first | rfl | cases hf⟩

theorem lasting_isSucceeded : Lasting isSucceeded := ⟨rfl, fun h hf => by cases h <;> cases hf⟩

end Exchange

namespace Session

/-- The server was told, or is being told, that the session starts. -/
def IsHeralded (s : Session) : Prop := s.isReady = true ∨ Exchange.announcing ∈ s.exchanges

end Session

namespace Pool
open Session

/-- The server is told that the session starts when it has answered, and then only. -/
theorem Shakes.heralds {s t : Session} {m : Move} (h : Shakes s m t) :
    (∃ number answer c, m = .answerExchange number answer ∧ introduced? answer = some c ∧
      t.announcements = s.announcements + 1 ∧ t.capabilities = some c) ∨
    (t.announcements = s.announcements ∧ t.capabilities = s.capabilities ∧
      (t.IsHeralded → s.IsHeralded)) := by
  cases h with
  | rests other rests =>
    refine .inr ⟨rests.announcements, rests.capabilities, Or.imp rests.lives.isReady fun ha => ?_⟩
    rwa [← rests.exchanges]
  | schedules other free rests =>
    refine .inr ⟨rests.announcements, rests.capabilities, Or.imp rests.lives.isReady fun ha => ?_⟩
    simpa [rests.exchanges, scheduled] using ha
  | @gives number why scheduled unmade =>
    refine .inr ⟨rfl, rfl, Or.imp_right fun ha => ?_⟩
    simpa using List.mem_or_eq_of_mem_set ha
  | asks scheduled made =>
    refine .inr ⟨by simp [announcements, messages, Event.isMessage, Event.isAnnouncement], rfl,
      Or.imp_right fun ha => ?_⟩
    simpa using List.mem_or_eq_of_mem_set ha
  | @fails number answer why requested unread =>
    refine .inr ⟨congrArg (List.countP _) (s.messages_exchangeFailed number why),
      s.capabilities_exchangeFailed number why, ?_⟩
    unfold IsHeralded
    rw [isReady_exchangeFailed, exchanges_exchangeFailed]
    exact Or.imp_right fun ha => by simpa using List.mem_or_eq_of_mem_set ha
  | comesLate requested read closed =>
    refine .inr ⟨rfl, rfl, Or.imp_right fun ha => ?_⟩
    simpa using List.mem_or_eq_of_mem_set ha
  | answers requested read unclosed =>
    refine .inl ⟨_, _, _, rfl, read, ?_, rfl⟩
    rw [announcements, messages_record_message _ rfl, List.countP_append]
    rfl
  | @announces number isDelivered outcome announcing =>
    have hd := s.rests_deliver isDelivered .initialized
    exact .inr ⟨hd.announcements, hd.capabilities, fun _ => .inr (List.mem_of_getElem? announcing)⟩

/-- Only when the server was told that the session starts it turns ready. -/
theorem Shakes.isReady {s t : Session} {m : Move} (h : Shakes s m t) (hs : s.isReady = false)
    (ht : t.isReady = true) :
    ∃ number, m.exchange? = some number ∧ s.exchanges[number]? = some .announcing ∧
      t.exchanges = s.exchanges.set number .succeeded := by
  have kept (hr : t.isReady = s.isReady) : False := by simp [hr, hs] at ht
  cases h with
  | rests other rests => simp [rests.lives.isReady ht] at hs
  | schedules other free rests =>
    have hr : s.isReady = true := rests.lives.isReady ht
    simp [hr] at hs
  | fails => exact (kept (isReady_exchangeFailed _ _ _)).elim
  | @announces number isDelivered outcome announcing =>
    refine ⟨number, rfl, announcing, ?_⟩
    simp only [exchangeAnnounced, setExchange, (s.rests_deliver isDelivered .initialized).exchanges]
  | _ => exact (kept rfl).elim

/-- The server is asked by an introduction, and it is no longer asked when this comes back. -/
theorem introductions_add_of_set {s t : Session} {number : Nat} {e later : Exchange} {m : Move}
    (he : s.exchanges[number]? = some e) (ht : t.exchanges = s.exchanges.set number later)
    (hi : t.introductions = s.introductions + later.isAsking.toNat)
    (hm : m.concludes = e.isAsking) :
    t.introductions + s.asking = s.introductions + m.concludes.toNat + t.asking := by
  have hcount := countP_set_add he later Exchange.isAsking
  rw [← ht] at hcount
  rw [hi, hm, asking, asking]
  omega

theorem Shakes.introductions_add {s t : Session} {m : Move} (h : Shakes s m t) :
    t.introductions + s.asking = s.introductions + m.concludes.toNat + t.asking := by
  have hrecord {u : Session} {e : Event} (he : e.isMessage = true) :
      (u.record e).introductions = u.introductions + e.isIntroduction.toNat := by
    unfold introductions
    rw [messages_record_message _ he, List.countP_append]
    cases h : e.isIntroduction <;> simp [h]
  cases h with
  | @rests m t other rests =>
    have hm : m.concludes = false := by cases m <;> first | rfl | cases other
    rw [rests.introductions, hm, asking, asking, rests.exchanges]
    rfl
  | @schedules m t other free rests =>
    have hm : m.concludes = false := by cases m <;> first | rfl | cases other
    rw [rests.introductions, hm, asking, asking, rests.exchanges, scheduled, List.countP_append]
    rfl
  | gives scheduled unmade => exact introductions_add_of_set scheduled rfl rfl rfl
  | asks scheduled made => exact introductions_add_of_set scheduled rfl (hrecord (u := s) rfl) rfl
  | @fails number answer why requested unread =>
    exact introductions_add_of_set requested (s.exchanges_exchangeFailed number why)
      (congrArg (List.countP _) (s.messages_exchangeFailed number why)) rfl
  | comesLate requested read closed => exact introductions_add_of_set requested rfl rfl rfl
  | answers requested read unclosed =>
    exact introductions_add_of_set requested rfl (hrecord (u := Session.setExchange _ _ _) rfl) rfl
  | @announces number isDelivered outcome announcing =>
    have hd := s.rests_deliver isDelivered .initialized
    have hs : ((deliver s isDelivered .initialized).exchangeAnnounced number).exchanges =
        s.exchanges.set number .succeeded := by
      simp only [exchangeAnnounced, setExchange, hd.exchanges]
    exact introductions_add_of_set announcing hs hd.introductions rfl

/-- Either a move is about an exchange, which passes to its next stage, or it is about
none, and asks for a new one at most. -/
theorem Shakes.exchanges {s t : Session} {m : Move} (h : Shakes s m t) :
    (m.exchange? = none ∧ (t.exchanges = s.exchanges ∨ t.exchanges = s.exchanges ++ [.scheduled])) ∨
    ∃ number e later, m.exchange? = some number ∧ s.exchanges[number]? = some e ∧
      m.Passes e later ∧ t.exchanges = s.exchanges.set number later := by
  cases h with
  | rests other rests => exact .inl ⟨other, .inl rests.exchanges⟩
  | schedules other free rests => exact .inl ⟨other, .inr rests.exchanges⟩
  | gives scheduled unmade => exact .inr ⟨_, _, _, rfl, scheduled, .gives _, rfl⟩
  | asks scheduled made => exact .inr ⟨_, _, _, rfl, scheduled, .begins, rfl⟩
  | @fails number answer why requested unread =>
    exact .inr ⟨_, _, _, rfl, requested, .fails why unread, s.exchanges_exchangeFailed number why⟩
  | comesLate requested read closed => exact .inr ⟨_, _, _, rfl, requested, .comesLate read, rfl⟩
  | answers requested read unclosed => exact .inr ⟨_, _, _, rfl, requested, .answers read, rfl⟩
  | announces announcing =>
    refine .inr ⟨_, _, _, rfl, announcing, .announces, ?_⟩
    simp only [exchangeAnnounced, setExchange, (s.rests_deliver _ .initialized).exchanges]

namespace Step

/-- The exchange that a move is about comes to a stage that it had not reached. -/
def reaches (f : Exchange → Bool) (x : Step) : Bool :=
  x.move.exchange?.any fun number =>
    !(x.before.session.exchanges[number]?).any f && (x.after.session.exchanges[number]?).any f

variable (x : Step)

/-- An exchange begins. -/
def begins : Bool := x.move.begins

/-- An introduction comes back, answered or not. -/
def concludes : Bool := x.move.concludes

/-- An exchange fails. -/
def fails : Bool := x.reaches Exchange.isFailed

/-- What the server says that it can do, if it answers an introduction. -/
def introduced? : Option ServerCapabilities :=
  match x.move with
  | .answerExchange _ answer => EditorLink.introduced? answer
  | _ => none

/-- An introduction is answered. -/
def answers : Bool := x.introduced?.isSome

/-- The notice that the session starts is handed over. -/
def announces : Bool := decide (x.before.session.announcements < x.after.session.announcements)

/-- The session turns ready. -/
def turnsReady : Bool := !x.before.session.isReady && x.after.session.isReady

end Step

section
variable {depth : Nat} {settings : Settings} {p q : Pool} {m : Move} {steps : List Step}

theorem reaches_eq {number : Nat} {e later : Exchange} (hm : m.exchange? = some number)
    (he : p.session.exchanges[number]? = some e)
    (hs : q.session.exchanges = p.session.exchanges.set number later) (f : Exchange → Bool) :
    Step.reaches f ⟨p, m, q⟩ = (!f e && f later) := by
  have hlt := (List.getElem?_eq_some_iff.mp he).1
  simp only [Step.reaches, hm, he, hs, List.getElem?_set_self hlt, Option.any_some]

/-- The exchanges at a lasting stage are those that have come to it. -/
theorem countP_reaches (run : Run depth (ofSession (.start settings)) steps q)
    {f : Exchange → Bool} (hf : Exchange.Lasting f) :
    steps.countP (Step.reaches f) = q.session.exchanges.countP f := by
  induction run with
  | start => rfl
  | @next steps p q m run possible ih =>
    rw [countP_concat, ih]
    obtain ⟨hm, he | he⟩ | ⟨number, e, later, hm, he, hp, hs⟩ := (shakes_move possible).exchanges
    · simp [Step.reaches, hm, he]
    · simp [Step.reaches, hm, he, hf.scheduled]
    · have hcount := countP_set_add he later f
      have hlast := hf.passes hp
      rw [reaches_eq hm he hs, hs]
      cases hfe : f e with
      | false =>
        rw [hfe] at hcount
        simpa using hcount.symm
      | true =>
        rw [hfe, hlast hfe] at hcount
        simpa using hcount.symm

theorem begins_eq (possible : p.move? depth m = some q) :
    Step.begins ⟨p, m, q⟩ = Step.reaches Exchange.isBegun ⟨p, m, q⟩ := by
  obtain ⟨hm, -⟩ | ⟨number, e, later, hm, he, hp, hs⟩ := (shakes_move possible).exchanges
  · cases m <;> first | rfl | cases hm
  · rw [reaches_eq hm he hs]
    cases hp <;> rfl

theorem answers_eq (possible : p.move? depth m = some q) :
    Step.answers ⟨p, m, q⟩ = Step.reaches Exchange.isAnswered ⟨p, m, q⟩ := by
  obtain ⟨hm, -⟩ | ⟨number, e, later, hm, he, hp, hs⟩ := (shakes_move possible).exchanges
  · cases m <;> first | rfl | cases hm
  · rw [reaches_eq hm he hs]
    cases hp <;> simp_all [Step.answers, Step.introduced?, Exchange.isAnswered]

/-- What holds of each step of a run alike is counted alike. -/
theorem countP_congr_of_possible (run : Run depth p steps q) {f g : Step → Bool}
    (h : ∀ {p q : Pool} {m : Move}, p.move? depth m = some q → f ⟨p, m, q⟩ = g ⟨p, m, q⟩) :
    steps.countP f = steps.countP g :=
  List.countP_congr fun _ hx => by rw [h (run.step_possible hx)]

theorem countP_le_of_possible (run : Run depth p steps q) {f g : Step → Bool}
    (h : ∀ {p q : Pool} {m : Move}, p.move? depth m = some q →
      f ⟨p, m, q⟩ = true → g ⟨p, m, q⟩ = true) :
    steps.countP f ≤ steps.countP g :=
  List.countP_mono_left fun _ hx => h (run.step_possible hx)

theorem single_run (run : Run depth (ofSession (.start settings)) steps q) : q.session.Single :=
  run.invariant (P := fun p => p.session.Single) (single_start settings) fun _ hx hs =>
    (shakes_move (run.step_possible hx)).single hs

/-- Every introduction that was sent has come back, or is under way. -/
theorem introductions_eq (run : Run depth (ofSession (.start settings)) steps q) :
    q.session.introductions = steps.countP Step.concludes + q.session.asking := by
  induction run with
  | start => rfl
  | @next steps p q m run possible ih =>
    have hadd := (shakes_move possible).introductions_add
    have hx : Step.concludes ⟨p, m, q⟩ = m.concludes := rfl
    rw [countP_concat, hx]
    omega

/-- The exchanges that have begun have failed or were answered, or the server is asked. -/
theorem countP_isBegun (l : List Exchange) :
    l.countP Exchange.isBegun =
      l.countP Exchange.isFailed + l.countP Exchange.isAsking + l.countP Exchange.isAnswered := by
  induction l with
  | nil => rfl
  | cons e rest ih =>
    simp only [List.countP_cons, ih]
    cases e <;> simp only [Exchange.isBegun, Exchange.isFailed, Exchange.isAsking,
      Exchange.isAnswered, if_true, Bool.false_eq_true, if_false] <;> omega

/-- Telling the server that the session starts follows its answer at once. -/
theorem answers_of_announces (possible : p.move? depth m = some q)
    (h : Step.announces ⟨p, m, q⟩ = true) :
    Step.answers ⟨p, m, q⟩ = true ∧ q.session.capabilities = Step.introduced? ⟨p, m, q⟩ := by
  obtain ⟨number, answer, c, rfl, hi, -, hc⟩ | ⟨ha, -⟩ := (shakes_move possible).heralds
  · simp [Step.answers, Step.introduced?, hi, hc]
  · simp [Step.announces, ha] at h

/-- If the server was told that the session starts, it has answered what it can do. -/
theorem exists_announces (run : Run depth (ofSession (.start settings)) steps q)
    (h : q.session.IsHeralded) :
    ∃ x ∈ steps, x.announces = true ∧ x.answers = true ∧
      q.session.capabilities = x.introduced? := by
  induction run with
  | start => simp [IsHeralded, ofSession, Session.start] at h
  | @next steps p q m run possible ih =>
    have hs := (shakes_move possible).heralds
    by_cases ha : Step.announces ⟨p, m, q⟩ = true
    · exact ⟨_, List.mem_append_right _ (List.mem_singleton_self _), ha,
        answers_of_announces possible ha⟩
    · obtain ⟨-, -, -, -, -, hadd, -⟩ | ⟨-, hc, hi⟩ := hs
      · simp [Step.announces, hadd] at ha
      · obtain ⟨x, hx, hann, hans, hcap⟩ := ih (hi h)
        exact ⟨x, List.mem_append_left _ hx, hann, hans, hc.trans hcap⟩

/-- A session turns ready when an exchange succeeds of which the server was told. -/
theorem reaches_of_turnsReady (possible : p.move? depth m = some q)
    (h : Step.turnsReady ⟨p, m, q⟩ = true) :
    p.session.IsHeralded ∧ Step.reaches Exchange.isSucceeded ⟨p, m, q⟩ = true := by
  obtain ⟨hp, hq⟩ : p.session.isReady = false ∧ q.session.isReady = true := by
    simpa [Step.turnsReady] using h
  obtain ⟨number, hm, ha, hs⟩ := (shakes_move possible).isReady hp hq
  refine ⟨.inr (List.mem_of_getElem? ha), ?_⟩
  rw [reaches_eq hm ha hs]
  rfl

theorem along_announces (run : Run depth (ofSession (.start settings)) steps q) :
    Along (fun past x => x.turnsReady = true → past.any Step.announces = true) [] steps := by
  induction run with
  | start => trivial
  | next run possible ih =>
    refine along_concat.mpr ⟨ih, fun h => ?_⟩
    obtain ⟨x, hx, ha, -⟩ := exists_announces run (reaches_of_turnsReady possible h).1
    exact List.any_eq_true.mpr ⟨x, hx, ha⟩

end

/-- What a handshake has come to, whoever asked for it and closed it meanwhile. -/
structure Handshaken (steps : List Step) (s : Session) : Prop where
  /-- Every introduction has come back or is under way, and one at most is. -/
  introductions_eq : s.introductions = steps.countP Step.concludes + s.asking
  asking_le : s.asking ≤ 1
  /-- Every exchange has failed or was answered, or its introduction is under way. -/
  begins_eq : steps.countP Step.begins =
    steps.countP Step.fails + s.asking + steps.countP Step.answers
  answers_le : steps.countP Step.answers ≤ 1
  /-- The server is told that the session starts once at most, and when it has answered. -/
  announces_le : steps.countP Step.announces ≤ 1
  answers_of_announces : ∀ x ∈ steps, x.announces = true → x.answers = true
  /-- The session turns ready once at most, and after the server was told. -/
  turnsReady_le : steps.countP Step.turnsReady ≤ 1
  announces_before : Along (fun past x => x.turnsReady = true → past.any Step.announces = true)
    [] steps
  ready_iff : s.isReady = true ↔ s.phase = .ready
  capabilities_eq : s.isReady = true →
    ∃ x ∈ steps, x.answers = true ∧ s.capabilities = x.introduced?

/-- However many ask for the handshake, close the session and ask again, and whatever
becomes of the exchanges: they go on one at a time, and only one of them gets through. -/
theorem handshaken_run {depth : Nat} {settings : Settings} {steps : List Step} {q : Pool}
    (run : Run depth (ofSession (.start settings)) steps q) : Handshaken steps q.session := by
  have hsingle := single_run run
  have hbegins := countP_congr_of_possible run begins_eq
  have hanswers := countP_congr_of_possible run answers_eq
  rw [countP_reaches run Exchange.lasting_isBegun] at hbegins
  rw [countP_reaches run Exchange.lasting_isAnswered] at hanswers
  have hfails : steps.countP Step.fails = _ := countP_reaches run Exchange.lasting_isFailed
  have hannounces := countP_le_of_possible run fun possible h => (answers_of_announces possible h).1
  have hready := countP_le_of_possible run fun possible h => (reaches_of_turnsReady possible h).2
  rw [countP_reaches run Exchange.lasting_isSucceeded] at hready
  have hone : q.session.exchanges.countP Exchange.isAnswered ≤ 1 :=
    hsingle.countP_le_one _ fun e he => by cases e <;> first | rfl | cases he
  have hsucc : q.session.exchanges.countP Exchange.isSucceeded ≤ 1 :=
    hsingle.countP_le_one _ fun e he => by cases e <;> first | rfl | cases he
  refine ⟨introductions_eq run, ?_, ?_, by omega, by omega, ?_, by omega, along_announces run,
    hsingle.ready_iff, ?_⟩
  · exact hsingle.countP_le_one _ fun e he => by cases e <;> first | rfl | cases he
  · have hsum := countP_isBegun q.session.exchanges
    unfold asking
    omega
  · exact fun x hx h => (answers_of_announces (run.step_possible hx) h).1
  · intro hr
    obtain ⟨x, hx, -, ha, hc⟩ := exists_announces run (.inl hr)
    exact ⟨x, hx, ha, hc⟩

/-- Two ask for the handshake, which fails; one asks again, and it succeeds while a third
joins; then the session is closed. -/
def shakingTwice : List Move :=
  [.submit .handshake, .submit .handshake, .begin 0, .begin 1, .beginExchange 0,
    .answerExchange 0 (.error (.unreadableAnswer "initialize")), .wake 0, .wake 1,
    .submit .handshake, .submit .handshake, .begin 2, .beginExchange 1, .begin 3,
    .answerExchange 1 (.ok (Wire.ofIntroduced (.object []))), .announceExchange 1 true (.ok ()),
    .wake 2, .wake 3, .command .close]

theorem handshaken_shakingTwice :
    ∃ q, (ofSession (.start .standard)).run? 0 shakingTwice = some q ∧
      Handshaken (trail 0 (ofSession (.start .standard)) shakingTwice) q.session :=
  ⟨_, rfl, handshaken_run (run_trail rfl)⟩

end Pool
end EditorLink
